/-
# Reckon.Proofs.Grammar.Basic — the grammar of formulas

Which sequences of lexemes are formulas, and what their derivation trees are. The grammar is

    logical    := comparison { (&& | ||) comparison }
    comparison := sum { (< | > | <= | >= | == | != | =~) sum }
    sum        := product { (+ | -) product }
    product    := power { (* | / | %) power | power }
    power      := - power | ! power | indexed [ ^ power ]
    indexed    := primary { index }
    primary    := operand | ( logical ) | call [ logical { , logical } ] )

where the second form of a product, two factors without a sign between them, wants the second
one to start with a number, a name, a call or a parenthesis. The chains group to the left, so
`Derives` states each repetition as a left recursion.

Two things are not context-free. A call must be one of a known function with as many arguments
as it takes, and a name before a parenthesis that is no function is read as a name and a
parenthesis (`reading`). The contents of a selector are a text, which must have lexemes that
derive from `logical` in turn, and selectors nest only so deep.

A `Phrase` is a derivation tree: it keeps parentheses, products without a sign and the text of
selectors apart. `Phrase.expression` forgets what makes no difference to the value.
-/
import Reckon.Lexeme.Scan
import Reckon.Proofs.Expression.Basic

namespace Reckon

/-- A derivation tree of the grammar. -/
inductive Phrase where
  | operand (o : Operand)
  /-- A phrase in parentheses. -/
  | group (inner : Phrase)
  | call (name : String) (args : List Phrase)
  /-- A selector, by its text and the derivation tree of that text. -/
  | index (target : Phrase) (raw : String) (contents : Phrase)
  | prefixed (op : Operator) (isPrefix : op.isPrefix = true) (p : Phrase)
  | binary (op : Operator) (isBinary : op.isPrefix = false) (left right : Phrase)
  /-- A product without a sign. -/
  | juxtaposed (left right : Phrase)

namespace Phrase

mutual

/-- The tree of what a phrase computes. -/
def expression : Phrase → Expression
  | .operand o => .operand o
  | .group inner => inner.expression
  | .call name args => .call name (expressions args)
  | .index target _ contents => .index target.expression (.selector contents.expression)
  | .prefixed op isPrefix p => .prefixed op isPrefix p.expression
  | .binary op isBinary left right => .binary op isBinary left.expression right.expression
  | .juxtaposed left right => .binary .multiply rfl left.expression right.expression

/-- The trees of what phrases compute. -/
def expressions : List Phrase → List Expression
  | [] => []
  | p :: rest => p.expression :: expressions rest

end

theorem expressions_eq_map (ps : List Phrase) : expressions ps = ps.map expression := by
  induction ps with
  | nil => rfl
  | cons p ps ih =>
      rw [expressions, ih, List.map_cons]

/-- The code of a phrase: the post-order of its tree. -/
def code (p : Phrase) : Code :=
  p.expression.postorder

end Phrase

/-! ## Lexemes -/

namespace Lexeme

/-- The operand that a lexeme is by itself. -/
def operand? : Lexeme → Option Operand
  | number x => some (.number x)
  | text s => some (.text s)
  | json raw => some (.json raw)
  | pattern raw => some (.pattern raw)
  | identifier name => some (.identifier name)
  | call _ | operator _ | openParen | closeParen | comma | index _ => none

/-- Whether a factor that starts with the lexeme can follow another factor directly. -/
def startsFactor : Lexeme → Bool
  | number _ | identifier _ | call _ | openParen => true
  | text _ | json _ | pattern _ | operator _ | closeParen | comma | index _ => false

/-- How a lexeme is read: a call of what is no function is a name before a parenthesis. -/
def reading (arity? : String → Option Nat) : Lexeme → List Lexeme
  | call name => if (arity? name).isSome then [call name] else [identifier name, openParen]
  | t => [t]

end Lexeme

/-- How lexemes are read. -/
def Lexeme.readings (arity? : String → Option Nat) (ts : List Lexeme) : List Lexeme :=
  ts.flatMap (Lexeme.reading arity?)

/-! ## The grammar -/

/-- The nonterminals, from the loosest to the tightest. -/
inductive Nonterminal where
  | logical | comparison | sum | product | power | indexed | primary
deriving DecidableEq, Repr

namespace Nonterminal

/-- The nonterminal of the parts of a phrase. -/
def next : Nonterminal → Nonterminal
  | logical => comparison
  | comparison => sum
  | sum => product
  | product => power
  | power => indexed
  | indexed | primary => primary

/-- The operators that chain the parts of a phrase, from the left. -/
def operators : Nonterminal → List Operator
  | logical => [.and, .or]
  | comparison => [.less, .greater, .lessEqual, .greaterEqual, .equal, .notEqual, .matching]
  | sum => [.add, .subtract]
  | product => [.multiply, .divide, .modulo]
  | power | indexed | primary => []

end Nonterminal

/-- `DerivesWith arity? accepts depth n ts p`: the lexemes `ts` derive from the nonterminal `n` with
the derivation tree `p`, if `arity?` says what is a function, `accepts` with how many arguments it
may be called, and selectors nest at most `depth` deep. -/
inductive DerivesWith (arity? : String → Option Nat) (accepts : String → Nat → Prop) :
    Nat → Nonterminal → List Lexeme → Phrase → Prop
  | single {depth : Nat} {n : Nonterminal} {ts : List Lexeme} {p : Phrase} :
      n ≠ .primary → DerivesWith arity? accepts depth n.next ts p →
      DerivesWith arity? accepts depth n ts p
  | chain {depth : Nat} {n : Nonterminal} {op : Operator} {ts us : List Lexeme}
      {p q : Phrase} (isBinary : op.isPrefix = false) :
      op ∈ n.operators → DerivesWith arity? accepts depth n ts p →
      DerivesWith arity? accepts depth n.next us q →
      DerivesWith arity? accepts depth n (ts ++ .operator op :: us) (.binary op isBinary p q)
  | juxtaposed {depth : Nat} {ts us : List Lexeme} {p q : Phrase} :
      us.head?.any Lexeme.startsFactor = true → DerivesWith arity? accepts depth .product ts p →
      DerivesWith arity? accepts depth .power us q →
      DerivesWith arity? accepts depth .product (ts ++ us) (.juxtaposed p q)
  | negation {depth : Nat} {ts : List Lexeme} {p : Phrase} :
      DerivesWith arity? accepts depth .power ts p →
      DerivesWith arity? accepts depth .power (.operator .subtract :: ts)
        (.prefixed .negate rfl p)
  | complement {depth : Nat} {ts : List Lexeme} {p : Phrase} :
      DerivesWith arity? accepts depth .power ts p →
      DerivesWith arity? accepts depth .power (.operator .not :: ts) (.prefixed .not rfl p)
  | raised {depth : Nat} {ts us : List Lexeme} {p q : Phrase} :
      DerivesWith arity? accepts depth .indexed ts p →
      DerivesWith arity? accepts depth .power us q →
      DerivesWith arity? accepts depth .power (ts ++ .operator .power :: us)
        (.binary .power rfl p q)
  | index {depth : Nat} {ts us : List Lexeme} {raw : String} {p q : Phrase} :
      DerivesWith arity? accepts (depth + 1) .indexed ts p → Lexeme.scan raw = .ok us →
      DerivesWith arity? accepts depth .logical (Lexeme.readings arity? us) q →
      DerivesWith arity? accepts (depth + 1) .indexed (ts ++ [.index raw]) (.index p raw q)
  | operand {depth : Nat} {t : Lexeme} {o : Operand} :
      t.operand? = some o → DerivesWith arity? accepts depth .primary [t] (.operand o)
  | group {depth : Nat} {ts : List Lexeme} {p : Phrase} :
      DerivesWith arity? accepts depth .logical ts p →
      DerivesWith arity? accepts depth .primary (.openParen :: ts ++ [.closeParen]) (.group p)
  /-- The arguments, each by its lexemes and its derivation tree. -/
  | call {depth : Nat} {name : String} (parts : List (List Lexeme × Phrase)) :
      accepts name parts.length →
      (∀ part ∈ parts, DerivesWith arity? accepts depth .logical part.1 part.2) →
      DerivesWith arity? accepts depth .primary
        (.call name :: [.comma].intercalate (parts.map Prod.fst) ++ [.closeParen])
        (.call name (parts.map Prod.snd))

/-- `Derives arity? depth n ts p`: the lexemes `ts` derive from the nonterminal `n` with the
derivation tree `p`, if functions take as many arguments as `arity?` says and selectors nest at
most `depth` deep. -/
abbrev Derives (arity? : String → Option Nat) (depth : Nat) (n : Nonterminal) (ts : List Lexeme)
    (p : Phrase) : Prop :=
  DerivesWith arity? (fun name given => arity? name = some given) depth n ts p

/-! ## How tightly operators and nonterminals bind -/

theorem Operator.precedence_pos (op : Operator) : 1 ≤ op.precedence := by
  cases op <;> decide

theorem Operator.precedence_le (op : Operator) : op.precedence ≤ 5 := by
  cases op <;> decide

namespace Nonterminal

/-- The place of a nonterminal in the order of binding strength. For those of chains it is the
strength of their operators. -/
def rank : Nonterminal → Nat
  | logical => 1
  | comparison => 2
  | sum => 3
  | product => 4
  | power => 5
  | indexed => 6
  | primary => 7

theorem rank_next {n : Nonterminal} (h : n ≠ .primary) : n.next.rank = n.rank + 1 := by
  cases n with
  | primary => exact absurd rfl h
  | _ => rfl

theorem rank_injective {n m : Nonterminal} (h : n.rank = m.rank) : n = m := by
  revert h
  cases n <;> cases m <;> decide

theorem rank_pos (n : Nonterminal) : 1 ≤ n.rank := by
  cases n <;> decide

theorem rank_le (n : Nonterminal) : n.rank ≤ 7 := by
  cases n <;> decide

theorem precedence_of_mem_operators {n : Nonterminal} {op : Operator} (h : op ∈ n.operators) :
    op.precedence = n.rank := by
  revert h
  cases n <;> cases op <;> decide

theorem rank_le_of_mem_operators {n : Nonterminal} {op : Operator} (h : op ∈ n.operators) :
    n.rank ≤ 4 := by
  cases n with
  | power => cases h
  | indexed => cases h
  | primary => cases h
  | _ => decide

/-- Every binary operator but the power chains the parts of some nonterminal. -/
theorem exists_mem_operators {op : Operator} (isBinary : op.isPrefix = false)
    (hop : op ≠ .power) : ∃ n : Nonterminal, op ∈ n.operators := by
  cases op with
  | power => exact absurd rfl hop
  | negate => cases isBinary
  | not => cases isBinary
  | and => exact ⟨.logical, by decide⟩
  | or => exact ⟨.logical, by decide⟩
  | add => exact ⟨.sum, by decide⟩
  | subtract => exact ⟨.sum, by decide⟩
  | multiply => exact ⟨.product, by decide⟩
  | divide => exact ⟨.product, by decide⟩
  | modulo => exact ⟨.product, by decide⟩
  | _ => exact ⟨.comparison, by decide⟩

end Nonterminal

namespace DerivesWith

variable {arity? : String → Option Nat} {accepts : String → Nat → Prop} {depth : Nat}

/-- What derives from a tighter nonterminal derives from a looser one. -/
theorem loosen {n m : Nonterminal} {ts : List Lexeme} {p : Phrase} (h : m.rank ≤ n.rank)
    (hp : DerivesWith arity? accepts depth n ts p) : DerivesWith arity? accepts depth m ts p := by
  -- induction on how far the two are apart
  obtain ⟨k, hk⟩ := Nat.exists_eq_add_of_le h
  induction k generalizing m with
  | zero => exact Nonterminal.rank_injective hk ▸ hp
  | succ k ih =>
      have hm : m ≠ .primary := by
        rintro rfl
        have := n.rank_le
        simp only [Nonterminal.rank] at hk this
        omega
      have hnext := Nonterminal.rank_next hm
      exact .single hm (ih (by omega) (by omega))

/-- A formula has at least one lexeme. -/
theorem ne_nil {n : Nonterminal} {ts : List Lexeme} {p : Phrase}
    (h : DerivesWith arity? accepts depth n ts p) : ts ≠ [] := by
  induction h with
  | single _ _ ih => exact ih
  | juxtaposed _ _ _ ih _ => exact fun h => ih (List.append_eq_nil_iff.1 h).1
  | _ => simp

end DerivesWith

end Reckon
