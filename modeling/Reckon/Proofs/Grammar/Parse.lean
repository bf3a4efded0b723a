/-
# Reckon.Proofs.Grammar.Parse — derivation trees from lexemes, one lexeme at a time

A parse under way is a stack of *open* phrases, each of which waits for its last part, and the
phrase that is complete so far, if there is one. An open phrase is put on the stack by the
lexeme that shows it is there, and completed by the one that shows its last part is complete:
`Parse.reduce` completes what binds at least as tightly as the lexeme that comes next.

The faults are those of a conversion, so that a parse is a conversion with trees in place of
code. That it is one is shown in `Reckon.Proofs.Conversion.Parsing`; that it finds the
derivation tree of the grammar, if there is one, is shown in the two modules after this one.
-/
import Reckon.Proofs.Grammar.Basic

namespace Reckon

/-- A phrase that waits for its last part. -/
inductive OpenPhrase where
  | prefixed (op : Operator) (isPrefix : op.isPrefix = true)
  | binary (left : Phrase) (op : Operator) (isBinary : op.isPrefix = false)
  | juxtaposed (left : Phrase)
  | group
  /-- The complete arguments, the latest first. -/
  | call (name : String) (done : List Phrase)

namespace OpenPhrase

/-- The operator of an open phrase that no parenthesis has to close. -/
def operator? : OpenPhrase → Option Operator
  | prefixed op _ => some op
  | binary _ op _ => some op
  | juxtaposed _ => some .multiply
  | group | call _ _ => none

/-- The phrase with its last part. -/
def close : OpenPhrase → Phrase → Phrase
  | prefixed op isPrefix, p => .prefixed op isPrefix p
  | binary left op isBinary, p => .binary op isBinary left p
  | juxtaposed left, p => .juxtaposed left p
  | group, p => .group p
  | call name done, p => .call name (p :: done).reverse

end OpenPhrase

/-- A parse under way: what is open, the innermost first, and the phrase that is complete. An
operand is due if there is none. -/
structure Parse where
  opened : List OpenPhrase := []
  focus : Option Phrase := none

namespace Parse

/-- Completes the open phrases whose operators bind at least so strongly, up to the innermost
parenthesis. -/
def reduce (least : Nat) : List OpenPhrase → Phrase → List OpenPhrase × Phrase
  | [], p => ([], p)
  | f :: opened, p =>
    match f.operator? with
    | some op =>
      if least ≤ op.precedence then reduce least opened (f.close p) else (f :: opened, p)
    | none => (f :: opened, p)

/-- How strongly an operator must bind to be complete before a binary operator. -/
def threshold (op : Operator) : Nat :=
  if op.isRightAssociative then op.precedence + 1 else op.precedence

/-- Completes a call, if it has as many arguments as its function takes. -/
def closeCall (arity? : String → Option Nat) (name : String) (args : List Phrase)
    (opened : List OpenPhrase) : Except Fault Parse :=
  match arity? name with
  | none => .error (.inconsistent (.vanishedFunction name))
  | some expected =>
    if args.length = expected then .ok ⟨opened, some (.call name args)⟩
    else .error (.arity name args.length expected)

/-- Takes a lexeme where an operand is due. -/
def stepDue (arity? : String → Option Nat) (opened : List OpenPhrase) :
    Lexeme → Except Fault Parse
  | .number x => .ok ⟨opened, some (.operand (.number x))⟩
  | .text s => .ok ⟨opened, some (.operand (.text s))⟩
  | .json raw => .ok ⟨opened, some (.operand (.json raw))⟩
  | .pattern raw => .ok ⟨opened, some (.operand (.pattern raw))⟩
  | .identifier name => .ok ⟨opened, some (.operand (.identifier name))⟩
  | .call name =>
    if (arity? name).isSome then .ok ⟨.call name [] :: opened, none⟩
    else
      let (opened, p) := reduce (threshold .multiply) opened (.operand (.identifier name))
      .ok ⟨.group :: .juxtaposed p :: opened, none⟩
  | .openParen => .ok ⟨.group :: opened, none⟩
  | .closeParen =>
    match opened with
    | .call name [] :: opened => closeCall arity? name [] opened
    | _ => .error (.grammar .unexpectedClose)
  | .comma => .error (.grammar .unexpectedComma)
  | .operator .subtract => .ok ⟨.prefixed .negate rfl :: opened, none⟩
  | .operator .not => .ok ⟨.prefixed .not rfl :: opened, none⟩
  | .operator op => .error (.grammar (.unexpectedOperator op))
  | .index _ => .error (.grammar .unexpectedBracket)

/-- Takes a lexeme after a complete phrase. -/
def stepAfter (arity? : String → Option Nat) (selector : String → Except Fault Phrase)
    (opened : List OpenPhrase) (p : Phrase) : Lexeme → Except Fault Parse
  | .text _ => .error (.grammar (.unexpectedOperand .string))
  | .json _ => .error (.grammar (.unexpectedOperand .literal))
  | .pattern _ => .error (.grammar (.unexpectedOperand .pattern))
  | .closeParen =>
    match reduce 1 opened p with
    | (.group :: opened, p) => .ok ⟨opened, some (.group p)⟩
    | (.call name done :: opened, p) => closeCall arity? name (p :: done).reverse opened
    | _ => .error (.grammar .unmatchedClose)
  | .comma =>
    match reduce 1 opened p with
    | (.call name done :: opened, p) => .ok ⟨.call name (p :: done) :: opened, none⟩
    | _ => .error (.grammar .unexpectedComma)
  | .operator op =>
    if isBinary : op.isPrefix = false then
      let (opened, p) := reduce (threshold op) opened p
      .ok ⟨.binary p op isBinary :: opened, none⟩
    else .error (.grammar (.unexpectedOperator op))
  | .index raw =>
    if (Text.trim raw.toList).isEmpty then .error (.grammar .emptySelector)
    else
      match selector raw with
      | .ok contents => .ok ⟨opened, some (.index p raw contents)⟩
      | .error e => .error e
  -- the others start a factor
  | t =>
    let (opened, p) := reduce (threshold .multiply) opened p
    stepDue arity? (.juxtaposed p :: opened) t

/-- Takes one lexeme. -/
def step (arity? : String → Option Nat) (selector : String → Except Fault Phrase) (s : Parse)
    (t : Lexeme) : Except Fault Parse :=
  match s.focus with
  | none => stepDue arity? s.opened t
  | some p => stepAfter arity? selector s.opened p t

/-- Ends a parse. -/
def finish (s : Parse) : Except Fault Phrase :=
  match s.focus with
  | none => .error (.grammar .unexpectedEnd)
  | some p =>
    match reduce 1 s.opened p with
    | ([], p) => .ok p
    | _ => .error (.grammar .missingClose)

end Parse

namespace Phrase

/-- The derivation tree of the lexemes of a formula; `selector` gives those of the contents of
selectors. -/
def ofLexemes (arity? : String → Option Nat) (selector : String → Except Fault Phrase)
    (ts : List Lexeme) : Except Fault Phrase :=
  if ts.isEmpty then .error (.grammar .empty)
  else do
    let s ← ts.foldlM (Parse.step arity? selector) {}
    s.finish

/-- The derivation tree of the contents of a selector, in which selectors may nest `budget - 1`
deep. -/
def ofSelector (arity? : String → Option Nat) (limit : Nat) : Nat → String → Except Fault Phrase
  | 0, _ => .error (.recursionLimit limit)
  | budget + 1, raw => do
    let ts ← Lexeme.scan raw
    ofLexemes arity? (ofSelector arity? limit budget) ts

/-- The derivation tree of a formula. -/
def ofFormula (arity? : String → Option Nat) (limit : Nat) (source : String) :
    Except Fault Phrase := do
  let ts ← Lexeme.scan source
  ofLexemes arity? (ofSelector arity? limit limit) ts

end Phrase

/-! ## Completing open phrases -/

namespace Parse

variable {least : Nat} {f : OpenPhrase} {opened : List OpenPhrase} {p : Phrase}

theorem reduce_cons_of_le {op : Operator} (hf : f.operator? = some op)
    (h : least ≤ op.precedence) :
    reduce least (f :: opened) p = reduce least opened (f.close p) := by
  rw [reduce, hf]
  exact if_pos h

theorem reduce_cons_of_lt {op : Operator} (hf : f.operator? = some op)
    (h : op.precedence < least) : reduce least (f :: opened) p = (f :: opened, p) := by
  rw [reduce, hf]
  exact if_neg (Nat.not_le.2 h)

theorem reduce_cons_of_none (hf : f.operator? = none) :
    reduce least (f :: opened) p = (f :: opened, p) := by
  rw [reduce, hf]

/-- After completing, what is innermost is a parenthesis or binds less strongly. -/
theorem reduce_fst (least : Nat) (opened : List OpenPhrase) (p : Phrase) :
    ∀ f rest, (reduce least opened p).1 = f :: rest →
      ∀ op, f.operator? = some op → op.precedence < least := by
  induction opened generalizing p with
  | nil =>
      intro f rest h
      cases h
  | cons g opened ih =>
      intro f rest h op hop
      cases hg : g.operator? with
      | none =>
          rw [reduce_cons_of_none hg] at h
          cases h
          rw [hg] at hop
          cases hop
      | some waiting =>
          by_cases hle : least ≤ waiting.precedence
          · rw [reduce_cons_of_le hg hle] at h
            exact ih (g.close p) f rest h op hop
          · rw [reduce_cons_of_lt hg (Nat.not_le.1 hle)] at h
            cases h
            rw [hg] at hop
            cases hop
            exact Nat.not_le.1 hle

/-- After completing all operators, what is innermost is a parenthesis. -/
theorem operator?_of_reduce_one {rest : List OpenPhrase} {q : Phrase}
    (h : reduce 1 opened p = (f :: rest, q)) : f.operator? = none := by
  cases hf : f.operator? with
  | none => rfl
  | some op =>
      have := reduce_fst 1 opened p f rest (by rw [h]) op hf
      have := op.precedence_pos
      omega

/-- No operator binds more strongly than a power, so nothing is complete before one. -/
theorem reduce_threshold_power (opened : List OpenPhrase) (p : Phrase) :
    reduce (threshold .power) opened p = (opened, p) := by
  rcases opened with _ | ⟨f, opened⟩
  · rfl
  · cases hf : f.operator? with
    | none => exact reduce_cons_of_none hf
    | some op => exact reduce_cons_of_lt hf (Nat.lt_succ_of_le op.precedence_le)

theorem threshold_of_mem_operators {n : Nonterminal} {op : Operator} (h : op ∈ n.operators) :
    threshold op = n.rank := by
  revert h
  cases n <;> cases op <;> decide

end Parse

end Reckon
