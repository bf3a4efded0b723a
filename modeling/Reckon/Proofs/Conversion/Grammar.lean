/-
# Reckon.Proofs.Conversion.Grammar — conversion accepts the grammar, and nothing else

A formula is converted exactly if its lexemes derive from the grammar, and the code is the
post-order of the one derivation tree there is: that conversion is parsing has been shown in
`Reckon.Proofs.Conversion.Parsing`, and that parsing finds the derivation trees in
`Reckon.Proofs.Grammar.Soundness` and `Reckon.Proofs.Grammar.Completeness`.
-/
import Reckon.Environment
import Reckon.Proofs.Conversion.Parsing
import Reckon.Proofs.Grammar.Completeness

namespace Reckon

/-! ## The operands of code -/

/-- The operand that an instruction puts on the stack by itself. -/
def Instruction.operand? : Instruction → Option Operand
  | operand o => some o
  | operator _ | selector _ | index | call _ _ => none

/-- The operands of code, without those in selectors. -/
def Code.operands (code : Code) : List Operand :=
  code.filterMap Instruction.operand?

/-- The operands of a sequence of lexemes. -/
def Lexeme.operands (ts : List Lexeme) : List Operand :=
  ts.filterMap Lexeme.operand?

theorem Code.operands_append (code rest : Code) :
    Code.operands (code ++ rest) = code.operands ++ rest.operands :=
  List.filterMap_append

theorem Lexeme.operands_append (ts us : List Lexeme) :
    Lexeme.operands (ts ++ us) = Lexeme.operands ts ++ Lexeme.operands us :=
  List.filterMap_append

theorem Lexeme.operands_cons_of_none {t : Lexeme} (ht : t.operand? = none) (ts : List Lexeme) :
    Lexeme.operands (t :: ts) = Lexeme.operands ts :=
  List.filterMap_cons_none ht

/-- The operands of the arguments of a call are those of its lexemes. -/
theorem Lexeme.operands_arguments {parts : List (List Lexeme × Phrase)}
    (h : ∀ part ∈ parts, part.2.code.operands = Lexeme.operands part.1) :
    Code.operands (Expression.postorderAll (Phrase.expressions (parts.map Prod.snd)))
      = Lexeme.operands ([.comma].intercalate (parts.map Prod.fst)) := by
  induction parts with
  | nil => rfl
  | cons part parts ih =>
      have hpart := h part List.mem_cons_self
      have hparts := ih fun part' hmem => h part' (List.mem_cons_of_mem _ hmem)
      rw [List.map_cons, Phrase.expressions, Expression.postorderAll, Code.operands_append,
        hparts, ← Phrase.code, hpart, ← Lexeme.operands_append]
      cases parts with
      | nil => simp [List.intercalate]
      | cons next parts =>
          simp [List.intercalate, Lexeme.operands_append,
            Lexeme.operands_cons_of_none (t := .comma) rfl]

/-- The code of a phrase has the operands of its lexemes, in the same order. -/
theorem Derives.operands_code {arity? : String → Option Nat} {depth : Nat} {n : Nonterminal}
    {ts : List Lexeme} {p : Phrase} (h : Derives arity? depth n ts p) :
    p.code.operands = Lexeme.operands ts := by
  have hbinary : ∀ (op : Operator) (isBinary : op.isPrefix = false) (p q : Phrase),
      (Phrase.binary op isBinary p q).code.operands = p.code.operands ++ q.code.operands := by
    intro op isBinary p q
    rw [Phrase.code, Phrase.expression, Expression.postorder, Code.operands_append,
      Code.operands_append]
    exact List.append_nil _
  have hprefixed : ∀ (op : Operator) (isPrefix : op.isPrefix = true) (p : Phrase),
      (Phrase.prefixed op isPrefix p).code.operands = p.code.operands := by
    intro op isPrefix p
    rw [Phrase.code, Phrase.expression, Expression.postorder, Code.operands_append]
    exact List.append_nil _
  induction h with
  | single _ _ ih => exact ih
  | chain isBinary _ _ _ ihp ihq =>
      rw [hbinary, ihp, ihq, Lexeme.operands_append, Lexeme.operands_cons_of_none rfl]
  | juxtaposed _ _ _ ihp ihq =>
      rw [Lexeme.operands_append, ← ihp, ← ihq]
      exact hbinary .multiply rfl _ _
  | negation _ ih =>
      rw [Lexeme.operands_cons_of_none rfl, ← ih]
      exact hprefixed .negate rfl _
  | complement _ ih =>
      rw [Lexeme.operands_cons_of_none rfl, ← ih]
      exact hprefixed .not rfl _
  | raised _ _ ihp ihq =>
      rw [Lexeme.operands_append, Lexeme.operands_cons_of_none rfl, ← ihp, ← ihq]
      exact hbinary .power rfl _ _
  | index _ _ _ ih =>
      rw [Phrase.code, Phrase.expression, Expression.postorder, Expression.postorder,
        Code.operands_append, Code.operands_append, Lexeme.operands_append, ← ih]
      exact List.append_nil _
  | operand ht =>
      rw [Phrase.code, Phrase.expression, Expression.postorder, Lexeme.operands,
        List.filterMap_cons_some ht]
      rfl
  | group _ ih =>
      rw [List.cons_append, Lexeme.operands_cons_of_none rfl, Lexeme.operands_append, ← ih]
      exact (List.append_nil _).symm
  | call parts _ _ ih =>
      rw [Phrase.code, Phrase.expression, Expression.postorder, Code.operands_append,
        Lexeme.operands_arguments ih, List.cons_append, Lexeme.operands_cons_of_none rfl,
        Lexeme.operands_append]
      rfl

/-! ## Conversion and the grammar -/

/-- The code of a formula is the code of a derivation tree of its lexemes. -/
theorem Code.ofFormula_eq_ok_iff {arity? : String → Option Nat} {limit : Nat} {source : String}
    {code : Code} :
    Code.ofFormula arity? limit source = .ok code ↔
      ∃ ts p, Lexeme.scan source = .ok ts ∧
        Derives arity? limit .logical (Lexeme.readings arity? ts) p ∧ p.code = code := by
  rw [Code.ofFormula_eq_map_ofFormula, Outcome.map_eq_ok_iff]
  constructor
  · rintro ⟨p, hp, hcode⟩
    obtain ⟨ts, hscan, hp⟩ := Outcome.bind_eq_ok_iff.1 hp
    exact ⟨ts, p, hscan, (Phrase.ofLexemes_eq_ok_iff limit limit ts p).1 hp, hcode⟩
  · rintro ⟨ts, p, hscan, hp, hcode⟩
    refine ⟨p, Outcome.bind_eq_ok_iff.2 ⟨ts, hscan, ?_⟩, hcode⟩
    exact (Phrase.ofLexemes_eq_ok_iff limit limit ts p).2 hp

/-- Conversion succeeds exactly if the lexemes of a formula derive from the grammar. They then
have one derivation tree, and the code is its post-order; its operands are those of the lexemes,
in their order. -/
theorem Code.ofFormula_exact (scope : Scope) (limit : Nat) {source : String} {ts : List Lexeme}
    (hscan : Lexeme.scan source = .ok ts) :
    ((∃ code, Code.ofFormula scope.arity? limit source = .ok code) ↔
      ∃ p, Derives scope.arity? limit .logical (Lexeme.readings scope.arity? ts) p) ∧
    ∀ p, Derives scope.arity? limit .logical (Lexeme.readings scope.arity? ts) p →
      (∀ q, Derives scope.arity? limit .logical (Lexeme.readings scope.arity? ts) q → q = p) ∧
      Code.ofFormula scope.arity? limit source = .ok p.expression.postorder ∧
      Code.operands p.expression.postorder
        = Lexeme.operands (Lexeme.readings scope.arity? ts) := by
  have hformula : Phrase.ofFormula scope.arity? limit source
      = Phrase.ofLexemes scope.arity? (Phrase.ofSelector scope.arity? limit limit) ts := by
    rw [Phrase.ofFormula, hscan]
    rfl
  have hcode := Code.ofFormula_eq_map_ofFormula scope.arity? limit source
  rw [hformula] at hcode
  refine ⟨⟨?_, ?_⟩, ?_⟩
  · rintro ⟨code, h⟩
    rw [hcode] at h
    obtain ⟨p, hp, -⟩ := Outcome.map_eq_ok_iff.1 h
    exact ⟨p, (Phrase.ofLexemes_eq_ok_iff limit limit ts p).1 hp⟩
  · rintro ⟨p, h⟩
    have hp := (Phrase.ofLexemes_eq_ok_iff limit limit ts p).2 h
    exact ⟨p.code, hcode.trans (Outcome.map_eq_ok_iff.2 ⟨p, hp, rfl⟩)⟩
  · intro p h
    have hp := (Phrase.ofLexemes_eq_ok_iff limit limit ts p).2 h
    exact ⟨fun q hq => hq.unique h, hcode.trans (Outcome.map_eq_ok_iff.2 ⟨p, hp, rfl⟩),
      h.operands_code⟩

/-- Where `x` is no function, `-x(y)` is the product of `-x` and `y`. -/
theorem Code.ofFormula_exact_product :
    Lexeme.scan "-x(y)"
        = .ok [.operator .subtract, .call "x", .identifier "y", .closeParen] ∧
      Code.ofFormula Scope.initial.arity? 128 "-x(y)"
        = .ok [.operand (.identifier "x"), .operator .negate, .operand (.identifier "y"),
            .operator .multiply] := by
  have hscan : Lexeme.scan "-x(y)"
      = .ok [.operator .subtract, .call "x", .identifier "y", .closeParen] := by cbv
  refine ⟨hscan, ?_⟩
  have hx : Derives Scope.initial.arity? 128 .primary [.identifier "x"]
      (.operand (.identifier "x")) := .operand rfl
  have hy : Derives Scope.initial.arity? 128 .primary [.identifier "y"]
      (.operand (.identifier "y")) := .operand rfl
  have hgroup := DerivesWith.group (hy.loosen (m := .logical) (by decide))
  have hnegation := DerivesWith.negation (hx.loosen (m := .power) (by decide))
  have hproduct := DerivesWith.juxtaposed rfl (hnegation.loosen (m := .product) (by decide))
    (hgroup.loosen (m := .power) (by decide))
  exact ((Code.ofFormula_exact Scope.initial 128 hscan).2 _
    (hproduct.loosen (by decide))).2.1

end Reckon
