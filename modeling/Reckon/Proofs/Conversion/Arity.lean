/-
# Reckon.Proofs.Conversion.Arity — which call a conversion complains about

A formula that fits the grammar, but for the numbers of arguments of its calls, is converted if
all calls have as many as their functions take. If not, conversion fails at the first of the
others to be closed, and says so with the number of arguments between the parentheses of this
very call: neither the arguments of calls around it or in it, nor commas in selectors, count.
-/
import Reckon.Proofs.Conversion.Grammar
import Reckon.Proofs.Grammar.Miscount

namespace Reckon

/-- Where a formula fits the grammar but for the numbers of arguments, its conversion fails exactly
if one of its calls has another number of arguments than its function takes, and the fault is
about the first such call to be closed. -/
theorem Code.ofFormula_firstMiscount (arity? : String → Option Nat) (limit : Nat)
    {source : String} {ts : List Lexeme} {p : Phrase} (hscan : Lexeme.scan source = .ok ts)
    (h : DerivesUncounted arity? limit .logical (Lexeme.readings arity? ts) p) :
    (p.calls.find? (fun call => arity? call.1 != some call.2) = none →
      Code.ofFormula arity? limit source = .ok p.code) ∧
    ∀ name given, p.calls.find? (fun call => arity? call.1 != some call.2) = some (name, given) →
      ∃ expected, arity? name = some expected ∧ given ≠ expected ∧
        Code.ofFormula arity? limit source = .error (.arity name given expected) := by
  have hparse : Phrase.ofFormula arity? limit source
      = Phrase.ofLexemes arity? (Phrase.ofSelector arity? limit limit)
          (Lexeme.readings arity? ts) := by
    rw [Phrase.ofFormula, hscan, Phrase.ofLexemes_readings]
    rfl
  have hcomplete : Parse.SelectorComplete arity? limit (Phrase.ofSelector arity? limit limit) :=
    Phrase.selectorComplete_ofSelector limit limit
  rw [Code.ofFormula_eq_map_ofFormula, hparse]
  constructor
  · intro hnone
    have hcounted : Counted arity? p.calls := by
      intro call hcall
      simpa using List.find?_eq_none.1 hnone call hcall
    rw [Phrase.ofLexemes_complete hcomplete (h.derives hcounted)]
    rfl
  · intro name given hfind
    have hknown := h.accepts_of_mem_calls _ (List.mem_of_find?_eq_some hfind)
    obtain ⟨expected, hexpected⟩ := Option.isSome_iff_exists.1 hknown
    have hne : given ≠ expected := by
      rintro rfl
      simpa [hexpected] using List.find?_some hfind
    have hfails : Parse.SelectorFails arity? limit (Phrase.ofSelector arity? limit limit) :=
      Phrase.selectorFails_ofSelector limit limit
    refine ⟨expected, hexpected, hne, ?_⟩
    rw [Phrase.ofLexemes_fails hcomplete hfails h ⟨name, given, expected, hfind, hexpected, rfl⟩]
    rfl

/-- The call in the selector is closed before the call around it, which has too few arguments,
too. -/
theorem Code.ofFormula_firstMiscount_selector :
    Lexeme.scan "x(if(y, a[sqrt()]))"
        = .ok [.call "x", .call "if", .identifier "y", .comma, .identifier "a", .index "sqrt()",
            .closeParen, .closeParen] ∧
      Code.ofFormula Scope.initial.arity? 128 "x(if(y, a[sqrt()]))"
        = .error (.arity "sqrt" 0 1) := by
  have hscan : Lexeme.scan "x(if(y, a[sqrt()]))"
      = .ok [.call "x", .call "if", .identifier "y", .comma, .identifier "a", .index "sqrt()",
          .closeParen, .closeParen] := by cbv
  have hcontents : Lexeme.scan "sqrt()" = .ok [.call "sqrt", .closeParen] := by cbv
  refine ⟨hscan, ?_⟩
  have hx : DerivesUncounted Scope.initial.arity? 128 .primary [.identifier "x"]
      (.operand (.identifier "x")) := .operand rfl
  have hy : DerivesUncounted Scope.initial.arity? 128 .primary [.identifier "y"]
      (.operand (.identifier "y")) := .operand rfl
  have ha : DerivesUncounted Scope.initial.arity? 128 .primary [.identifier "a"]
      (.operand (.identifier "a")) := .operand rfl
  have hsqrt : DerivesUncounted Scope.initial.arity? 127 .primary [.call "sqrt", .closeParen]
      (.call "sqrt" []) := .call [] (by decide +kernel) (List.forall_mem_nil _)
  have hindex : DerivesUncounted Scope.initial.arity? 128 .indexed
      [.identifier "a", .index "sqrt()"]
      (.index (.operand (.identifier "a")) "sqrt()" (.call "sqrt" [])) :=
    .index (ha.loosen (by decide)) hcontents (hsqrt.loosen (by decide))
  have hif : DerivesUncounted Scope.initial.arity? 128 .primary
      [.call "if", .identifier "y", .comma, .identifier "a", .index "sqrt()", .closeParen]
      (.call "if" [.operand (.identifier "y"),
        .index (.operand (.identifier "a")) "sqrt()" (.call "sqrt" [])]) :=
    .call [([.identifier "y"], .operand (.identifier "y")), ([.identifier "a", .index "sqrt()"], _)]
      (by decide +kernel) (List.forall_mem_cons.2 ⟨hy.loosen (by decide),
        List.forall_mem_singleton.2 (hindex.loosen (by decide))⟩)
  have hproduct := DerivesWith.juxtaposed rfl (hx.loosen (m := .product) (by decide))
    ((DerivesWith.group (hif.loosen (by decide))).loosen (m := .power) (by decide))
  obtain ⟨expected, hexpected, -, hfault⟩ :=
    (Code.ofFormula_firstMiscount Scope.initial.arity? 128 hscan
      (hproduct.loosen (m := .logical) (by decide))).2 "sqrt" 0 (by decide +kernel)
  have hone : expected = 1 := by
    have hsome : Scope.initial.arity? "sqrt" = some 1 := by decide +kernel
    exact Option.some.inj (hexpected.symm.trans hsome)
  rw [hfault, hone]

end Reckon
