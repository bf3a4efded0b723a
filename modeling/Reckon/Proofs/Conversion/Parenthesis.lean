/-
# Reckon.Proofs.Conversion.Parenthesis — a parenthesis without a partner

What can be converted leaves no parenthesis open and needs none that is open before it. Its parse
is therefore the same on top of whatever is open, and completes all that it opened itself
(`Parse.Parses`). So a parenthesis before it stays open to the end, one after it finds no partner,
and the two together change the derivation tree but not the code.
-/
import Mathlib
import Reckon.Proofs.Conversion.Call

namespace Reckon

variable {arity? : String → Option Nat} {limit depth : Nat} {source : String} {ts : List Lexeme}
  {p : Phrase}

/-! ## Lexemes -/

namespace Lexeme

theorem scanFrom_openParen (operandDue : Bool) (rest : List Char) :
    scanFrom operandDue ('(' :: rest) = (scanFrom true rest).map (openParen :: ·) :=
  scanFrom_of_scanOne rfl rfl

/-- An opening parenthesis leaves it at that an operand is due. -/
theorem scan_openParen_append (h : scan source = .ok ts) :
    scan ("(" ++ source) = .ok (openParen :: ts) := by
  have hscan : scanFrom true source.toList = .ok ts := h
  rw [scan, String.toList_append]
  show scanFrom true ('(' :: source.toList) = _
  rw [scanFrom_openParen, hscan]
  rfl

/-- A closing parenthesis cannot be part of a lexeme before it. -/
theorem scan_append_closeParen (h : scan source = .ok ts) :
    scan (source ++ ")") = .ok (ts ++ [closeParen]) := by
  have hscan : scanFrom true source.toList = .ok ts := h
  rw [scan, String.toList_append]
  show scanFrom true (source.toList ++ [')']) = _
  rw [scanFrom_append hscan (separated_cons rfl []), scanFrom_closeParen, scanFrom_nil]
  rfl

end Lexeme

/-! ## The parse -/

namespace Phrase

variable {selector : String → Except Fault Phrase}

/-- The parse of a formula is that of its lexemes. -/
theorem ofFormula_of_scan (h : Lexeme.scan source = .ok ts) :
    ofFormula arity? limit source
      = ofLexemes arity? (ofSelector arity? limit limit) (Lexeme.readings arity? ts) := by
  rw [ofFormula, h, ofLexemes_readings]
  rfl

/-- A parenthesis that is opened before a formula is still open at its end. -/
theorem ofLexemes_openParen_cons (hselector : Parse.SelectorComplete arity? depth selector)
    (h : Derives arity? depth .logical ts p) :
    ofLexemes arity? selector (.openParen :: ts) = .error (.grammar .missingClose) := by
  obtain ⟨opened, q, hfold, hreduce⟩ := (h.parses hselector).reduce_one (f := .group) rfl []
  have hopen : Parse.step arity? selector {} .openParen = .ok ⟨[.group], none⟩ := rfl
  rw [ofLexemes, List.isEmpty_cons, if_neg Bool.false_ne_true, Parse.foldlM_cons_of_ok hopen, hfold]
  show Parse.finish ⟨opened, some q⟩ = _
  simp only [Parse.finish, hreduce]

/-- At the end of a formula no parenthesis is open that could be closed. -/
theorem ofLexemes_append_closeParen (hselector : Parse.SelectorComplete arity? depth selector)
    (h : Derives arity? depth .logical ts p) :
    ofLexemes arity? selector (ts ++ [.closeParen]) = .error (.grammar .unmatchedClose) := by
  obtain ⟨opened, q, hfold, hreduce, -⟩ := h.parses hselector [] (Nat.le_refl 1)
  have hnone : Parse.reduce 1 opened q = ([], p) := hreduce 1 (Nat.le_refl 1) (by decide)
  have hclose : Parse.step arity? selector ⟨opened, some q⟩ .closeParen
      = .error (.grammar .unmatchedClose) := by
    show Parse.stepAfter arity? selector opened q .closeParen = _
    simp only [Parse.stepAfter, hnone]
  rw [ofLexemes, if_neg (by simp), Parse.foldlM_append_of_ok hfold, foldlM_step_singleton, hclose]
  rfl

end Phrase

/-! ## Conversion -/

/-- A formula that is converted is not converted after a parenthesis that nothing closes, nor
before one that nothing opened, and conversion says which of the two it is. Between both it has
the code that it has without them. -/
theorem Code.ofFormula_parenthesis {code : Code}
    (h : Code.ofFormula arity? limit source = .ok code) :
    Code.ofFormula arity? limit ("(" ++ source) = .error (.grammar .missingClose) ∧
      GrammarFault.missingClose.message = "missing closing parenthesis" ∧
      Code.ofFormula arity? limit (source ++ ")") = .error (.grammar .unmatchedClose) ∧
      GrammarFault.unmatchedClose.message = "unexpected closing parenthesis" ∧
      Code.ofFormula arity? limit ("(" ++ source ++ ")") = .ok code := by
  obtain ⟨ts, p, hscan, hp, rfl⟩ := Code.ofFormula_eq_ok_iff.1 h
  have hselector : Parse.SelectorComplete arity? limit (Phrase.ofSelector arity? limit limit) :=
    Phrase.selectorComplete_ofSelector limit limit
  have hopen := Lexeme.scan_openParen_append hscan
  refine ⟨?_, rfl, ?_, rfl, ?_⟩
  · rw [Code.ofFormula_eq_map_ofFormula, Phrase.ofFormula_of_scan hopen]
    show (Phrase.ofLexemes arity? _ (.openParen :: Lexeme.readings arity? ts)).map _ = _
    rw [Phrase.ofLexemes_openParen_cons hselector hp]
    rfl
  · rw [Code.ofFormula_eq_map_ofFormula,
      Phrase.ofFormula_of_scan (Lexeme.scan_append_closeParen hscan), Lexeme.readings_append]
    show (Phrase.ofLexemes arity? _ (Lexeme.readings arity? ts ++ [.closeParen])).map _ = _
    rw [Phrase.ofLexemes_append_closeParen hselector hp]
    rfl
  · refine Code.ofFormula_eq_ok_iff.2
      ⟨_, .group p, Lexeme.scan_append_closeParen hopen, ?_, rfl⟩
    rw [Lexeme.readings_append]
    exact (DerivesWith.group hp).loosen (by decide)

/-- A formula that ends while a prefix operator, a power, a sum and a comparison wait, with a call
of no function, which opens a parenthesis, and a selector. -/
theorem Code.ofFormula_parenthesis_waiting :
    let source := "x < -a(y) + !sqrt(z[w])^v"
    let code : Code := [.operand (.identifier "x"), .operand (.identifier "a"), .operator .negate,
      .operand (.identifier "y"), .operator .multiply, .operand (.identifier "z"),
      .selector [.operand (.identifier "w")], .index, .call "sqrt" 1, .operand (.identifier "v"),
      .operator .power, .operator .not, .operator .add, .operator .less]
    Code.ofFormula Scope.initial.arity? 128 source = .ok code ∧
      Code.ofFormula Scope.initial.arity? 128 ("(" ++ source) = .error (.grammar .missingClose) ∧
      Code.ofFormula Scope.initial.arity? 128 (source ++ ")")
        = .error (.grammar .unmatchedClose) ∧
      Code.ofFormula Scope.initial.arity? 128 ("(" ++ source ++ ")") = .ok code := by
  intro source code
  have hcode : Code.ofFormula Scope.initial.arity? 128 source = .ok code := by cbv
  obtain ⟨hopen, -, hclose, -, hboth⟩ := Code.ofFormula_parenthesis hcode
  exact ⟨hcode, hopen, hclose, hboth⟩

end Reckon
