/-
# Reckon.Proofs.Statement.Expression — what can be read is an expression

The head of an assignment or a definition ends in a lone equals sign, which is no lexeme. What
comes before it are lexemes, so a reader that wants lexemes gets as far as this sign and no
further. A text from which lexemes can be read has therefore no such head, and is an expression.
-/
import Reckon.Proofs.Lexeme.Name

namespace Reckon.Statement

open Lexeme (reservedWords scanFrom scanOne scanWord scanOperator scanFrom_of_scanOne
  scanFrom_of_scanOne_error scanFrom_of_isName scanFrom_congr scanWord_of_reserved
  scanWord_of_call scanWord_of_identifier word_of_isName)
open Text (isBlank isNameChar)

/-- Spaces and tabs are blanks. -/
theorem dropWhile_skipSpaces (cs : List Char) :
    (skipSpaces cs).dropWhile isBlank = cs.dropWhile isBlank := by
  induction cs with
  | nil => rfl
  | cons c cs ih =>
      rw [skipSpaces, List.dropWhile_cons]
      split
      · rename_i hc
        have hblank : isBlank c = true := by
          rw [isSpace, Bool.or_eq_true, beq_iff_eq, beq_iff_eq] at hc
          rcases hc with rfl | rfl <;> decide
        rw [List.dropWhile_cons_of_pos hblank]
        exact ih
      · rfl

/-- A text from which lexemes can be read, be an operand due at its start or not. -/
def Scannable (cs : List Char) : Prop :=
  ∃ operandDue ts, scanFrom operandDue cs = .ok ts

namespace Scannable

variable {cs rest : List Char}

/-- After its first lexeme a text can be read on. -/
theorem of_scanOne {c : Char} {t : Lexeme} (hc : isBlank c = false)
    (ht : ∀ operandDue, scanOne operandDue c cs = .ok (t, rest)) (h : Scannable (c :: cs)) :
    Scannable rest := by
  obtain ⟨operandDue, ts, hts⟩ := h
  have hstart : (c :: cs).dropWhile isBlank = c :: cs :=
    List.dropWhile_cons_of_neg (by simp [hc])
  rw [scanFrom_of_scanOne hstart (ht operandDue)] at hts
  obtain ⟨us, hus, -⟩ := Outcome.map_eq_ok_iff.1 hts
  exact ⟨_, us, hus⟩

theorem skipSpaces (h : Scannable cs) : Scannable (skipSpaces cs) := by
  obtain ⟨operandDue, ts, hts⟩ := h
  refine ⟨operandDue, ts, ?_⟩
  rw [scanFrom_congr operandDue (dropWhile_skipSpaces cs), hts]

/-- After a name, whatever it is read as, a text can be read on; a parenthesis that the name has
taken with it is a lexeme, too. -/
theorem of_splitName? {name : String} (hname : splitName? cs = some (name, rest))
    (h : Scannable cs) : Scannable rest := by
  obtain ⟨hisName, rfl, hstop⟩ := splitName?_eq_some_iff.1 hname
  obtain ⟨operandDue, ts, hts⟩ := h
  rw [scanFrom_of_isName operandDue hisName] at hts
  obtain ⟨us, hus, -⟩ := Outcome.map_eq_ok_iff.1 hts
  obtain ⟨hword, hafter⟩ := word_of_isName hisName hstop
  cases hfree : reservedWords.contains
      (String.ofList ((name.toList ++ rest).takeWhile isNameChar)) with
  | true =>
      rw [scanWord_of_reserved hfree, hafter] at hus
      exact ⟨_, us, hus⟩
  | false =>
      by_cases hcall : ∃ after, (name.toList ++ rest).dropWhile isNameChar = '(' :: after
      · obtain ⟨after, hcall⟩ := hcall
        rw [scanWord_of_call hfree hcall] at hus
        rw [hafter] at hcall
        subst hcall
        refine ⟨true, .openParen :: us, ?_⟩
        rw [scanFrom_of_scanOne rfl rfl]
        exact Outcome.map_eq_ok_iff.2 ⟨us, hus, rfl⟩
      · rw [scanWord_of_identifier hfree fun after h => hcall ⟨after, h⟩, hafter] at hus
        exact ⟨_, us, hus⟩

/-- A lone equals sign is no lexeme. -/
theorem not_of_splitEquals? {body : List Char} (hbody : splitEquals? cs = some body) :
    ¬ Scannable cs := by
  rintro ⟨operandDue, ts, hts⟩
  unfold splitEquals? at hbody
  split at hbody
  · cases hbody
  · cases hbody
  · rename_i tail hequal htilde
    have hone : scanOne operandDue '=' tail = .error (.grammar (.illegalCharacter '=')) := by
      have hoperator : scanOne operandDue '=' tail = scanOperator '=' tail := rfl
      rw [hoperator, scanOperator]
      all_goals simp_all
    rw [scanFrom_of_scanOne_error rfl hone] at hts
    cases hts
  · cases hbody

theorem of_splitParameter? {name : String} (hname : splitParameter? cs = some (name, rest))
    (h : Scannable cs) : Scannable rest := by
  rw [splitParameter?] at hname
  split at hname
  · rename_i after hcomma
    have hcs := h.skipSpaces
    rw [hcomma] at hcs
    have hafter : Scannable after := hcs.of_scanOne rfl fun _ => rfl
    exact hafter.skipSpaces.of_splitName? hname
  · cases hname

theorem of_splitParameters (h : Scannable cs) : Scannable (splitParameters cs).2 := by
  fun_induction splitParameters cs with
  | case1 => exact h
  | case2 cs name rest hname names rest' hrest ih =>
      rw [hrest] at ih
      exact ih (h.of_splitParameter? hname)

theorem of_splitParameterList (h : Scannable cs) : Scannable (splitParameterList cs).2 := by
  rw [splitParameterList]
  split
  · exact h
  · rename_i name rest hname
    exact (h.of_splitName? hname).of_splitParameters

/-! ## No heads -/

theorem assignment?_eq_none (h : Scannable cs) : assignment? cs = none := by
  rw [Option.eq_none_iff_forall_ne_some]
  intro statement heq
  obtain ⟨name, rest, body, hname, hbody, -⟩ := assignment?_eq_some_iff.1 heq
  exact not_of_splitEquals? hbody (h.skipSpaces.of_splitName? hname).skipSpaces

theorem definition?_eq_none (h : Scannable cs) : definition? cs = none := by
  rw [Option.eq_none_iff_forall_ne_some]
  intro statement heq
  obtain ⟨name, afterName, inner, afterList, body, hname, hopen, hclose, hbody, -⟩ :=
    definition?_eq_some_iff.1 heq
  have hstart := (h.skipSpaces.of_splitName? hname).skipSpaces
  rw [hopen] at hstart
  have hinner : Scannable inner := hstart.of_scanOne rfl fun _ => rfl
  have hend := hinner.skipSpaces.of_splitParameterList.skipSpaces
  rw [hclose] at hend
  have hafter : Scannable afterList := hend.of_scanOne rfl fun _ => rfl
  exact not_of_splitEquals? hbody hafter.skipSpaces

/-- A text from which lexemes can be read is an expression as it stands. -/
theorem classify_eq (h : Scannable cs) : classify cs = .expression (String.ofList cs) :=
  classify_eq_expression_iff.2 ⟨h.definition?_eq_none, h.assignment?_eq_none, rfl⟩

end Scannable

end Reckon.Statement
