/-
# Reckon.Proofs.Session.Literal — literals evaluate to what they spell

A statement that is the literal of a text evaluates to this text, in every session. Its line breaks
are spelt as escapes, so preparing the statement finds none to take out, and whatever else is in
the text stands between quotes, where neither the heads of statements nor a final semicolon are
looked for.
-/
import Reckon.Proofs.Lexeme.Spelling
import Reckon.Proofs.Session.Calling

namespace Reckon

open Lexeme (isQuote isQuote_iff spell spellChar)
open Statement (notBreak_of_mem_escape)

variable {quote : Char}

/-! ## Preparing literals -/

theorem Lexeme.notBreak_of_mem_spellChar (hquote : isQuote quote = true) {c d : Char}
    (h : d ∈ spellChar quote c) : d ≠ '\r' ∧ d ≠ '\n' := by
  rw [spellChar] at h
  split at h
  · exact notBreak_of_mem_escape (by decide) h
  · split at h
    · refine notBreak_of_mem_escape ?_ h
      rcases isQuote_iff.1 hquote with rfl | rfl
      · decide
      · decide
    · split at h
      · exact notBreak_of_mem_escape (by decide) h
      · split at h
        · exact notBreak_of_mem_escape (by decide) h
        · rename_i hnewline hreturn
          rw [List.mem_singleton.1 h]
          exact ⟨hreturn, hnewline⟩

/-- A literal stands on one line. -/
theorem Lexeme.notBreak_of_mem_spell (hquote : isQuote quote = true) (s : String) :
    ∀ c ∈ (spell quote s).toList, c ≠ '\r' ∧ c ≠ '\n' := by
  have hbreak : quote ≠ '\r' ∧ quote ≠ '\n' := by
    rcases isQuote_iff.1 hquote with rfl | rfl
    · decide
    · decide
  rw [spell, String.toList_ofList]
  intro c hc
  rcases List.mem_append.1 hc with hc | hc
  · rcases List.mem_cons.1 hc with rfl | hc
    · exact hbreak
    · obtain ⟨d, -, hd⟩ := List.mem_flatMap.1 hc
      exact notBreak_of_mem_spellChar hquote hd
  · rw [List.mem_singleton.1 hc]
    exact hbreak

/-- Literals are prepared as they stand. -/
theorem Statement.prepare_spell (hquote : isQuote quote = true) (s : String) :
    prepare (spell quote s).toList = (spell quote s).toList := by
  have hchar : Text.isBlank quote = false ∧ quote ≠ ';' := by
    rcases isQuote_iff.1 hquote with rfl | rfl
    · decide
    · decide
  have hbreaks := Lexeme.notBreak_of_mem_spell hquote s
  rw [spell, String.toList_ofList] at hbreaks ⊢
  exact prepare_enclosed hchar.1 hchar.1 hchar.2 hbreaks

namespace Session

/-- Every text comes back from its literal, whichever of the two quotes it stands between: the
literal is read as this one text, and as a statement it evaluates to it in every session. -/
theorem evaluate_spell (s : Session) (hquote : isQuote quote = true) (t : String) :
    Lexeme.scan (spell quote t) = .ok [.text t] ∧
      (s.evaluate (spell quote t)).1 = .ok (.text t) := by
  have hscan := Lexeme.scan_spell hquote t
  have hlast : (spell quote t).toList.getLast? ≠ some ';' := by
    rw [spell, String.toList_ofList, List.getLast?_concat]
    rcases isQuote_iff.1 hquote with rfl | rfl
    · decide
    · decide
  exact ⟨hscan, (s.evaluate_operand (Statement.prepare_spell hquote t) hlast hscan rfl rfl).1⟩

/-- A text with both quotes, backslashes before one of them, line breaks and a control. -/
theorem evaluate_spell_quotes :
    isQuote '\'' = true ∧
      spell '\'' "a\\'\"\r\n\x01;" = "'a\\\\\\'\"\\r\\n\x01;'" ∧
      Lexeme.scan "'a\\\\\\'\"\\r\\n\x01;'" = .ok [.text "a\\'\"\r\n\x01;"] ∧
      (evaluate {} "'a\\\\\\'\"\\r\\n\x01;'").1 = .ok (.text "a\\'\"\r\n\x01;") := by
  have hquote : isQuote '\'' = true := by decide
  have hspell : spell '\'' "a\\'\"\r\n\x01;" = "'a\\\\\\'\"\\r\\n\x01;'" := by decide
  have h := evaluate_spell {} hquote "a\\'\"\r\n\x01;"
  rw [hspell] at h
  exact ⟨hquote, hspell, h⟩

end Session

end Reckon
