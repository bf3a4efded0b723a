/-
# Reckon.Proofs.Statement.Preparation — what preparing a text leaves

A prepared text has no line breaks, no blanks at either end, and one final semicolon less. So
preparing it again changes nothing, unless a second semicolon has come to the end of it: then
that one goes as well.
-/
import Reckon.Proofs.Text.Stretch
import Reckon.Session.Statement

namespace Reckon.Statement

open Text (trim trimEnd trimEnd_eq_self trim_eq_self startsVisibly_trim endsVisibly_trim
  endsVisibly_trimEnd)

/-! ## The parts of a preparation -/

/-- A text without its line breaks. -/
def unbroken (cs : List Char) : List Char :=
  cs.filter fun c => c != '\r' && c != '\n'

theorem prepare_eq (cs : List Char) :
    prepare cs = trimEnd (dropSemicolon (trim (unbroken cs))) :=
  rfl

/-- A final semicolon goes, and nothing else. -/
theorem dropSemicolon_eq (cs : List Char) :
    dropSemicolon cs = if cs.getLast? = some ';' then cs.dropLast else cs := by
  fun_induction dropSemicolon cs with
  | case1 => rfl
  | case2 => rfl
  | case3 c cs hne ih =>
      cases cs with
      | nil =>
          have hc : c ≠ ';' := fun h => hne h rfl
          rw [List.getLast?_singleton, if_neg (by simpa using hc)]
          rfl
      | cons d cs =>
          rw [ih, List.getLast?_cons_cons, List.dropLast_cons_cons]
          split
          · rfl
          · rfl

theorem dropSemicolon_eq_self {cs : List Char} (h : cs.getLast? ≠ some ';') :
    dropSemicolon cs = cs := by
  rw [dropSemicolon_eq, if_neg h]

theorem dropSemicolon_isPrefix (cs : List Char) : dropSemicolon cs <+: cs := by
  rw [dropSemicolon_eq]
  split
  · exact List.dropLast_prefix cs
  · exact List.prefix_rfl

/-! ## Prepared texts -/

theorem unbroken_eq_self {cs : List Char} (h : ∀ c ∈ cs, c ≠ '\r' ∧ c ≠ '\n') :
    unbroken cs = cs := by
  apply List.filter_eq_self.2
  intro c hc
  simpa using h c hc

theorem not_break_of_mem_unbroken {cs : List Char} {c : Char} (h : c ∈ unbroken cs) :
    c ≠ '\r' ∧ c ≠ '\n' := by
  simpa using (List.mem_filter.1 h).2

/-- An escape of two characters breaks no line if the second one does not. -/
theorem notBreak_of_mem_escape {c d : Char} (hc : c ≠ '\r' ∧ c ≠ '\n') (h : d ∈ ['\\', c]) :
    d ≠ '\r' ∧ d ≠ '\n' := by
  rcases List.mem_pair.1 h with rfl | rfl
  · decide
  · exact hc

/-- A prepared text is a piece of the text without its line breaks. -/
theorem prepare_sublist (cs : List Char) : (prepare cs).Sublist (unbroken cs) := by
  rw [prepare_eq]
  refine (Text.trimEnd_isPrefix _).sublist.trans ?_
  exact (dropSemicolon_isPrefix _).sublist.trans (Text.trim_sublist _)

theorem unbroken_prepare (cs : List Char) : unbroken (prepare cs) = prepare cs :=
  unbroken_eq_self fun _ hc => not_break_of_mem_unbroken ((prepare_sublist cs).subset hc)

theorem trim_prepare (cs : List Char) : trim (prepare cs) = prepare cs := by
  apply trim_eq_self
  · rw [prepare_eq]
    exact (startsVisibly_trim _).of_isPrefix
      ((Text.trimEnd_isPrefix _).trans (dropSemicolon_isPrefix _))
  · exact endsVisibly_trimEnd _

/-- Where no semicolon ends a text, preparing it means to take out line breaks and the blanks at
its ends. -/
theorem prepare_eq_trim {cs : List Char} (h : (trim (unbroken cs)).getLast? ≠ some ';') :
    prepare cs = trim (unbroken cs) := by
  rw [prepare_eq, dropSemicolon_eq_self h, trimEnd_eq_self (endsVisibly_trim _)]

/-- A text that is trimmed but for line breaks only loses these. -/
theorem prepare_eq_unbroken {cs : List Char} (hstart : Text.StartsVisibly (unbroken cs))
    (hend : Text.EndsVisibly (unbroken cs)) (hlast : (unbroken cs).getLast? ≠ some ';') :
    prepare cs = unbroken cs := by
  have htrim := trim_eq_self hstart hend
  rw [prepare_eq_trim, htrim]
  rwa [htrim]

/-- A text on one line without blanks or a semicolon at an end stays as it is. -/
theorem prepare_eq_self {cs : List Char} (hbreaks : ∀ c ∈ cs, c ≠ '\r' ∧ c ≠ '\n')
    (hstart : Text.StartsVisibly cs) (hend : Text.EndsVisibly cs)
    (hlast : cs.getLast? ≠ some ';') : prepare cs = cs := by
  have hunbroken := unbroken_eq_self hbreaks
  rw [prepare_eq_unbroken, hunbroken] <;> rwa [hunbroken]

/-- A text on one line stays as it is if neither of the characters that enclose it is a blank, and
the last one is no semicolon. -/
theorem prepare_enclosed {first last : Char} {cs : List Char} (hfirst : Text.isBlank first = false)
    (hlast : Text.isBlank last = false) (hsemicolon : last ≠ ';')
    (hbreaks : ∀ c ∈ first :: cs ++ [last], c ≠ '\r' ∧ c ≠ '\n') :
    prepare (first :: cs ++ [last]) = first :: cs ++ [last] := by
  have hgetLast : (first :: cs ++ [last]).getLast? = some last := List.getLast?_concat
  apply prepare_eq_self hbreaks
  · intro c hc
    cases hc
    exact hfirst
  · intro c hc
    rw [hgetLast] at hc
    cases hc
    exact hlast
  · rw [hgetLast]
    exact fun heq => hsemicolon (Option.some.inj heq)

/-- A prepared text that ends in no semicolon is prepared for good. -/
theorem prepare_prepare {cs : List Char} (h : (prepare cs).getLast? ≠ some ';') :
    prepare (prepare cs) = prepare cs := by
  rw [prepare_eq_trim, unbroken_prepare, trim_prepare]
  rwa [unbroken_prepare, trim_prepare]

end Reckon.Statement
