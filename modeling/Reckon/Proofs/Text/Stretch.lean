/-
# Reckon.Proofs.Text.Stretch — where a stretch of characters ends

Readers take the longest stretch of characters of one class. What follows a text makes no
difference to the stretches in it, as long as it does not start with a character of that class.
Trimming takes the stretches of blanks off both ends; a text that has none is left alone.
-/
import Mathlib.Data.List.DropRight
import Reckon.Text.Blank

namespace Reckon.Text

variable {p : Char → Bool} {rest : List Char}

/-- Characters are ordered by their numbers. -/
theorem le_iff_toNat_le (c d : Char) : c ≤ d ↔ c.toNat ≤ d.toNat :=
  UInt32.le_iff_toNat_le

/-- A character of a class is none that is not in it. -/
theorem ne_of_class {c d : Char} (hc : p c = true) (hd : p d = false) : c ≠ d := by
  rintro rfl
  rw [hc] at hd
  cases hd

/-! ## The first stretch of a text -/

/-- What follows a text does not add to a stretch at its start, unless it goes on with it. -/
theorem takeWhile_append_of_stop (h : ∀ c ∈ rest.head?, p c = false) (cs : List Char) :
    (cs ++ rest).takeWhile p = cs.takeWhile p := by
  induction cs with
  | nil =>
      cases rest with
      | nil => rfl
      | cons c rest => exact List.takeWhile_cons_of_neg (by simp [h c rfl])
  | cons c cs ih => rw [List.cons_append, List.takeWhile_cons, List.takeWhile_cons, ih]

theorem dropWhile_append_of_stop (h : ∀ c ∈ rest.head?, p c = false) (cs : List Char) :
    (cs ++ rest).dropWhile p = cs.dropWhile p ++ rest := by
  induction cs with
  | nil =>
      cases rest with
      | nil => rfl
      | cons c rest => exact List.dropWhile_cons_of_neg (by simp [h c rfl])
  | cons c cs ih =>
      rw [List.cons_append, List.dropWhile_cons, List.dropWhile_cons, ih]
      split
      · rfl
      · rfl

/-- Nothing is left of a stretch without what follows it. -/
theorem dropWhile_takeWhile (p : Char → Bool) (cs : List Char) :
    (cs.takeWhile p).dropWhile p = [] :=
  List.dropWhile_eq_nil_iff.2 fun _ => List.mem_takeWhile_imp

/-- Where a stretch ends, no character of its class stands. -/
theorem stop_dropWhile (p : Char → Bool) (cs : List Char) :
    ∀ c ∈ (cs.dropWhile p).head?, p c = false := by
  intro c hc
  have hnot := List.head?_dropWhile_not p cs
  rw [Option.mem_def.1 hc] at hnot
  simpa using hnot

/-- A text that does not start with a stretch keeps all of itself. -/
theorem dropWhile_eq_self_of_stop (h : ∀ c ∈ rest.head?, p c = false) : rest.dropWhile p = rest := by
  have hdrop := dropWhile_append_of_stop h []
  rwa [List.nil_append, List.dropWhile_nil, List.nil_append] at hdrop

/-! ## Trimming -/

/-- Trimming an end drops the blanks there. -/
theorem trimEnd_eq_rdropWhile (cs : List Char) : trimEnd cs = cs.rdropWhile isBlank := by
  induction cs with
  | nil => rfl
  | cons c cs ih =>
      rw [trimEnd, ih, List.rdropWhile, List.rdropWhile, List.reverse_cons, List.dropWhile_append]
      cases hrest : cs.reverse.dropWhile isBlank with
      | nil =>
          by_cases hc : isBlank c = true
          · simp [hc]
          · simp [hc]
      | cons d rest => simp

/-- A text that ends in no blank. -/
def EndsVisibly (cs : List Char) : Prop :=
  ∀ c ∈ cs.getLast?, isBlank c = false

/-- A text that starts with no blank. -/
def StartsVisibly (cs : List Char) : Prop :=
  ∀ c ∈ cs.head?, isBlank c = false

theorem endsVisibly_trimEnd (cs : List Char) : EndsVisibly (trimEnd cs) := by
  intro c hc
  rw [trimEnd_eq_rdropWhile] at hc
  obtain ⟨hne, rfl⟩ := List.mem_getLast?_eq_getLast hc
  exact Bool.eq_false_iff.2 (List.rdropWhile_last_not isBlank cs hne)

theorem trimEnd_eq_self {cs : List Char} (h : EndsVisibly cs) : trimEnd cs = cs := by
  rw [trimEnd_eq_rdropWhile, List.rdropWhile_eq_self_iff]
  intro hne
  exact Bool.eq_false_iff.1 (h _ (List.getLast_mem_getLast? hne))

theorem trimEnd_isPrefix (cs : List Char) : trimEnd cs <+: cs := by
  rw [trimEnd_eq_rdropWhile]
  exact List.rdropWhile_prefix isBlank cs

theorem trim_sublist (cs : List Char) : (trim cs).Sublist cs :=
  (trimEnd_isPrefix _).sublist.trans (List.dropWhile_sublist _)

theorem StartsVisibly.of_isPrefix {cs ds : List Char} (hds : StartsVisibly ds) (h : cs <+: ds) :
    StartsVisibly cs := by
  obtain ⟨rest, rfl⟩ := h
  intro c hc
  refine hds c ?_
  rw [List.head?_append, Option.mem_def.1 hc]
  rfl

theorem startsVisibly_trimStart (cs : List Char) : StartsVisibly (trimStart cs) :=
  stop_dropWhile isBlank cs

theorem startsVisibly_trim (cs : List Char) : StartsVisibly (trim cs) :=
  (startsVisibly_trimStart cs).of_isPrefix (trimEnd_isPrefix _)

theorem endsVisibly_trim (cs : List Char) : EndsVisibly (trim cs) :=
  endsVisibly_trimEnd (trimStart cs)

/-- A text without blanks at its ends is left alone. -/
theorem trim_eq_self {cs : List Char} (hstart : StartsVisibly cs) (hend : EndsVisibly cs) :
    trim cs = cs := by
  have htrimStart : trimStart cs = cs := dropWhile_eq_self_of_stop hstart
  rw [trim, htrimStart, trimEnd_eq_self hend]

/-- What trimming takes off the end are blanks. -/
theorem trimStart_eq_append (cs : List Char) :
    ∃ blanks, trimStart cs = trim cs ++ blanks ∧ ∀ c ∈ blanks, isBlank c = true := by
  refine ⟨(trimStart cs).rtakeWhile isBlank, ?_, fun c hc => List.mem_rtakeWhile_imp hc⟩
  rw [trim, trimEnd_eq_rdropWhile, List.rdropWhile_append_rtakeWhile]

end Reckon.Text
