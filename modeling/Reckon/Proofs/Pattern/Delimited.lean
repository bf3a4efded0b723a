/-
# Reckon.Proofs.Pattern.Delimited — the two splitters of pattern literals

A pattern literal is taken apart twice. The scanner closes it at the *first* slash that no
backslash hides; when the pattern is compiled, its text is split at the *last* closing delimiter.
They meet because nothing but letters follow the slash that the scanner closes it at
(`Lexeme.scanPattern_parts`), so that this slash is the last one as well.

Splitting is exact for every delimiter: a text is split into a body and flags exactly if it is a
delimiter, the body, the closing delimiter, and flags without that (`splitDelimited_eq_ok_iff`).
-/
import Reckon.Pattern.Delimited
import Reckon.Proofs.Conversion.Position
import Reckon.Proofs.Lexeme.Literal

namespace Reckon.Pattern

open Text (isAlphanumeric isBlank)

variable {c d : Char} {cs text body flags before after : List Char}

/-! ## Splitting at the last delimiter -/

theorem splitAtLast?_eq_none_iff : splitAtLast? c cs = none ↔ c ∉ cs := by
  induction cs with
  | nil => simp [splitAtLast?]
  | cons x xs ih =>
      rw [splitAtLast?, List.mem_cons, not_or, ← ih]
      split
      · rename_i hsome
        simp [hsome]
      · rename_i hnone
        split
        · rename_i hx
          simp [hx]
        · rename_i hx
          simp [hnone, Ne.symm hx]

/-- A text is split at the last `c` exactly if there is none in the second part. -/
theorem splitAtLast?_eq_some_iff :
    splitAtLast? c cs = some (before, after) ↔ cs = before ++ c :: after ∧ c ∉ after := by
  induction cs generalizing before with
  | nil => simp [splitAtLast?]
  | cons x xs ih =>
      rw [splitAtLast?]
      split
      · rename_i before' after' hsome
        -- there is a `c` behind `x`, so that `x` is in the first part
        have hmem : c ∈ xs := by
          by_contra hno
          rw [splitAtLast?_eq_none_iff.2 hno] at hsome
          cases hsome
        constructor
        · intro h
          cases h
          obtain ⟨rfl, hafter⟩ := ih.1 hsome
          exact ⟨rfl, hafter⟩
        · rintro ⟨hxs, hafter⟩
          cases before with
          | nil =>
              cases hxs
              exact absurd hmem hafter
          | cons y ys =>
              cases hxs
              rw [ih.2 ⟨rfl, hafter⟩] at hsome
              cases hsome
              rfl
      · rename_i hnone
        have hno : c ∉ xs := splitAtLast?_eq_none_iff.1 hnone
        constructor
        · intro h
          split at h
          · rename_i hx
            cases h
            exact ⟨by rw [hx, List.nil_append], hno⟩
          · cases h
        · rintro ⟨hxs, hafter⟩
          cases before with
          | nil =>
              cases hxs
              rw [if_pos rfl]
          | cons y ys =>
              cases hxs
              exact absurd (by simp) hno

/-! ## Splitting a delimited pattern -/

/-- The text is a delimiter `d`, a body, what closes `d`, and flags without that. -/
structure Delimits (text : List Char) (d : Char) (body flags : List Char) : Prop where
  not_alphanumeric : isAlphanumeric d = false
  not_blank : isBlank d = false
  ne_backslash : d ≠ '\\'
  text_eq : text = d :: (body ++ closingOf d :: flags)
  closing_notMem : closingOf d ∉ flags

theorem isDelimiter_eq_true_iff :
    isDelimiter d = true ↔ isAlphanumeric d = false ∧ isBlank d = false ∧ d ≠ '\\' := by
  simp only [isDelimiter, Bool.not_eq_true', Bool.or_eq_false_iff, beq_eq_false_iff_ne]
  tauto

/-- A text is split into a body and flags exactly if these delimit it. -/
theorem splitDelimited_eq_ok_iff :
    splitDelimited text = .ok (body, flags) ↔ ∃ d, Delimits text d body flags := by
  constructor
  · intro h
    rw [splitDelimited.eq_def] at h
    split at h
    · cases h
    rename_i d rest
    split at h
    · cases h
    rename_i hdelimiter
    split at h
    · rename_i parts hparts
      cases h
      obtain ⟨rfl, hflags⟩ := splitAtLast?_eq_some_iff.1 hparts
      obtain ⟨halpha, hblank, hslash⟩ := isDelimiter_eq_true_iff.1 (by simpa using hdelimiter)
      exact ⟨d, halpha, hblank, hslash, rfl, hflags⟩
    · cases h
  · rintro ⟨d, h⟩
    have hdelimiter : isDelimiter d = true :=
      isDelimiter_eq_true_iff.2 ⟨h.not_alphanumeric, h.not_blank, h.ne_backslash⟩
    have hparts : splitAtLast? (closingOf d) (body ++ closingOf d :: flags) = some (body, flags) :=
      splitAtLast?_eq_some_iff.2 ⟨rfl, h.closing_notMem⟩
    rw [h.text_eq, splitDelimited.eq_def]
    simp [hdelimiter, hparts]

/-- A text is delimited in one way at most. -/
theorem Delimits.unique {d' : Char} {body' flags' : List Char} (h : Delimits text d body flags)
    (h' : Delimits text d' body' flags') : d' = d ∧ body' = body ∧ flags' = flags := by
  have hsplit := splitDelimited_eq_ok_iff.2 ⟨d, h⟩
  rw [splitDelimited_eq_ok_iff.2 ⟨d', h'⟩] at hsplit
  have htext : d' :: _ = d :: _ := h'.text_eq.symm.trans h.text_eq
  cases hsplit
  exact ⟨(List.cons.inj htext).1, rfl, rfl⟩

/-- Compiles the body of a pattern under the letters of its flags. -/
def compileBody (body letters : List Char) : Except PatternFault Program := do
  let flags ← letters.foldlM takeFlag {}
  match Tree.parse? flags body with
  | some tree => return .ofTree tree
  | none => .error .refused

/-- What is compiled is the body that the text is split into. -/
theorem compileDelimited_eq_compileBody (h : splitDelimited text = .ok (body, flags)) :
    compileDelimited text = compileBody body flags := by
  rw [compileDelimited, h]
  rfl

end Reckon.Pattern

/-! ## Pattern literals -/

namespace Reckon.Lexeme

open Pattern (Delimits)
open Text (isLetter)

/-- The lexeme is read somewhere in the text, or in the contents of a selector in it. What comes
after it need not be readable. -/
inductive Occurs : String → Lexeme → Prop
  | here {source : String} {due : Bool} {rest : List Char} {ts : List Lexeme} {t : Lexeme} :
      ReadsTo true source.toList ts due rest → t ∈ ts → Occurs source t
  | inside {source raw : String} {t : Lexeme} :
      Occurs source (index raw) → Occurs raw t → Occurs source t

theorem ReadsTo.exists_scanOne {due due' : Bool} {cs rest : List Char} {ts : List Lexeme}
    {t : Lexeme} (h : ReadsTo due cs ts due' rest) (ht : t ∈ ts) :
    ∃ due c tail after, scanOne due c tail = .ok (t, after) := by
  induction h with
  | refl due cs => cases ht
  | next _ hone _ ih =>
      cases ht with
      | head => exact ⟨_, _, _, _, hone⟩
      | tail _ ht => exact ih ht

theorem Occurs.exists_scanOne {source : String} {t : Lexeme} (h : Occurs source t) :
    ∃ due c tail after, scanOne due c tail = .ok (t, after) := by
  induction h with
  | here hreads ht => exact hreads.exists_scanOne ht
  | inside _ _ _ ih => exact ih

/-- The body and the flags of a pattern literal as the scanner delimits them: the body is not
empty, every slash in it is hidden, and the slash after it is not; the flags are letters. -/
structure PatternParts (body flags : List Char) : Prop where
  ne_nil : body ≠ []
  hides : ∀ before after, body = before ++ '/' :: after → Hides before
  not_hides : ¬ Hides body
  isLetter : ∀ c ∈ flags, isLetter c = true

/-- The scanner ends the body of a pattern literal at the first slash that nothing hides, and the
literal with the letters after it. -/
theorem scanPattern_parts {cs rest : List Char} {raw : String}
    (h : scanPattern cs = .ok (raw, rest)) :
    ∃ body flags, raw.toList = '/' :: (body ++ '/' :: flags) ∧ PatternParts body flags := by
  rw [scanPattern] at h
  split at h
  · cases h
  · cases h
  · rename_i body after hne hsplit
    cases h
    obtain ⟨-, hend, hall⟩ := splitAtStop?_spec (by decide) hsplit
    refine ⟨body, after.takeWhile isLetter, String.toList_ofList, ?_, hall, hend, ?_⟩
    · rintro rfl
      exact hne rfl
    · intro c hc
      exact List.mem_takeWhile_imp hc

/-- The parts of a pattern literal delimit its text, as the slash is no letter. -/
theorem PatternParts.delimits {body flags : List Char} (h : PatternParts body flags) :
    Delimits ('/' :: (body ++ '/' :: flags)) '/' body flags where
  not_alphanumeric := by decide
  not_blank := by decide
  ne_backslash := by decide
  text_eq := rfl
  closing_notMem hslash := absurd (h.isLetter _ hslash) (by decide)

end Reckon.Lexeme

namespace Reckon.Pattern

open Text (isAlphanumeric isBlank)

/-- The two splitters of pattern literals agree, and the second of them is exact. For every
pattern literal that the scanner reads in a text, or in the contents of a selector, the text of
the literal is split at the slash that the scanner closed it at, so that what is compiled is the
body that the scanner has delimited. Whatever the delimiter is, a delimited text is split into
its parts, and a text that is split is delimited by these parts and in no other way. -/
theorem splitDelimited_agrees :
    (∀ source raw, Lexeme.Occurs source (.pattern raw) →
      ∃ body flags, raw.toList = '/' :: (body ++ '/' :: flags) ∧
        Lexeme.PatternParts body flags ∧ splitDelimited raw.toList = .ok (body, flags) ∧
        compileDelimited raw.toList = compileBody body flags) ∧
    (∀ d body flags, isAlphanumeric d = false → isBlank d = false → d ≠ '\\' →
      closingOf d ∉ flags →
      splitDelimited (d :: (body ++ closingOf d :: flags)) = .ok (body, flags)) ∧
    ∀ text body flags, splitDelimited text = .ok (body, flags) →
      ∃ d, Delimits text d body flags ∧ ∀ d' body' flags', Delimits text d' body' flags' →
        d' = d ∧ body' = body ∧ flags' = flags := by
  refine ⟨?_, ?_, ?_⟩
  · intro source raw hoccurs
    obtain ⟨due, c, tail, after, hone⟩ := hoccurs.exists_scanOne
    obtain ⟨-, -, hscan⟩ := Lexeme.scanOne_readFrom hone
    obtain ⟨body, flags, hraw, hparts⟩ := Lexeme.scanPattern_parts hscan
    have hsplit : splitDelimited raw.toList = .ok (body, flags) := by
      rw [hraw]
      exact splitDelimited_eq_ok_iff.2 ⟨'/', hparts.delimits⟩
    exact ⟨body, flags, hraw, hparts, hsplit, compileDelimited_eq_compileBody hsplit⟩
  · intro d body flags halpha hblank hslash hflags
    exact splitDelimited_eq_ok_iff.2 ⟨d, halpha, hblank, hslash, rfl, hflags⟩
  · intro text body flags hsplit
    obtain ⟨d, hd⟩ := splitDelimited_eq_ok_iff.1 hsplit
    exact ⟨d, hd, fun d' body' flags' hd' => hd.unique hd'⟩

/-- A pattern literal in a selector, with a hidden slash and a backslash that hides nothing at the
end of its body, and a text between angle brackets that holds one of them. -/
theorem splitDelimited_agrees_selector :
    Lexeme.Occurs "a[b =~ /x\\/y\\\\/iu]" (.pattern "/x\\/y\\\\/iu") ∧
      splitDelimited "/x\\/y\\\\/iu".toList = .ok ("x\\/y\\\\".toList, "iu".toList) ∧
      splitDelimited "<a>b>i".toList = .ok ("a>b".toList, "i".toList) := by
  have hscan : Lexeme.scan "a[b =~ /x\\/y\\\\/iu]"
      = .ok ([.identifier "a", .index "b =~ /x\\/y\\\\/iu"] ++ []) := by cbv
  have hcontents : Lexeme.scan "b =~ /x\\/y\\\\/iu"
      = .ok ([.identifier "b", .operator .matching, .pattern "/x\\/y\\\\/iu"] ++ []) := by cbv
  obtain ⟨_, hreads, -⟩ := Lexeme.exists_readsTo_of_scanFrom hscan
  obtain ⟨_, hreads', -⟩ := Lexeme.exists_readsTo_of_scanFrom hcontents
  have hoccurs : Lexeme.Occurs "a[b =~ /x\\/y\\\\/iu]" (.pattern "/x\\/y\\\\/iu") :=
    .inside (.here hreads (by simp)) (.here hreads' (by simp))
  obtain ⟨body, flags, -, -, hsplit, -⟩ := splitDelimited_agrees.1 _ _ hoccurs
  have hdelimits : Delimits "/x\\/y\\\\/iu".toList '/' "x\\/y\\\\".toList "iu".toList := by
    constructor <;> decide
  obtain ⟨d, -, hunique⟩ := splitDelimited_agrees.2.2 _ _ _ hsplit
  obtain ⟨-, hbody, hflags⟩ := hunique _ _ _ hdelimits
  refine ⟨hoccurs, ?_, ?_⟩
  · rw [hbody, hflags]
    exact hsplit
  · exact splitDelimited_agrees.2.1 '<' "a>b".toList "i".toList (by decide) (by decide)
      (by decide) (by decide)

end Reckon.Pattern
