/-
# Reckon.Proofs.Lexeme.Literal — where literals end

A literal is read by the one reader of its kind, from the text that starts with it (`ReadFrom`).
String and pattern literals end at the first occurrence of their closing character that no
backslash hides, and a backslash hides if it is the last of an odd number of them: in a row of
backslashes every second one is itself hidden (`Hides`).
-/
import Mathlib.Data.List.DropRight
import Reckon.Proofs.Lexeme.Append

namespace Reckon.Lexeme

open Text (isDigit)

variable {operandDue : Bool} {c : Char} {cs rest : List Char} {t : Lexeme}

/-! ## The readers of literals -/

/-- What has been read from the text `c :: cs` up to `rest` is, if it is the lexeme of a number, a
string literal or a pattern literal, the result of the reader of such literals. -/
def ReadFrom (operandDue : Bool) (c : Char) (cs rest : List Char) : Lexeme → Prop
  | number x => (isDigit c || c == '.') = true ∧ scanNumber (c :: cs) = .ok (x, rest)
  | text s => isQuote c = true ∧ scanText c cs = .ok (s, rest)
  | pattern raw => c = '/' ∧ operandDue = true ∧ scanPattern cs = .ok (raw, rest)
  | _ => True

theorem readFrom_of_scanBracket (h : scanBracket operandDue c cs = .ok (t, rest)) :
    t.ReadFrom operandDue c cs rest := by
  obtain ⟨n, -, rfl, -⟩ := scanBracket_eq_ok_iff.1 h
  unfold bracketed
  split <;> trivial

theorem readFrom_scanWord (cs' : List Char) : (scanWord cs').1.ReadFrom operandDue c cs rest := by
  unfold scanWord
  dsimp only
  split
  · trivial
  · split <;> trivial

theorem readFrom_of_scanCapture (h : scanCapture cs = .ok (t, rest)) :
    t.ReadFrom operandDue c cs rest := by
  obtain ⟨-, rfl, -⟩ := scanCapture_eq_ok_iff.1 h
  trivial

theorem readFrom_of_scanOperator (h : scanOperator c cs = .ok (t, rest)) :
    t.ReadFrom operandDue c cs rest := by
  obtain ⟨op, rfl, -⟩ := ofSymbol_of_scanOperator h
  trivial

/-- Every literal has been read by the reader of its kind. -/
theorem scanOne_readFrom (h : scanOne operandDue c cs = .ok (t, rest)) :
    t.ReadFrom operandDue c cs rest := by
  obtain ⟨reader, hstart, hread⟩ := exists_reader operandDue c
  rw [hread] at h
  cases reader with
  | bracket => exact readFrom_of_scanBracket h
  | pattern =>
      obtain ⟨raw, hraw, rfl⟩ := readAs_eq_ok_iff.1 h
      exact ⟨hstart.1, hstart.2, hraw⟩
  | text =>
      obtain ⟨s, hs, rfl⟩ := readAs_eq_ok_iff.1 h
      exact ⟨hstart, hs⟩
  | openParen | closeParen | comma =>
      cases h
      trivial
  | number =>
      obtain ⟨x, hx, rfl⟩ := readAs_eq_ok_iff.1 h
      exact ⟨hstart, hx⟩
  | word =>
      have hword := @readFrom_scanWord operandDue c cs rest (c :: cs)
      rwa [Except.ok.inj h] at hword
  | capture => exact readFrom_of_scanCapture h
  | operator => exact readFrom_of_scanOperator h

/-! ## Hidden characters -/

/-- What follows the text is hidden: the text ends in an odd number of backslashes. -/
def Hides (cs : List Char) : Prop :=
  (cs.rtakeWhile (· == '\\')).length % 2 = 1

instance : DecidablePred Hides :=
  fun cs => inferInstanceAs (Decidable ((cs.rtakeWhile (· == '\\')).length % 2 = 1))

/-- A character before a text adds to the run at its end only if the whole text is that run. -/
theorem length_rtakeWhile_cons (p : Char → Bool) (c : Char) (cs : List Char) :
    ((c :: cs).rtakeWhile p).length
      = if (cs.rtakeWhile p).length = cs.length then cs.length + (if p c then 1 else 0)
        else (cs.rtakeWhile p).length := by
  simp only [List.rtakeWhile, List.reverse_cons, List.takeWhile_append, List.length_reverse]
  split
  · by_cases hc : p c = true <;> simp [hc]
  · rfl

theorem not_hides_nil : ¬ Hides [] := by
  simp [Hides]

theorem hides_backslash : Hides ['\\'] := by
  decide

theorem hides_cons_of_ne (hc : c ≠ '\\') (cs : List Char) : Hides (c :: cs) ↔ Hides cs := by
  have hp : (c == '\\') = false := beq_false_of_ne hc
  rw [Hides, Hides, length_rtakeWhile_cons, hp, if_neg Bool.false_ne_true]
  split
  · omega
  · rfl

/-- A backslash and the character that it hides make no difference to what follows them. -/
theorem hides_escape (c : Char) (cs : List Char) : Hides ('\\' :: c :: cs) ↔ Hides cs := by
  have hle : (cs.rtakeWhile (· == '\\')).length ≤ cs.length :=
    (List.rtakeWhile_suffix _ cs).length_le
  rw [Hides, Hides, length_rtakeWhile_cons, length_rtakeWhile_cons, List.length_cons]
  by_cases hrun : (cs.rtakeWhile (· == '\\')).length = cs.length
  · by_cases hc : c = '\\'
    · simp [hrun, hc]
      omega
    · simp [hrun, hc]
  · simp only [if_neg hrun]
    split <;> omega

/-- A text is split at the first of the characters that nothing hides. -/
theorem splitAtStop?_spec {stop : Char} {body : List Char} (hstop : stop ≠ '\\')
    (h : splitAtStop? stop cs = some (body, rest)) :
    cs = body ++ stop :: rest ∧ ¬ Hides body ∧
      ∀ before after, body = before ++ stop :: after → Hides before := by
  fun_induction splitAtStop? stop cs generalizing body rest with
  | case1 => cases h
  | case2 => cases h
  | case3 c cs ih =>
      obtain ⟨⟨inner, rest'⟩, hinner, heq⟩ := Option.map_eq_some_iff.1 h
      cases heq
      obtain ⟨rfl, hend, hall⟩ := ih hinner
      refine ⟨rfl, mt (hides_escape c inner).1 hend, ?_⟩
      intro before after hbody
      rcases before with _ | ⟨_, _ | ⟨_, before⟩⟩
      · cases hbody
        exact absurd rfl hstop
      · cases hbody
        exact hides_backslash
      · cases hbody
        exact (hides_escape c before).2 (hall before after rfl)
  | case4 cs hne =>
      cases h
      refine ⟨rfl, not_hides_nil, ?_⟩
      intro before after hbody
      simp at hbody
  | case5 c cs hne hc ih =>
      obtain ⟨⟨inner, rest'⟩, hinner, heq⟩ := Option.map_eq_some_iff.1 h
      cases heq
      obtain ⟨rfl, hend, hall⟩ := ih hinner
      have hplain : c ≠ '\\' := hne
      refine ⟨rfl, mt (hides_cons_of_ne hplain inner).1 hend, ?_⟩
      intro before after hbody
      rcases before with _ | ⟨_, before⟩
      · cases hbody
        exact absurd rfl hc
      · cases hbody
        exact (hides_cons_of_ne hplain before).2 (hall before after rfl)

/-! ## Texts in which a character is hidden everywhere -/

/-- Every occurrence of the character in the text is hidden. -/
def AllHidden (stop : Char) (cs : List Char) : Prop :=
  ∀ before after, cs = before ++ stop :: after → Hides before

theorem allHidden_nil (stop : Char) : AllHidden stop [] := by
  intro before after h
  simp at h

theorem allHidden_backslash {stop : Char} (hstop : stop ≠ '\\') : AllHidden stop ['\\'] := by
  intro before after h
  cases before with
  | nil => exact absurd (List.cons.inj h).1.symm hstop
  | cons d before => simp at h

theorem not_allHidden_cons (stop : Char) (cs : List Char) : ¬ AllHidden stop (stop :: cs) :=
  fun h => not_hides_nil (h [] cs rfl)

theorem allHidden_cons_of_ne {stop : Char} (hc : c ≠ '\\') (hstop : c ≠ stop) :
    AllHidden stop (c :: cs) ↔ AllHidden stop cs := by
  constructor
  · intro h before after hcs
    exact (hides_cons_of_ne hc before).1 (h (c :: before) after (by rw [hcs, List.cons_append]))
  · intro h before after hcs
    cases before with
    | nil => exact absurd (List.cons.inj hcs).1 hstop
    | cons d before =>
        cases hcs
        exact (hides_cons_of_ne hc before).2 (h before after rfl)

theorem allHidden_escape {stop : Char} (hstop : stop ≠ '\\') :
    AllHidden stop ('\\' :: c :: cs) ↔ AllHidden stop cs := by
  constructor
  · intro h before after hcs
    exact (hides_escape c before).1 (h ('\\' :: c :: before) after (by rw [hcs]; rfl))
  · intro h before after hcs
    rcases before with _ | ⟨_, _ | ⟨_, before⟩⟩
    · exact absurd (List.cons.inj hcs).1.symm hstop
    · cases hcs
      exact hides_backslash
    · cases hcs
      exact (hides_escape c before).2 (h before after rfl)

/-- A text cannot be split exactly if the character is hidden everywhere in it. -/
theorem splitAtStop?_eq_none_iff {stop : Char} (hstop : stop ≠ '\\') :
    splitAtStop? stop cs = none ↔ AllHidden stop cs := by
  fun_induction splitAtStop? stop cs with
  | case1 => simp [allHidden_nil]
  | case2 => simp [allHidden_backslash hstop]
  | case3 c cs ih => rw [Option.map_eq_none_iff, ih, allHidden_escape hstop]
  | case4 cs => simp [not_allHidden_cons]
  | case5 c cs hne hc ih => rw [Option.map_eq_none_iff, ih, allHidden_cons_of_ne hne hc]

/-- A text is split exactly at a character that nothing hides, if the part before it hides all
others. -/
theorem splitAtStop?_eq_some_iff {stop : Char} {body : List Char} (hstop : stop ≠ '\\') :
    splitAtStop? stop cs = some (body, rest) ↔
      cs = body ++ stop :: rest ∧ ¬ Hides body ∧ AllHidden stop body := by
  constructor
  · exact splitAtStop?_spec hstop
  rintro ⟨rfl, hend, hall⟩
  rcases hsplit : splitAtStop? stop (body ++ stop :: rest) with _ | ⟨body', rest'⟩
  · exact absurd ((splitAtStop?_eq_none_iff hstop).1 hsplit body rest rfl) hend
  obtain ⟨hcs, hend', hall'⟩ := splitAtStop?_spec hstop hsplit
  -- the longer one of two bodies would hide the character that ends the other
  rcases List.append_eq_append_iff.1 hcs with ⟨more, hbody, hmore⟩ | ⟨more, hbody, hmore⟩
  · cases more with
    | nil => simp_all
    | cons d more =>
        obtain ⟨rfl, -⟩ := List.cons.inj hmore
        exact absurd (hall' body more hbody) hend
  · cases more with
    | nil => simp_all
    | cons d more =>
        obtain ⟨rfl, -⟩ := List.cons.inj hmore
        exact absurd (hall body' more hbody) hend'

end Reckon.Lexeme
