/-
# Reckon.Proofs.Lexeme.Numeral — the two recognisers of decimal numbers

Decimal numbers are recognised in two places. The scanner splits off the longest numeral that a
text starts with; the numeric view of a text wants the whole text to be one. Both meet at the
grammar of decimal numbers,

    decimal  := sign? unsigned
    unsigned := (digit+ [ . digit* ] | . digit+) [ (e | E) sign? digit+ ]

which is also exactly what the reader of decimal numbers accepts. What the scanner splits off
derives from it (`isUnsigned_splitNumeral`), so that reading it never fails, and what derives from
it is split off as a whole (`splitNumeral_of_isUnsigned`).
-/
import Reckon.Proofs.Lexeme.Literal
import Reckon.Proofs.Lexeme.Spacing
import Reckon.Proofs.Number.Notation
import Reckon.Value.View

namespace Reckon.Number

open Lexeme (splitFraction splitExponent splitNumeral startsWithBarePoint)
open Text (isDigit)

/-! ## The grammar -/

/-- Digits, and at least one of them. -/
def IsDigits (cs : List Char) : Prop :=
  cs ≠ [] ∧ ∀ c ∈ cs, isDigit c = true

/-- A sign, or nothing. -/
def IsSign (cs : List Char) : Prop :=
  cs = [] ∨ cs = ['+'] ∨ cs = ['-']

/-- Digits with at most one point after or before them. -/
inductive IsMantissa : List Char → Prop
  | whole {ds : List Char} : IsDigits ds → IsMantissa ds
  | pointed {ds es : List Char} :
      IsDigits ds → (∀ c ∈ es, isDigit c = true) → IsMantissa (ds ++ '.' :: es)
  | fraction {es : List Char} : IsDigits es → IsMantissa ('.' :: es)

/-- A power of ten, or nothing. -/
inductive IsPower : List Char → Prop
  | none : IsPower []
  | some {e : Char} {sign ds : List Char} :
      e = 'e' ∨ e = 'E' → IsSign sign → IsDigits ds → IsPower (e :: (sign ++ ds))

/-- A decimal number without a sign. -/
def IsUnsigned (cs : List Char) : Prop :=
  ∃ mantissa power, IsMantissa mantissa ∧ IsPower power ∧ cs = mantissa ++ power

/-- A decimal number. -/
def IsDecimal (cs : List Char) : Prop :=
  ∃ sign unsigned, IsSign sign ∧ IsUnsigned unsigned ∧ cs = sign ++ unsigned

/-- A fraction is a point and the digits after it, or nothing. -/
def IsFraction (cs : List Char) : Prop :=
  cs = [] ∨ ∃ ds, cs = '.' :: ds ∧ ∀ d ∈ ds, isDigit d = true

variable {cs : List Char} {c : Char}

theorem IsDigits.exists_cons (h : IsDigits cs) :
    ∃ d ds, cs = d :: ds ∧ isDigit d = true := by
  obtain ⟨d, ds, rfl⟩ := List.exists_cons_of_ne_nil h.1
  exact ⟨d, ds, rfl, h.2 d List.mem_cons_self⟩

/-- Seen from left to right, a mantissa is digits and a fraction, with a digit in either. -/
theorem isMantissa_iff :
    IsMantissa cs ↔ ∃ whole fraction, cs = whole ++ fraction ∧ (∀ d ∈ whole, isDigit d = true) ∧
      IsFraction fraction ∧ ∃ d ∈ whole ++ fraction, isDigit d = true := by
  constructor
  · intro h
    cases h with
    | whole hds =>
        obtain ⟨d, ds, rfl, hd⟩ := hds.exists_cons
        exact ⟨_, [], (List.append_nil _).symm, hds.2, .inl rfl, d, by simp, hd⟩
    | pointed hds hes =>
        obtain ⟨d, ds, rfl, hd⟩ := hds.exists_cons
        exact ⟨_, _, rfl, hds.2, .inr ⟨_, rfl, hes⟩, d, by simp, hd⟩
    | fraction hes =>
        obtain ⟨e, es, rfl, he⟩ := hes.exists_cons
        exact ⟨[], _, rfl, nofun, .inr ⟨_, rfl, hes.2⟩, e, by simp, he⟩
  · rintro ⟨whole, fraction, rfl, hwhole, rfl | ⟨es, rfl, hes⟩, d, hd, hdigit⟩
    · rw [List.append_nil] at hd ⊢
      exact .whole ⟨List.ne_nil_of_mem hd, hwhole⟩
    · rcases whole with _ | ⟨w, whole⟩
      · refine .fraction ⟨?_, hes⟩
        rintro rfl
        have hpoint : d = '.' := by simpa using hd
        rw [hpoint] at hdigit
        cases hdigit
      · exact .pointed ⟨List.cons_ne_nil w whole, hwhole⟩ hes

/-! ## Powers of ten -/

theorem IsPower.head_ne (h : IsPower cs) : ∀ c ∈ cs.head?, isDigit c = false ∧ c ≠ '.' := by
  cases h with
  | none => nofun
  | some he =>
      intro c hc
      cases hc
      rcases he with rfl | rfl <;> decide

/-- Whatever is split off as an exponent is one. -/
theorem isPower_splitExponent (cs : List Char) : IsPower (splitExponent cs).1 := by
  have hdigits : ∀ {ds : List Char}, ¬ (ds.takeWhile isDigit).isEmpty = true →
      IsDigits (ds.takeWhile isDigit) := by
    intro ds hds
    exact ⟨mt List.isEmpty_iff.2 hds, fun d => List.mem_takeWhile_imp⟩
  unfold splitExponent
  split
  · exact .none
  split
  · rename_i e cs he
    have hletter : e = 'e' ∨ e = 'E' := by simpa using he
    split
    · exact .none
    rename_i s ds
    split
    · rename_i hsign
      have hsign' : s = '+' ∨ s = '-' := by simpa using hsign
      split
      · exact .none
      · rename_i hds
        refine @IsPower.some _ [s] _ hletter ?_ (hdigits hds)
        rcases hsign' with rfl | rfl <;> simp [IsSign]
    · split
      · rename_i hs
        have hds : ¬ ((s :: ds).takeWhile isDigit).isEmpty = true := by
          simp [List.takeWhile_cons_of_pos hs]
        exact @IsPower.some _ [] _ hletter (.inl rfl) (hdigits hds)
      · exact .none
  · exact .none

theorem isDigit_ne_sign (h : isDigit c = true) : (c == '+' || c == '-') = false := by
  have hplus : c ≠ '+' := Text.ne_of_class h (by decide)
  have hminus : c ≠ '-' := Text.ne_of_class h (by decide)
  simp [hplus, hminus]

/-- An exponent is split off as a whole. -/
theorem IsPower.splitExponent_eq (h : IsPower cs) : splitExponent cs = (cs, []) := by
  cases h with
  | none => rfl
  | @some e sign ds he hsign hds =>
      have hletter : (e == 'e' || e == 'E') = true := by simpa using he
      have htake := List.takeWhile_eq_self_iff.2 hds.2
      have hdrop := List.dropWhile_eq_nil_iff.2 hds.2
      rcases hsign with rfl | rfl | rfl
      · obtain ⟨d, ds, rfl, hd⟩ := hds.exists_cons
        simp only [List.nil_append, splitExponent, hletter, isDigit_ne_sign hd, hd, htake, hdrop,
          if_true, Bool.false_eq_true, if_false]
      · simp [splitExponent, hletter, hds.1, htake, hdrop]
      · simp [splitExponent, hletter, hds.1, htake, hdrop]

/-- The reader of exponents accepts exponents, and nothing else. -/
theorem isSome_readExponent?_iff : (readExponent? cs).isSome = true ↔ IsPower cs := by
  constructor
  · intro h
    rw [readExponent?.eq_def] at h
    split at h
    · exact .none
    split at h
    · rename_i e rest he
      have hletter : e = 'e' ∨ e = 'E' := by simpa using he
      split at h
      rename_i negative digits hrest
      split at h
      · cases h
      · rename_i hok
        have hdigits : IsDigits digits := by simpa [IsDigits] using hok
        split at hrest <;> cases hrest
        · exact @IsPower.some _ ['-'] _ hletter (by simp [IsSign]) hdigits
        · exact @IsPower.some _ ['+'] _ hletter (by simp [IsSign]) hdigits
        · exact @IsPower.some _ [] _ hletter (by simp [IsSign]) hdigits
    · cases h
  · intro h
    cases h with
    | none => rfl
    | @some e sign ds he hsign hds =>
        have hletter : (e == 'e' || e == 'E') = true := by simpa using he
        rcases hsign with rfl | rfl | rfl
        · obtain ⟨d, ds, rfl, hd⟩ := hds.exists_cons
          -- a digit is no sign
          have hminus : d ≠ '-' := Text.ne_of_class hd (by decide)
          have hplus : d ≠ '+' := Text.ne_of_class hd (by decide)
          simpa [readExponent?, hletter, hminus, hplus] using hds.2
        · simpa [readExponent?, hletter, IsDigits] using hds
        · simpa [readExponent?, hletter, IsDigits] using hds

/-! ## Numbers without a sign -/

/-- What a number without a sign looks like to a reader that goes from left to right: there is a
digit before the exponent, and what comes after the fraction is an exponent. -/
theorem isUnsigned_iff :
    IsUnsigned cs ↔
      (∃ d ∈ cs.takeWhile isDigit ++ (splitFraction (cs.dropWhile isDigit)).1, isDigit d = true) ∧
        IsPower (splitFraction (cs.dropWhile isDigit)).2 := by
  constructor
  · rintro ⟨mantissa, power, hmantissa, hpower, rfl⟩
    obtain ⟨whole, fraction, rfl, hwhole, hfraction, hdigit⟩ := isMantissa_iff.1 hmantissa
    obtain ⟨htake, hsplit⟩ := Lexeme.splitFraction_parts hwhole hfraction hpower.head_ne
    rw [htake, hsplit]
    exact ⟨hdigit, hpower⟩
  · rintro ⟨hdigit, hpower⟩
    obtain ⟨hcs, hfraction⟩ := Lexeme.splitFraction_spec (cs.dropWhile isDigit)
    refine ⟨_, _, isMantissa_iff.2 ⟨_, _, rfl, fun d => List.mem_takeWhile_imp, hfraction, hdigit⟩,
      hpower, ?_⟩
    rw [List.append_assoc, ← hcs, List.takeWhile_append_dropWhile]

/-- There is a digit before the exponent exactly if digits start the text or follow the point. -/
theorem exists_isDigit_iff {fraction : List Char} (hfraction : IsFraction fraction) :
    (∃ d ∈ cs.takeWhile isDigit ++ fraction, isDigit d = true) ↔
      ((cs.takeWhile isDigit).isEmpty && fraction.tail.isEmpty) = false := by
  have hwhole : ∀ d ∈ cs.takeWhile isDigit, isDigit d = true := fun d => List.mem_takeWhile_imp
  rcases hfraction with rfl | ⟨ds, rfl, hds⟩
  · cases htake : cs.takeWhile isDigit with
    | nil => simp
    | cons d ds => simp [hwhole d (by simp [htake])]
  · cases htake : cs.takeWhile isDigit with
    | nil =>
        have hpoint : isDigit '.' = false := by decide
        cases ds with
        | nil => simp [hpoint]
        | cons e es => simp [hds e List.mem_cons_self]
    | cons d ds => simp [hwhole d (by simp [htake])]

/-- The reader of numbers without a sign accepts such numbers, and nothing else. -/
theorem isSome_readUnsigned?_iff : (readUnsigned? cs).isSome = true ↔ IsUnsigned cs := by
  have hfraction := (Lexeme.splitFraction_spec (cs.dropWhile isDigit)).2
  rw [isUnsigned_iff, exists_isDigit_iff hfraction, ← isSome_readExponent?_iff, readUnsigned?]
  split
  rename_i fraction rest hparts
  -- the reader leaves out the point, which is part of the fraction for the scanner
  have heq : splitFraction (cs.dropWhile isDigit) = ('.' :: fraction, rest) ∨
      splitFraction (cs.dropWhile isDigit) = (fraction, rest) ∧ fraction = [] := by
    split at hparts
    · rename_i after hafter
      cases hparts
      exact .inl (by rw [hafter, splitFraction])
    · rename_i hafter
      cases hparts
      exact .inr ⟨splitFraction.eq_2 _ hafter, rfl⟩
  have htail : (splitFraction (cs.dropWhile isDigit)).1.tail = fraction ∧
      (splitFraction (cs.dropWhile isDigit)).2 = rest := by
    rcases heq with heq | ⟨heq, rfl⟩ <;> rw [heq] <;> exact ⟨rfl, rfl⟩
  rw [htail.1, htail.2]
  split
  · rename_i hnone
    simp [hnone]
  · rename_i hsome
    simp [hsome]

/-- Whatever is split off from a text that starts like a number is one, unless no digit follows
the point that it starts with. -/
theorem isUnsigned_splitNumeral (hc : (isDigit c || c == '.') = true)
    (hpoint : startsWithBarePoint (c :: cs) = false) :
    IsUnsigned (splitNumeral (c :: cs)).1 := by
  obtain ⟨-, hfraction⟩ := Lexeme.splitFraction_spec ((c :: cs).dropWhile isDigit)
  have hdigit : ∃ d ∈ (c :: cs).takeWhile isDigit
      ++ (splitFraction ((c :: cs).dropWhile isDigit)).1, isDigit d = true := by
    cases hd : isDigit c with
    | true => exact ⟨c, by simp [List.takeWhile_cons_of_pos hd], hd⟩
    | false =>
        obtain rfl : c = '.' := by simpa [hd] using hc
        cases cs with
        | nil => cases hpoint
        | cons d ds =>
            have hdigit : isDigit d = true := by simpa [startsWithBarePoint] using hpoint
            have hmem : d ∈ (splitFraction ('.' :: d :: ds)).1 := by
              simp [splitFraction, List.takeWhile_cons_of_pos hdigit]
            rw [List.dropWhile_cons_of_neg (by simp [hd])]
            exact ⟨d, List.mem_append_right _ hmem, hdigit⟩
  exact ⟨_, _, isMantissa_iff.2 ⟨_, _, rfl, fun d => List.mem_takeWhile_imp, hfraction, hdigit⟩,
    isPower_splitExponent _, rfl⟩

namespace IsUnsigned

/-- A number without a sign starts with a digit or with a point, which a digit follows. -/
theorem exists_cons (h : IsUnsigned cs) :
    ∃ c tail, cs = c :: tail ∧ (isDigit c || c == '.') = true ∧
      startsWithBarePoint (c :: tail) = false := by
  obtain ⟨mantissa, power, hmantissa, -, rfl⟩ := h
  have hstart : ∀ d ds, isDigit d = true → startsWithBarePoint (d :: ds) = false := by
    intro d ds hd
    exact Lexeme.startsWithBarePoint_of_ne (Text.ne_of_class hd (by decide)) ds
  cases hmantissa with
  | whole hds =>
      obtain ⟨d, ds, rfl, hd⟩ := hds.exists_cons
      exact ⟨d, _, rfl, by simp [hd], hstart d _ hd⟩
  | pointed hds =>
      obtain ⟨d, ds, rfl, hd⟩ := hds.exists_cons
      exact ⟨d, _, rfl, by simp [hd], hstart d _ hd⟩
  | fraction hes =>
      obtain ⟨e, es, rfl, he⟩ := hes.exists_cons
      exact ⟨'.', _, rfl, by decide, by simp [startsWithBarePoint, he]⟩

/-- A number without a sign is split off as a whole. -/
theorem splitNumeral_eq (h : IsUnsigned cs) : splitNumeral cs = (cs, []) := by
  obtain ⟨-, hpower⟩ := isUnsigned_iff.1 h
  obtain ⟨hcs, -⟩ := Lexeme.splitFraction_spec (cs.dropWhile isDigit)
  simp only [splitNumeral]
  rw [hpower.splitExponent_eq]
  dsimp only
  rw [List.append_assoc, ← hcs, List.takeWhile_append_dropWhile]

theorem any_isDigit (h : IsUnsigned cs) : cs.any isDigit = true := by
  obtain ⟨mantissa, power, hmantissa, -, rfl⟩ := h
  obtain ⟨whole, fraction, rfl, -, -, d, hd, hdigit⟩ := isMantissa_iff.1 hmantissa
  exact List.any_eq_true.2 ⟨d, List.mem_append_left _ hd, hdigit⟩

theorem all_isNumeralChar (h : IsUnsigned cs) : cs.all isNumeralChar = true := by
  have hdigits : ∀ ds : List Char, (∀ d ∈ ds, isDigit d = true) → ds.all isNumeralChar = true := by
    intro ds hds
    exact List.all_eq_true.2 fun d hd => Numeral.isNumeralChar_of_isDigit (hds d hd)
  obtain ⟨mantissa, power, hmantissa, hpower, rfl⟩ := h
  obtain ⟨whole, fraction, rfl, hwhole, hfraction, -⟩ := isMantissa_iff.1 hmantissa
  simp only [List.all_append, Bool.and_eq_true]
  refine ⟨⟨hdigits whole hwhole, ?_⟩, ?_⟩
  · rcases hfraction with rfl | ⟨ds, rfl, hds⟩
    · rfl
    · exact hdigits ds hds
  · cases hpower with
    | none => rfl
    | some he hsign hds =>
        have hrest := hdigits _ hds.2
        rcases he with rfl | rfl <;> rcases hsign with rfl | rfl | rfl <;> exact hrest

end IsUnsigned

/-! ## The reader of decimal numbers -/

/-- A text without a sign. -/
def Signless (cs : List Char) : Prop :=
  ∀ c ∈ cs.head?, c ≠ '+' ∧ c ≠ '-'

theorem IsUnsigned.signless (h : IsUnsigned cs) : Signless cs := by
  obtain ⟨c, tail, rfl, hc, -⟩ := h.exists_cons
  intro d hd
  cases hd
  constructor
  · rintro rfl
    revert hc
    decide
  · rintro rfl
    revert hc
    decide

theorem read?_of_signless (h : Signless cs) :
    read? cs = (readUnsigned? cs).map Decimal.toFloat := by
  rw [read?.eq_def]
  split
  · exact absurd rfl (h '-' rfl).2
  · exact absurd rfl (h '+' rfl).1
  · rfl

/-- The reader of decimal numbers accepts them, and nothing else. -/
theorem isSome_read?_iff : (read? cs).isSome = true ↔ IsDecimal cs := by
  constructor
  · intro h
    rw [read?.eq_def] at h
    split at h
    · rename_i unsigned
      rw [Option.isSome_map, isSome_readUnsigned?_iff] at h
      exact ⟨['-'], unsigned, by simp [IsSign], h, rfl⟩
    · rename_i unsigned
      rw [Option.isSome_map, isSome_readUnsigned?_iff] at h
      exact ⟨['+'], unsigned, by simp [IsSign], h, rfl⟩
    · rw [Option.isSome_map, isSome_readUnsigned?_iff] at h
      exact ⟨[], cs, by simp [IsSign], h, rfl⟩
  · rintro ⟨sign, unsigned, rfl | rfl | rfl, hunsigned, rfl⟩
    · rw [read?_of_signless hunsigned.signless, Option.isSome_map]
      exact isSome_readUnsigned?_iff.2 hunsigned
    · show ((readUnsigned? unsigned).map _).isSome = true
      rw [Option.isSome_map]
      exact isSome_readUnsigned?_iff.2 hunsigned
    · show ((readUnsigned? unsigned).map _).isSome = true
      rw [Option.isSome_map]
      exact isSome_readUnsigned?_iff.2 hunsigned

/-- Where there is no sign, only numbers without a sign are read. -/
theorem isSome_read?_iff_of_signless (h : Signless cs) :
    (read? cs).isSome = true ↔ IsUnsigned cs := by
  rw [read?_of_signless h, Option.isSome_map, isSome_readUnsigned?_iff]

/-- The numeric view of a text without blanks at its ends and without a sign. -/
theorem ofText?_eq_some_iff {x : Float} (hstart : Text.StartsVisibly cs)
    (hend : Text.EndsVisibly cs) (hsign : Signless cs) :
    ofText? cs = some x ↔ IsUnsigned cs ∧ read? cs = some x := by
  rw [ofText?, Text.trim_eq_self hstart hend]
  constructor
  · intro h
    split at h
    · have hsome : (read? cs).isSome = true := by rw [h, Option.isSome_some]
      exact ⟨(isSome_read?_iff_of_signless hsign).1 hsome, h⟩
    · cases h
  · rintro ⟨hunsigned, hread⟩
    rw [hunsigned.any_isDigit, hunsigned.all_isNumeralChar, if_pos (by rfl), hread]

end Reckon.Number

/-! ## The scanner -/

namespace Reckon.Lexeme

open Number (IsUnsigned IsDecimal Signless)
open Text (isBlank isDigit StartsVisibly EndsVisibly)

variable {operandDue : Bool} {cs rest : List Char} {c : Char} {x : Float}

/-- What is split off as a numeral can be read. -/
theorem isSome_read?_splitNumeral (hc : (isDigit c || c == '.') = true)
    (hpoint : startsWithBarePoint (c :: cs) = false) :
    (Number.read? (splitNumeral (c :: cs)).1).isSome = true := by
  have hunsigned := Number.isUnsigned_splitNumeral hc hpoint
  exact (Number.isSome_read?_iff_of_signless hunsigned.signless).2 hunsigned

/-- The scanner reads a whole text as a number exactly if it is a number without a sign. -/
theorem scanNumber_eq_ok_nil_iff (hc : (isDigit c || c == '.') = true) :
    scanNumber (c :: cs) = .ok (x, []) ↔
      IsUnsigned (c :: cs) ∧ Number.read? (c :: cs) = some x := by
  constructor
  · intro h
    rw [scanNumber] at h
    split at h
    · cases h
    rename_i hpoint
    dsimp only at h
    split at h
    · rename_i y hread
      obtain ⟨rfl, hrest⟩ := Prod.mk.inj (Except.ok.inj h)
      have hunsigned := Number.isUnsigned_splitNumeral hc (Bool.eq_false_iff.2 hpoint)
      have hwhole : (splitNumeral (c :: cs)).1 = c :: cs := by
        have hparts := (splitNumeral_alone (c :: cs)).1
        rw [hrest, List.append_nil] at hparts
        exact hparts.symm
      rw [hwhole] at hunsigned hread
      exact ⟨hunsigned, hread⟩
    · cases h
  · rintro ⟨hunsigned, hread⟩
    obtain ⟨_, _, heq, -, hpoint⟩ := hunsigned.exists_cons
    cases heq
    rw [scanNumber, hpoint, if_neg Bool.false_ne_true, hunsigned.splitNumeral_eq]
    dsimp only
    rw [hread]

theorem scanOne_of_number (hc : (isDigit c || c == '.') = true) :
    scanOne operandDue c cs = readAs number (scanNumber (c :: cs)) := by
  have hne : ∀ d, (isDigit d || d == '.') = false → (c == d) = false := fun d hd =>
    beq_eq_false_iff_ne.2 (Text.ne_of_class (p := fun c => isDigit c || c == '.') hc hd)
  rw [scanOne, isOpening, isQuote, hne '[' (by decide), hne '{' (by decide), hne '/' (by decide),
    hne '"' (by decide), hne '\'' (by decide), hne '(' (by decide), hne ')' (by decide),
    hne ',' (by decide), hc]
  rfl

/-- The text of one number, without blanks at its ends, is a number without a sign. -/
theorem scanFrom_eq_number_iff (hstart : StartsVisibly cs) (hend : EndsVisibly cs) :
    scanFrom operandDue cs = .ok [number x] ↔ IsUnsigned cs ∧ Number.read? cs = some x := by
  constructor
  · intro h
    obtain ⟨c, tail, after, hcs, hone, hafter⟩ := scanFrom_eq_cons_iff.1 h
    rw [Text.dropWhile_eq_self_of_stop hstart] at hcs
    subst hcs
    obtain ⟨hc, hnumber⟩ := scanOne_readFrom hone
    -- what comes after the number are blanks, and the text ends in none
    have hnil : after = [] := by
      obtain ⟨body, rfl, -⟩ := scanOne_alone hone
      have hblank := List.dropWhile_eq_nil_iff.1 (scanFrom_eq_nil_iff.1 hafter)
      rcases List.eq_nil_or_concat after with hnil | ⟨blanks, b, rfl⟩
      · exact hnil
      · have hlast := hend b (by simp [List.getLast?_cons, List.getLast?_append])
        rw [hblank b (by simp)] at hlast
        cases hlast
    rw [hnil] at hnumber
    exact (scanNumber_eq_ok_nil_iff hc).1 hnumber
  · rintro ⟨hunsigned, hread⟩
    obtain ⟨c, tail, rfl, hc, -⟩ := hunsigned.exists_cons
    have hone : scanOne operandDue c tail = .ok (number x, []) := by
      rw [scanOne_of_number hc, (scanNumber_eq_ok_nil_iff hc).2 ⟨hunsigned, hread⟩]
      rfl
    refine scanFrom_eq_cons_iff.2 ⟨c, tail, [], Text.dropWhile_eq_self_of_stop hstart, hone, ?_⟩
    exact scanFrom_nil _

/-! ## No numeral is invalid -/

/-- The numeral that the scanner splits off can be read. -/
theorem scanNumber_ne_invalidNumber (hc : (isDigit c || c == '.') = true) (numeral : String) :
    scanNumber (c :: cs) ≠ .error (.grammar (.invalidNumber numeral)) := by
  intro h
  rw [scanNumber] at h
  split at h
  · cases h
  · rename_i hpoint
    dsimp only at h
    split at h
    · cases h
    · rename_i hread
      have hsome := isSome_read?_splitNumeral hc (Bool.eq_false_iff.2 hpoint)
      rw [hread] at hsome
      cases hsome

theorem readAs_eq_error_iff {α : Type} {build : α → Lexeme} {r : Except Fault (α × List Char)}
    {e : Fault} : readAs build r = .error e ↔ r = .error e := by
  cases r with
  | error e' => simp [readAs]
  | ok p => simp [readAs]

/-- Only the reader of numbers complains about numerals. -/
theorem scanNumber_of_scanOne_error {numeral : String}
    (h : scanOne operandDue c cs = .error (.grammar (.invalidNumber numeral))) :
    (isDigit c || c == '.') = true ∧
      scanNumber (c :: cs) = .error (.grammar (.invalidNumber numeral)) := by
  obtain ⟨reader, hstart, hread⟩ := exists_reader operandDue c
  rw [hread] at h
  cases reader with
  | bracket =>
      dsimp only [Reader.read] at h
      rw [scanBracket] at h
      split at h
      · cases h
      · split at h <;> cases h
  | pattern =>
      have hpattern := readAs_eq_error_iff.1 h
      rw [scanPattern] at hpattern
      split at hpattern <;> cases hpattern
  | text =>
      have htext := readAs_eq_error_iff.1 h
      rw [scanText] at htext
      split at htext
      · cases htext
      · split at htext <;> cases htext
  | openParen | closeParen | comma | word => cases h
  | number => exact ⟨hstart, readAs_eq_error_iff.1 h⟩
  | capture =>
      simp only [Reader.read, scanCapture] at h
      split at h <;> cases h
  | operator =>
      dsimp only [Reader.read] at h
      unfold scanOperator at h
      split at h <;> cases h

theorem scanFrom_ne_invalidNumber (operandDue : Bool) (cs : List Char) (numeral : String) :
    scanFrom operandDue cs ≠ .error (.grammar (.invalidNumber numeral)) := by
  fun_induction scanFrom operandDue cs with
  | case1 =>
      intro h
      cases h
  | case2 operandDue cs c tail hcs e hone =>
      intro h
      cases h
      obtain ⟨hc, hnumber⟩ := scanNumber_of_scanOne_error hone
      exact scanNumber_ne_invalidNumber hc numeral hnumber
  | case3 operandDue cs c tail hcs t after hone ih =>
      intro h
      cases hafter : scanFrom (!t.endsOperand) after with
      | error e =>
          rw [hafter] at h ih
          cases h
          exact ih rfl
      | ok ts =>
          rw [hafter] at h
          cases h

/-- The two recognisers of decimal numbers agree. A text without blanks at its ends and without a
sign is one number for the scanner exactly if it has a numeric view, and the number is that view;
the scanner never finds that a numeral cannot be read. The reader that both of them use accepts
decimal numbers, and nothing else. -/
theorem scan_eq_number_iff :
    (∀ (source : String) (x : Float), StartsVisibly source.toList → EndsVisibly source.toList →
      (∀ c ∈ source.toList.head?, c ≠ '+' ∧ c ≠ '-') →
      (scan source = .ok [number x] ↔ (Value.text source).number? = some x)) ∧
    (∀ (source numeral : String), scan source ≠ .error (.grammar (.invalidNumber numeral))) ∧
    ∀ cs : List Char, (Number.read? cs).isSome = true ↔ IsDecimal cs := by
  refine ⟨?_, ?_, ?_⟩
  · intro source x hstart hend hsign
    rw [scan, scanFrom_eq_number_iff hstart hend, Value.number?,
      Number.ofText?_eq_some_iff hstart hend hsign]
  · intro source numeral
    exact scanFrom_ne_invalidNumber true source.toList numeral
  · intro cs
    exact Number.isSome_read?_iff

/-- The text `.5e-3` has a numeric view, and the scanner reads it as that number. -/
theorem scan_eq_number_iff_fraction :
    ∃ x, (Value.text ".5e-3").number? = some x ∧ scan ".5e-3" = .ok [number x] := by
  have hsome : (Value.text ".5e-3").number?.isSome = true := by decide
  obtain ⟨x, hx⟩ := Option.isSome_iff_exists.1 hsome
  have hstart : StartsVisibly ".5e-3".toList := by simp [StartsVisibly, isBlank]
  have hend : EndsVisibly ".5e-3".toList := by simp [EndsVisibly, isBlank]
  exact ⟨x, hx, (scan_eq_number_iff.1 ".5e-3" x hstart hend (by simp)).2 hx⟩

end Reckon.Lexeme
