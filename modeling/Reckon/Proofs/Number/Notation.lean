/-
# Reckon.Proofs.Number.Notation — numbers in JSON read back

A number of JSON has digits before the point, digits after it and a power of ten (`Numeral`). The
reader takes it apart into these, and the decimal that they spell is the one whose digits have been
laid out, up to zeros at the ends. So a finite double is read from the text that it is written as,
whatever follows this text, as long as it does not go on like a number.
-/
import Reckon.Json.Reader
import Reckon.Number.Notation
import Reckon.Proofs.Number.Reading
import Reckon.Proofs.Text.Stretch

namespace Reckon.Number

open Text (isDigit takeWhile_append_of_stop dropWhile_append_of_stop)

/-! ## Digits -/

theorem digitsValue_eq (ds : List Char) : digitsValue ds = Nat.ofDigitChars 10 ds 0 :=
  Nat.ofDigitChars_eq_foldl.symm

theorem digitsValue_append (ds es : List Char) :
    digitsValue (ds ++ es) = 10 ^ es.length * digitsValue ds + digitsValue es := by
  rw [digitsValue_eq, digitsValue_eq, digitsValue_eq, Nat.ofDigitChars_append,
    Nat.ofDigitChars_eq_ofDigitChars_zero]

theorem digitsValue_zeros (n : ℕ) : digitsValue (List.replicate n '0') = 0 := by
  rw [digitsValue_eq, Nat.ofDigitChars_replicate_zero, mul_zero]

theorem digitsValue_digitsOf (n : ℕ) : digitsValue (digitsOf n) = n := by
  rw [digitsValue_eq, digitsOf, Nat.ofDigitChars_ten_toDigits]

theorem isDigit_iff {c : Char} : isDigit c = true ↔ c.isDigit = true := by
  rw [isDigit, Char.isDigit]
  rfl

theorem isDigit_of_mem_digitsOf {n : ℕ} {c : Char} (h : c ∈ digitsOf n) : isDigit c = true :=
  isDigit_iff.2 (Nat.isDigit_of_mem_toDigits (by decide) (by decide) h)

theorem isDigit_of_mem_zeros {n : ℕ} {c : Char} (h : c ∈ List.replicate n '0') :
    isDigit c = true := by
  rw [List.eq_of_mem_replicate h]
  rfl

/-- The digits of a positive number start with a digit other than zero. -/
theorem exists_digitsOf_eq_cons {n : ℕ} (hn : 0 < n) :
    ∃ c cs, digitsOf n = c :: cs ∧ c ≠ '0' := by
  induction n using Nat.strongRecOn with
  | ind n ih =>
      by_cases hlt : n < 10
      · have hdigit : ∀ k < 10, 0 < k → k.digitChar ≠ '0' := by decide
        exact ⟨n.digitChar, [], Nat.toDigits_of_lt_base hlt, hdigit n hlt hn⟩
      · obtain ⟨c, cs, hcs, hc⟩ := ih (n / 10) (by omega) (by omega)
        refine ⟨c, cs ++ [(n % 10).digitChar], ?_, hc⟩
        rw [digitsOf, Nat.toDigits_of_base_le (by decide) (not_lt.1 hlt)]
        show digitsOf (n / 10) ++ _ = _
        rw [hcs]
        rfl

/-- What is dropped from the end is zeros. -/
theorem exists_eq_dropTrailingZeros_append (ds : List Char) :
    ∃ n, ds = dropTrailingZeros ds ++ List.replicate n '0' := by
  induction ds with
  | nil => exact ⟨0, rfl⟩
  | cons c cs ih =>
      obtain ⟨n, hn⟩ := ih
      rw [dropTrailingZeros]
      split
      · rename_i hnil
        rw [hnil, List.nil_append] at hn
        split
        · rename_i hc
          exact ⟨n + 1, by rw [hc, List.replicate_succ, List.nil_append, ← hn]⟩
        · exact ⟨n, by rw [List.singleton_append, ← hn]⟩
      · exact ⟨n, by rw [List.cons_append, ← hn]⟩

/-! ## Layouts -/

/-- A layout spells a positive rational: by digits of which the first is no zero. -/
structure Layout.Spells (l : Layout) (x : ℚ) : Prop where
  digits : ∀ c ∈ l.digits, isDigit c = true
  leading : ∃ c cs, l.digits = c :: cs ∧ c ≠ '0'
  value : (digitsValue l.digits : ℚ) * 10 ^ (l.point - l.digits.length) = x

/-- The layout of a decimal spells its value. -/
theorem Decimal.spells_layout {d : Decimal} (hd : 0 < d.coefficient) : d.layout.Spells d.value := by
  obtain ⟨n, hn⟩ := exists_eq_dropTrailingZeros_append (digitsOf d.coefficient)
  refine ⟨?_, ?_, ?_⟩
  · intro c hc
    apply isDigit_of_mem_digitsOf
    rw [hn]
    exact List.mem_append_left _ hc
  · obtain ⟨c, cs, hcs, hc⟩ := exists_digitsOf_eq_cons hd
    show ∃ c cs, dropTrailingZeros (digitsOf d.coefficient) = c :: cs ∧ c ≠ '0'
    rcases List.cons_eq_append_iff.1 (hcs.symm.trans hn) with ⟨-, hzeros⟩ | ⟨cs', hdigits, -⟩
    · exact absurd (List.eq_of_mem_replicate (hzeros ▸ List.mem_cons_self)) hc
    · exact ⟨c, cs', hdigits, hc⟩
  · have hcoefficient := digitsValue_digitsOf d.coefficient
    have hlength := congrArg List.length hn
    rw [hn, digitsValue_append, digitsValue_zeros, List.length_replicate, add_zero] at hcoefficient
    rw [List.length_append, List.length_replicate] at hlength
    have hpoint : d.layout.point - d.layout.digits.length = n + d.exponent := by
      show d.exponent + (digitsOf d.coefficient).length
        - (dropTrailingZeros (digitsOf d.coefficient)).length = n + d.exponent
      omega
    have hten : (10 : ℚ) ≠ 0 := by norm_num
    rw [hpoint, zpow_add₀ hten, zpow_natCast, value, ← hcoefficient, Nat.cast_mul, Nat.cast_pow,
      ← mul_assoc, mul_comm (digitsValue _ : ℚ)]
    rfl

/-! ## Numerals -/

/-- The parts of a number in JSON: digits before the point, digits after it, if there are any, and a
power of ten, if there is one. No zero starts the number but one directly before the point. -/
structure Numeral where
  whole : List Char
  fraction : List Char
  power : Option ℤ
  digits : ∀ c ∈ whole ++ fraction, isDigit c = true
  strict : whole = ['0'] ∨ ∃ c cs, whole = c :: cs ∧ c ≠ '0'

namespace Numeral

variable {n : Numeral} {rest : List Char}

/-- The point and the digits after it. -/
def pointed : List Char → List Char
  | [] => []
  | fraction => '.' :: fraction

/-- The text of a power of ten. -/
def powered : Option ℤ → List Char
  | none => []
  | some k => jsonExponent k

/-- The text of a number. -/
def text (n : Numeral) : List Char :=
  n.whole ++ (pointed n.fraction ++ powered n.power)

/-- The decimal that a number spells. -/
def decimal (n : Numeral) : Decimal :=
  ⟨digitsValue (n.whole ++ n.fraction), n.power.getD 0 - n.fraction.length⟩

/-- What follows a number does not go on like one. -/
def Ends (rest : List Char) : Prop :=
  ∀ c ∈ rest.head?, isNumeralChar c = false

theorem isNumeralChar_of_isDigit {c : Char} (h : isDigit c = true) : isNumeralChar c = true := by
  rw [isNumeralChar, h]
  rfl

theorem isDigit_of_isNumeralChar {c : Char} (h : isNumeralChar c = false) : isDigit c = false := by
  by_contra hdigit
  rw [isNumeralChar_of_isDigit (Bool.eq_true_of_not_eq_false hdigit)] at h
  cases h

theorem takeWhile_isDigit {ds : List Char} (hds : ∀ c ∈ ds, isDigit c = true)
    (hrest : ∀ c ∈ rest.head?, isDigit c = false) : (ds ++ rest).takeWhile isDigit = ds := by
  rw [takeWhile_append_of_stop hrest, List.takeWhile_eq_self_iff]
  exact hds

theorem dropWhile_isDigit {ds : List Char} (hds : ∀ c ∈ ds, isDigit c = true)
    (hrest : ∀ c ∈ rest.head?, isDigit c = false) : (ds ++ rest).dropWhile isDigit = rest := by
  rw [dropWhile_append_of_stop hrest, List.dropWhile_eq_nil_iff.2 hds, List.nil_append]

theorem readWhole?_append (n : Numeral) (hrest : ∀ c ∈ rest.head?, isDigit c = false) :
    Json.readWhole? (n.whole ++ rest) = some (n.whole, rest) := by
  have hall : ∀ c ∈ n.whole, isDigit c = true := fun c hc => n.digits c (List.mem_append_left _ hc)
  have htake := takeWhile_isDigit hall hrest
  have hdrop := dropWhile_isDigit hall hrest
  rcases n.strict with hzero | ⟨c, cs, hcs, hc⟩
  · rw [hzero]
    rfl
  · rw [hcs] at htake hdrop ⊢
    unfold Json.readWhole?
    split
    · rename_i heq
      exact absurd (List.cons.inj heq).1 hc
    · rw [htake, hdrop]
      rfl

theorem readFraction?_append (n : Numeral) (hrest : ∀ c ∈ rest.head?, isDigit c = false ∧ c ≠ '.') :
    Json.readFraction? (pointed n.fraction ++ rest) = some (n.fraction, rest) := by
  have hall : ∀ c ∈ n.fraction, isDigit c = true :=
    fun c hc => n.digits c (List.mem_append_right _ hc)
  have hstop : ∀ c ∈ rest.head?, isDigit c = false := fun c hc => (hrest c hc).1
  have htake := takeWhile_isDigit hall hstop
  have hdrop := dropWhile_isDigit hall hstop
  cases hfraction : n.fraction with
  | nil =>
      unfold Json.readFraction?
      split
      · rename_i heq
        rw [pointed, List.nil_append] at heq
        rw [heq] at hrest
        exact absurd rfl (hrest '.' rfl).2
      · rfl
  | cons c cs =>
      rw [hfraction] at htake hdrop
      show (if ((c :: cs ++ rest).takeWhile isDigit).isEmpty then none
        else some ((c :: cs ++ rest).takeWhile isDigit, (c :: cs ++ rest).dropWhile isDigit)) = _
      rw [htake, hdrop]
      rfl

theorem readPower?_of_ends (hrest : Ends rest) : Json.readPower? rest = some (0, rest) := by
  unfold Json.readPower?
  split
  · rfl
  · rename_i c cs
    have hc := hrest c rfl
    have hnot : (c == 'e' || c == 'E') = false := by
      simp only [isNumeralChar, Bool.or_eq_false_iff] at hc
      rw [hc.1.1.1.2, hc.1.1.2]
      rfl
    rw [hnot]
    rfl

theorem readPower?_jsonExponent (k : ℤ) (hrest : Ends rest) :
    Json.readPower? (jsonExponent k ++ rest) = some (k, rest) := by
  have hstop : ∀ c ∈ rest.head?, isDigit c = false :=
    fun c hc => isDigit_of_isNumeralChar (hrest c hc)
  have htake : ∀ j, (digitsOf j ++ rest).takeWhile isDigit = digitsOf j := fun j =>
    takeWhile_isDigit (fun c hc => isDigit_of_mem_digitsOf hc) hstop
  have hdrop : ∀ j, (digitsOf j ++ rest).dropWhile isDigit = rest := fun j =>
    dropWhile_isDigit (fun c hc => isDigit_of_mem_digitsOf hc) hstop
  have hne : ∀ j, (digitsOf j).isEmpty = false := fun j =>
    List.isEmpty_eq_false_iff.2 Nat.toDigits_ne_nil
  rcases k with k | k
  · simp [jsonExponent, Json.readPower?, htake, hdrop, hne, digitsValue_digitsOf]
  · simp [jsonExponent, Json.readPower?, htake, hdrop, hne, digitsValue_digitsOf]
    omega

theorem readPower?_append (power : Option ℤ) (hrest : Ends rest) :
    Json.readPower? (powered power ++ rest) = some (power.getD 0, rest) := by
  cases power with
  | none => exact readPower?_of_ends hrest
  | some k => exact readPower?_jsonExponent k hrest

/-- The reader takes a number apart into its parts. -/
theorem readMagnitude?_append (n : Numeral) (hrest : Ends rest) :
    Json.readMagnitude? (n.text ++ rest)
      = if n.decimal.toFloat.isInf then none else some (n.decimal.toFloat, rest) := by
  have hpower : ∀ c ∈ (powered n.power ++ rest).head?, isDigit c = false ∧ c ≠ '.' := by
    cases hpower : n.power with
    | none =>
        intro c hc
        have hnot := hrest c hc
        exact ⟨isDigit_of_isNumeralChar hnot, (Text.ne_of_class rfl hnot).symm⟩
    | some k =>
        rintro c hc
        obtain rfl : c = 'e' := by
          rcases k with k | k <;> exact (Option.some.inj hc).symm
        decide
  have hfraction : ∀ c ∈ (pointed n.fraction ++ (powered n.power ++ rest)).head?,
      isDigit c = false := by
    cases n.fraction with
    | nil => exact fun c hc => (hpower c hc).1
    | cons d ds =>
        rintro c ⟨⟩
        rfl
  have hread : Json.readMagnitude? (n.text ++ rest)
      = Json.readMagnitude? (n.whole ++ (pointed n.fraction ++ (powered n.power ++ rest))) := by
    rw [text, List.append_assoc, List.append_assoc]
  rw [hread, Json.readMagnitude?, readWhole?_append n hfraction]
  simp only [Option.bind_eq_bind, Option.bind_some, readFraction?_append n hpower,
    readPower?_append _ hrest]
  rfl

theorem pointed_of_ne_nil {ds : List Char} (h : ds ≠ []) : pointed ds = '.' :: ds := by
  cases ds with
  | nil => exact absurd rfl h
  | cons d ds => rfl

theorem isNumeralChar_of_mem_text {n : Numeral} {c : Char} (h : c ∈ n.text) :
    isNumeralChar c = true := by
  have hdigit : ∀ d ∈ n.whole ++ n.fraction, isNumeralChar d = true := fun d hd =>
    isNumeralChar_of_isDigit (n.digits d hd)
  rcases List.mem_append.1 h with h | h
  · exact hdigit c (List.mem_append_left _ h)
  rcases List.mem_append.1 h with h | h
  · cases hfraction : n.fraction with
    | nil =>
        rw [hfraction] at h
        cases h
    | cons d ds =>
        rw [hfraction] at h hdigit
        rcases List.mem_cons.1 h with rfl | h
        · rfl
        · exact hdigit c (List.mem_append_right _ h)
  · cases hpower : n.power with
    | none =>
        rw [hpower] at h
        cases h
    | some k =>
        have hdigits : ∀ j, c ∈ digitsOf j → isNumeralChar c = true := fun j hc =>
          isNumeralChar_of_isDigit (isDigit_of_mem_digitsOf hc)
        rw [hpower] at h
        rcases k with k | k
        · simp only [powered, jsonExponent, List.mem_cons] at h
          rcases h with rfl | rfl | h
          · rfl
          · rfl
          · exact hdigits k h
        · simp only [powered, jsonExponent, List.mem_cons] at h
          rcases h with rfl | rfl | h
          · rfl
          · rfl
          · exact hdigits (k + 1) h

end Numeral

namespace Layout.Spells

variable {l : Layout} {x : ℚ}

/-- A number with the digits of a layout, and zeros after them that its exponent makes up for,
spells the same rational. -/
theorem value_eq (h : l.Spells x) {n : Numeral} (k : ℕ)
    (hdigits : digitsValue (n.whole ++ n.fraction) = 10 ^ k * digitsValue l.digits)
    (hexponent : n.power.getD 0 - n.fraction.length + k = l.point - l.digits.length) :
    n.decimal.value = x := by
  have hten : (10 : ℚ) ≠ 0 := by norm_num
  rw [Numeral.decimal, Decimal.value, ← h.value, ← hexponent, hdigits, zpow_add₀ hten,
    zpow_natCast]
  push_cast
  ring

theorem ne_nil (h : l.Spells x) : l.digits ≠ [] := by
  obtain ⟨c, cs, hcs, -⟩ := h.leading
  rw [hcs]
  exact List.cons_ne_nil c cs

/-- Less than one: with zeros after the point. -/
theorem exists_numeral_of_nonpos (h : l.Spells x) (hpoint : l.point ≤ 0) :
    ∃ n : Numeral, n.text = l.positional ∧ n.decimal.value = x := by
  have hdigits : ∀ c ∈ ['0'] ++ (zeros (-l.point) ++ l.digits), isDigit c = true := by
    intro c hc
    simp only [List.mem_append, List.mem_singleton] at hc
    rcases hc with rfl | hc | hc
    · rfl
    · exact isDigit_of_mem_zeros hc
    · exact h.digits c hc
  have hne : zeros (-l.point) ++ l.digits ≠ [] := List.append_ne_nil_of_right_ne_nil _ h.ne_nil
  refine ⟨⟨['0'], zeros (-l.point) ++ l.digits, none, hdigits, .inl rfl⟩, ?_, h.value_eq 0 ?_ ?_⟩
  · rw [Numeral.text, Numeral.pointed_of_ne_nil hne, positional, if_pos hpoint]
    exact congrArg ('0' :: '.' :: ·) (List.append_nil _)
  · show digitsValue (['0'] ++ (zeros (-l.point) ++ l.digits)) = _
    rw [digitsValue_append, digitsValue_append, zeros, digitsValue_zeros]
    simp [digitsValue]
  · simp only [zeros, Option.getD_none, List.length_append, List.length_replicate]
    omega

/-- An integer: with zeros up to the point, and one after it. -/
theorem exists_numeral_of_length_le (h : l.Spells x) (hlength : (l.digits.length : ℤ) ≤ l.point) :
    ∃ n : Numeral, n.text = l.positional ++ ['.', '0'] ∧ n.decimal.value = x := by
  have hdigits : ∀ c ∈ l.digits ++ zeros (l.point - l.digits.length) ++ ['0'],
      isDigit c = true := by
    intro c hc
    simp only [List.mem_append, List.mem_singleton] at hc
    rcases hc with (hc | hc) | rfl
    · exact h.digits c hc
    · exact isDigit_of_mem_zeros hc
    · rfl
  have hpoint : ¬ l.point ≤ 0 := by
    have hpos := List.length_pos_iff.2 h.ne_nil
    omega
  obtain ⟨c, cs, hcs, hc⟩ := h.leading
  refine ⟨⟨l.digits ++ zeros (l.point - l.digits.length), ['0'], none, hdigits,
    .inr ⟨c, cs ++ zeros (l.point - l.digits.length), by rw [hcs]; rfl, hc⟩⟩, ?_,
    h.value_eq ((l.point - l.digits.length).toNat + 1) ?_ ?_⟩
  · rw [positional, if_neg hpoint, if_pos hlength]
    rfl
  · show digitsValue (l.digits ++ zeros (l.point - l.digits.length) ++ ['0']) = _
    rw [digitsValue_append, digitsValue_append, zeros, digitsValue_zeros, List.length_replicate,
      add_zero, ← mul_assoc, ← pow_add, List.length_singleton, Nat.add_comm 1]
    rfl
  · simp only [Option.getD_none, List.length_singleton]
    omega

/-- With the point between digits. -/
theorem exists_numeral_of_lt_length (h : l.Spells x) (hpoint : 0 < l.point)
    (hlength : l.point < l.digits.length) :
    ∃ n : Numeral, n.text = l.positional ∧ n.decimal.value = x := by
  have hdigits : ∀ c ∈ l.digits.take l.point.toNat ++ l.digits.drop l.point.toNat,
      isDigit c = true := by
    rw [List.take_append_drop]
    exact h.digits
  have hne : l.digits.drop l.point.toNat ≠ [] := by
    rw [Ne, List.drop_eq_nil_iff]
    omega
  obtain ⟨c, cs, hcs, hc⟩ := h.leading
  obtain ⟨k, hk⟩ : ∃ k : ℕ, l.point.toNat = k + 1 := ⟨l.point.toNat - 1, by omega⟩
  refine ⟨⟨l.digits.take l.point.toNat, l.digits.drop l.point.toNat, none, hdigits,
    .inr ⟨c, cs.take k, by rw [hcs, hk]; rfl, hc⟩⟩, ?_, h.value_eq 0 ?_ ?_⟩
  · rw [Numeral.text, Numeral.pointed_of_ne_nil hne, positional, if_neg (not_le.2 hpoint),
      if_neg (not_le.2 hlength)]
    exact congrArg (l.digits.take l.point.toNat ++ '.' :: ·) (List.append_nil _)
  · rw [List.take_append_drop, pow_zero, one_mul]
  · simp only [Option.getD_none, List.length_drop]
    omega

/-- With a power of ten. -/
theorem exists_numeral_of_power (h : l.Spells x) :
    ∃ n : Numeral, n.text = l.significand ++ jsonExponent (l.point - 1) ∧ n.decimal.value = x := by
  obtain ⟨c, cs, hcs, hc⟩ := h.leading
  have hdigits : ∀ d ∈ [c] ++ cs, isDigit d = true := by
    intro d hd
    exact h.digits d (hcs ▸ hd)
  refine ⟨⟨[c], cs, some (l.point - 1), hdigits, .inr ⟨c, [], rfl, hc⟩⟩, ?_, h.value_eq 0 ?_ ?_⟩
  · rw [significand, hcs]
    cases cs <;> rfl
  · rw [hcs, pow_zero, one_mul]
    rfl
  · rw [hcs]
    simp only [Option.getD_some, List.length_cons]
    omega

/-- The text of a layout is a number of JSON, and it spells the same rational. -/
theorem exists_numeral (h : l.Spells x) :
    ∃ n : Numeral, n.text = jsonMagnitude l ∧ n.decimal.value = x := by
  rw [jsonMagnitude]
  split
  · split
    · exact h.exists_numeral_of_length_le ‹_›
    · rename_i hlength
      by_cases hpoint : l.point ≤ 0
      · exact h.exists_numeral_of_nonpos hpoint
      · exact h.exists_numeral_of_lt_length (not_le.1 hpoint) (not_le.1 hlength)
  · exact h.exists_numeral_of_power

end Layout.Spells

/-! ## Doubles -/

theorem json_packed_finite {m : ℕ} {e : ℤ} (h : Canonical m e) (he : e ≤ 971)
    (sign : Float.Model.UnpackedFloat.Sign) :
    json (packed (.finite sign m e h.pos)) = signText (isNegative sign)
      ++ jsonMagnitude (shortestOf .toEven (packed (.finite .positive m e h.pos)) m e).layout := by
  have hbinary := ofFloat_packed_finite h he sign
  have habs := abs_packed_finite h he sign
  have hne := h.pos.ne'
  rw [json, hbinary, ← habs]
  -- zero is written apart
  split
  · rename_i heq
    cases heq
  · rename_i heq
    cases heq
  · rename_i heq
    cases heq
    exact absurd rfl hne
  · rename_i heq
    cases heq
    rfl

/-- A finite double is written as a number, with a sign, that is read as the double. -/
theorem exists_numeral_json {x : Float} (hx : x.isFinite = true) :
    ∃ (negative : Bool) (n : Numeral), json x = signText negative ++ n.text ∧
      n.decimal.toFloat.isInf = false ∧
      x = if negative then -n.decimal.toFloat else n.decimal.toFloat := by
  cases packed_of_isFinite hx with
  | zero sign =>
      refine ⟨isNegative sign, ⟨['0'], ['0'], none, List.all_eq_true.1 rfl, .inl rfl⟩, ?_⟩
      rw [json, ofFloat_packed_zero, Decimal.toFloat_of_coefficient_eq_zero rfl]
      cases sign <;> decide
  | finite sign h he =>
      obtain ⟨n, htext, hvalue⟩ :=
        (Decimal.spells_layout (shortestOf_coefficient_pos .toEven h he)).exists_numeral
      have hfloat := (Decimal.toFloat_congr (shortestOf_coefficient_pos .toEven h he)
        hvalue.symm).symm.trans (toFloat_shortestOf .toEven h)
      refine ⟨isNegative sign, n, ?_, ?_, ?_⟩
      · rw [json_packed_finite h he, htext]
      · rw [hfloat, isInf_packed_finite h he]
      · rw [hfloat, neg_packed_finite h he]
        cases sign <;> rfl

/-- A finite double is read from its text, whatever follows this. -/
theorem readNumber?_json {x : Float} (hx : x.isFinite = true) {rest : List Char}
    (hrest : Numeral.Ends rest) : Json.readNumber? (json x ++ rest) = some (x, rest) := by
  obtain ⟨negative, n, htext, hinf, hvalue⟩ := exists_numeral_json hx
  have hread := n.readMagnitude?_append hrest
  rw [hinf, if_neg Bool.false_ne_true] at hread
  rw [htext, List.append_assoc, hvalue]
  cases negative with
  | true =>
      show (Json.readMagnitude? (n.text ++ rest)).map _ = _
      rw [hread]
      rfl
  | false =>
      show Json.readNumber? (n.text ++ rest) = _
      unfold Json.readNumber?
      split
      · rename_i heq
        rw [heq] at hread
        cases hread
      · exact hread

theorem isNumeralChar_of_mem_json {x : Float} (hx : x.isFinite = true) {c : Char}
    (h : c ∈ json x) : isNumeralChar c = true := by
  obtain ⟨negative, n, htext, -, -⟩ := exists_numeral_json hx
  rw [htext] at h
  rcases List.mem_append.1 h with h | h
  · cases negative with
    | true =>
        rw [List.mem_singleton.1 h]
        rfl
    | false => cases h
  · exact Numeral.isNumeralChar_of_mem_text h

end Reckon.Number
