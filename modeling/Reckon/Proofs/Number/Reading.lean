/-
# Reckon.Proofs.Number.Reading — the double that a decimal is read as

A decimal is read as the double nearest to its value, whichever way it is read: a small coefficient
and a small power of ten are multiplied or divided as doubles, which is exact up to the one rounding
at the end, and everything else goes through integers of any size. Powers so great or so small that
they are not computed give what the computation would have given. So decimals of one value are
read as one double (`Decimal.toFloat_congr`), and the exact value of a double is read as
this double.
-/
import Reckon.Number.Shortest
import Reckon.Proofs.Number.Packing

namespace Reckon.Number

open Float.Model.Format (binary64)
open Float.Model.UnpackedFloat

/-- The value of a decimal. -/
def Decimal.value (d : Decimal) : ℚ :=
  d.coefficient * 10 ^ d.exponent

variable {x : ℚ} {m : ℕ} {e : ℤ} {sign : Sign} {f : Float.Model.UnpackedFloat}

/-! ## Values beyond the range -/

theorem mantissa_le_roundedMantissa (em : ExtendedMantissa) :
    em.mantissa ≤ em.roundedMantissa := by
  obtain ⟨m, r, s⟩ := em
  cases r <;> cases s <;>
    simp only [ExtendedMantissa.roundedMantissa, ExtendedMantissa.accuracy,
      Accuracy.roundToNearestEven] <;> omega

theorem packed_finite_eq_infinity {pos : 0 < m} (he : 972 ≤ e) :
    packed (.finite sign m e pos) = packed (.infinity sign) := by
  apply eq_packed
  show Float.Model.UnpackedFloat.pack binary64 (.finite sign m e pos)
    = packedInfinity binary64 sign
  rw [Float.Model.UnpackedFloat.pack]
  dsimp only
  rw [biased_eq, if_pos (by omega)]

/-- What is too great for a double is rounded to an infinity. -/
theorem IsNearest.packed_eq_infinity (h : IsNearest sign x f) (hx : 2 ^ (1024 : ℤ) ≤ x) :
    packed f = packed (.infinity sign) := by
  obtain ⟨em, hem, rfl⟩ := h
  have hpos : 0 < x := (zpow_pos two_pos _).trans_le hx
  have hlog : (1024 : ℤ) ≤ Int.log 2 x :=
    (Int.zpow_le_iff_le_log one_lt_two hpos).1 (by rwa [Nat.cast_ofNat])
  have htarget : target x = Int.log 2 x - 52 := by
    rw [target, targetExponent_eq, topExponent]
    omega
  have hmantissa : 0 < em.mantissa := by
    have hone : 1 ≤ x / 2 ^ target x := by
      rw [one_le_div (zpow_pos two_pos _)]
      calc
        (2 : ℚ) ^ target x ≤ 2 ^ Int.log 2 x := zpow_le_zpow_right₀ one_le_two (by omega)
        _ ≤ x := by exact_mod_cast Int.zpow_log_le_self one_lt_two hpos
    have hlt := hone.trans_lt hem.lt_mantissa
    rw [lt_add_iff_pos_left] at hlt
    exact_mod_cast hlt
  have hrounded := hmantissa.trans_le (mantissa_le_roundedMantissa em)
  rw [settle, dif_neg hrounded.ne']
  split
  · exact packed_finite_eq_infinity (by omega)
  · exact packed_finite_eq_infinity (by omega)

/-- What is smaller than half of the least double is rounded to zero. -/
theorem IsNearest.eq_zero (h : IsNearest sign x f) (hpos : 0 < x) (hx : x < 2 ^ (-1075 : ℤ)) :
    f = .zero sign := by
  obtain ⟨em, hem, rfl⟩ := h
  have hlog : Int.log 2 x < (-1075 : ℤ) :=
    (Int.lt_zpow_iff_log_lt one_lt_two hpos).1 (by rwa [Nat.cast_ofNat])
  have htarget : target x = -1074 := by
    rw [target, targetExponent_eq, topExponent]
    omega
  have hhalf : x / 2 ^ target x < 1 / 2 := by
    rw [htarget, div_lt_iff₀ (zpow_pos two_pos _)]
    refine hx.trans_eq ?_
    have hstep : (-1075 : ℤ) = -1074 - 1 := rfl
    rw [hstep, zpow_sub_one₀ two_ne_zero, mul_comm, one_div]
  have hposition := hem.le.trans_lt hhalf
  have hrounded : em.roundedMantissa = 0 := by
    obtain ⟨m, r, s⟩ := em
    rw [position] at hposition
    cases r with
    | false =>
        have hlt : (m : ℚ) < 1 := by
          simp only [Bool.false_eq_true, if_false, add_zero] at hposition
          linarith
        obtain rfl : m = 0 := by
          norm_cast at hlt
          omega
        cases s <;> rfl
    | true =>
        have hnonneg : (0 : ℚ) ≤ m := Nat.cast_nonneg m
        simp only [if_true] at hposition
        linarith
  rw [settle, dif_pos hrounded]

/-! ## Small integers and small powers of ten -/

/-- Shifting a number below `2 ^ 53` to its full number of places. -/
theorem two_pow_le_shiftLeft (hm : 0 < m) (hlt : m < 2 ^ 53) :
    2 ^ 52 ≤ m <<< (52 - m.log2) ∧ m <<< (52 - m.log2) < 2 ^ 53 := by
  have hlog : m.log2 < 53 := (Nat.log2_lt hm.ne').2 hlt
  have hpow : 2 ^ m.log2 * 2 ^ (52 - m.log2) = 2 ^ 52 := by
    rw [← pow_add]
    congr 1
    omega
  rw [Nat.shiftLeft_eq]
  constructor
  · rw [← hpow]
    exact Nat.mul_le_mul_right _ (Nat.log2_self_le hm.ne')
  · calc
      m * 2 ^ (52 - m.log2) < 2 ^ (m.log2 + 1) * 2 ^ (52 - m.log2) :=
        Nat.mul_lt_mul_of_pos_right Nat.lt_log2_self (by positivity)
      _ = 2 ^ 53 := by rw [pow_succ, mul_right_comm, hpow]; norm_num

theorem canonical_shiftLeft (hm : 0 < m) (hlt : m < 2 ^ 53) (he : -1022 ≤ e) :
    Canonical (m <<< (52 - m.log2)) (e - (52 - m.log2 : ℕ)) := by
  obtain ⟨hlow, hhigh⟩ := two_pow_le_shiftLeft hm hlt
  exact ⟨by omega, hhigh, by omega, .inl hlow⟩

theorem scaled_shiftLeft (m k : ℕ) (e : ℤ) :
    ((m <<< k : ℕ) : ℚ) * 2 ^ (e - k) = m * 2 ^ e := by
  rw [Nat.shiftLeft_eq, zpow_sub₀ two_ne_zero, zpow_natCast]
  push_cast
  field_simp

/-- A double of full mantissa has a certain value. -/
def IsExactly (x : ℚ) (y : Float) : Prop :=
  ∃ m e, ∃ h : Canonical m e, e ≤ 971 ∧ 52 ≤ m.log2 ∧ x = m * 2 ^ e ∧
    y = packed (.finite .positive m e h.pos)

theorem isExactly_shiftLeft (hm : 0 < m) (hlt : m < 2 ^ 53) (he : -1022 ≤ e) (hsmall : e ≤ 971)
    {y : Float} (hy : y = packed (.finite .positive (m <<< (52 - m.log2)) (e - (52 - m.log2 : ℕ))
      (canonical_shiftLeft hm hlt he).pos)) : IsExactly (m * 2 ^ e) y := by
  have hcanonical := canonical_shiftLeft hm hlt he
  refine ⟨_, _, hcanonical, by omega, ?_, (scaled_shiftLeft _ _ _).symm, hy⟩
  exact (Nat.le_log2 hcanonical.pos.ne').2 (two_pow_le_shiftLeft hm hlt).1

theorem ofNat_eq_round (hm : 0 < m) :
    Float.Model.UnpackedFloat.ofNat binary64 m
      = Float.Model.UnpackedFloat.round binary64 .positive m 0 := by
  rw [Float.Model.UnpackedFloat.ofNat, Float.Model.UnpackedFloat.ofInt,
    Float.Model.UnpackedFloat.normalize]
  have hcompare : compare (m : ℤ) 0 = .gt := compare_gt_iff_gt.2 (by omega)
  rw [hcompare, Int.toNat_natCast]

theorem ofNat_eq_shiftLeft (hm : 0 < m) (hlt : m < 2 ^ 53) :
    Float.Model.UnpackedFloat.ofNat binary64 m
      = .finite .positive (m <<< (52 - m.log2)) (0 - (52 - m.log2 : ℕ))
          (canonical_shiftLeft hm hlt (e := 0) (by decide)).pos := by
  have hcanonical := canonical_shiftLeft hm hlt (e := 0) (by decide)
  have hshift : (0 - binary64.targetExponent (Float.Model.totalExponent m 0)).toNat
      = 52 - m.log2 := by
    rw [targetExponent_eq, Float.Model.totalExponent]
    omega
  rw [ofNat_eq_round hm, Float.Model.UnpackedFloat.round, decreaseExponent, hshift]
  -- with all its places, the integer is on its grid, and there is nothing to round
  refine (roundWithAccuracy_isNearest (represents_scaled _ _) ?_ ?_ _).unique
    (hcanonical.isNearest _)
  · exact mul_pos (Nat.cast_pos.2 hcanonical.pos) (zpow_pos two_pos _)
  · rw [hcanonical.target_eq]

/-- Integers below `2 ^ 53` are doubles. -/
theorem isExactly_toFloat (hm : 0 < m) (hlt : m < 2 ^ 53) : IsExactly m m.toUInt64.toFloat := by
  have htoNat : m.toUInt64.toNat = m := UInt64.toNat_ofNat_of_lt (hlt.trans (by decide))
  have hfloat : m.toUInt64.toFloat = packed (.finite .positive (m <<< (52 - m.log2))
      (0 - (52 - m.log2 : ℕ)) (canonical_shiftLeft hm hlt (e := 0) (by decide)).pos) := by
    show packed (Float.Model.UnpackedFloat.ofNat binary64 m.toUInt64.toNat) = _
    rw [htoNat, ofNat_eq_shiftLeft hm hlt]
  have h := isExactly_shiftLeft hm hlt (e := 0) (by decide) (by decide) hfloat
  rwa [zpow_zero, mul_one] at h

theorem five_pow_pos (n : ℕ) : 0 < 5 ^ n :=
  Nat.pow_pos (by decide)

theorem five_pow_lt (i : Fin 23) : 5 ^ (i : ℕ) < 2 ^ 53 := by
  revert i
  decide

theorem powersOfTen_eq : ∀ i : Fin 23, Float.exactlyRepresentablePowersOfTen[i]
    = packed (.finite .positive ((5 ^ (i : ℕ)) <<< (52 - (5 ^ (i : ℕ)).log2))
        (((i : ℕ) : ℤ) - (52 - (5 ^ (i : ℕ)).log2 : ℕ))
        (canonical_shiftLeft (five_pow_pos i) (five_pow_lt i) (e := (i : ℕ)) (by omega)).pos) := by
  decide +kernel

/-- The powers of ten that are kept as doubles are exact. -/
theorem isExactly_powersOfTen (i : Fin 23) :
    IsExactly (10 ^ (i : ℕ)) Float.exactlyRepresentablePowersOfTen[i] := by
  have hsmall : ((i : ℕ) : ℤ) ≤ 971 := by omega
  have h := isExactly_shiftLeft (five_pow_pos i) (five_pow_lt i) (e := (i : ℕ)) (by omega) hsmall
    (powersOfTen_eq i)
  have hten : (10 : ℚ) ^ (i : ℕ) = ((5 ^ (i : ℕ) : ℕ) : ℚ) * 2 ^ ((i : ℕ) : ℤ) := by
    rw [zpow_natCast, Nat.cast_pow, ← mul_pow]
    norm_num
  rwa [hten]

section Exact

variable {y : ℚ} {a b : Float}

/-- Products of exact doubles are rounded once. -/
theorem IsExactly.mul (hx : IsExactly x a) (hy : IsExactly y b) :
    ∃ f, IsNearest .positive (x * y) f ∧ a * b = packed f := by
  obtain ⟨m₁, e₁, h₁, hsmall₁, hlog, rfl, rfl⟩ := hx
  obtain ⟨m₂, e₂, h₂, hsmall₂, -, rfl, rfl⟩ := hy
  refine ⟨mul binary64 (.finite .positive m₁ e₁ h₁.pos) (.finite .positive m₂ e₂ h₂.pos),
    mul_isNearest hlog, ?_⟩
  show packed (mul binary64 (packed _).toModel.unpack (packed _).toModel.unpack) = _
  rw [unpack_packed_finite h₁ hsmall₁, unpack_packed_finite h₂ hsmall₂]

/-- Quotients of exact doubles are rounded once. -/
theorem IsExactly.div (hx : IsExactly x a) (hy : IsExactly y b) :
    ∃ f, IsNearest .positive (x / y) f ∧ a / b = packed f := by
  obtain ⟨m₁, e₁, h₁, hsmall₁, -, rfl, rfl⟩ := hx
  obtain ⟨m₂, e₂, h₂, hsmall₂, -, rfl, rfl⟩ := hy
  refine ⟨div binary64 (.finite .positive m₁ e₁ h₁.pos) (.finite .positive m₂ e₂ h₂.pos),
    div_isNearest, ?_⟩
  show packed (div binary64 (packed _).toModel.unpack (packed _).toModel.unpack) = _
  rw [unpack_packed_finite h₁ hsmall₁, unpack_packed_finite h₂ hsmall₂]

theorem IsExactly.zero_mul (hx : IsExactly x a) :
    (0 : ℕ).toUInt64.toFloat * a = packed (.zero .positive) := by
  obtain ⟨m, e, h, hsmall, -, -, rfl⟩ := hx
  show packed (Float.Model.UnpackedFloat.mul binary64 (packed (.zero .positive)).toModel.unpack
    (packed _).toModel.unpack) = _
  rw [unpack_packed_zero, unpack_packed_finite h hsmall]
  rfl

theorem IsExactly.zero_div (hx : IsExactly x a) :
    (0 : ℕ).toUInt64.toFloat / a = packed (.zero .positive) := by
  obtain ⟨m, e, h, hsmall, -, -, rfl⟩ := hx
  show packed (Float.Model.UnpackedFloat.div binary64 (packed (.zero .positive)).toModel.unpack
    (packed _).toModel.unpack) = _
  rw [unpack_packed_zero, unpack_packed_finite h hsmall]
  rfl

end Exact

/-! ## Integers of any size -/

theorem ten_pow_pos (n : ℕ) : 0 < 10 ^ n :=
  Nat.pow_pos (by decide)

/-- A multiple of a power of ten is rounded once. -/
theorem mul_ten_pow_isNearest (hm : 0 < m) (n : ℕ) :
    IsNearest .positive (m * 10 ^ n)
      (mul binary64 (.finite .positive (m <<< 53) (-53) (Nat.shiftLeft_pos_iff.2 hm))
        (.finite .positive (10 ^ n) 0 (ten_pow_pos n))) := by
  have hlog : 52 ≤ (m <<< 53).log2 := by
    rw [Nat.le_log2 (Nat.shiftLeft_pos_iff.2 hm).ne', Nat.shiftLeft_eq]
    omega
  have hvalue : ((m <<< 53 : ℕ) : ℚ) * 2 ^ (-53 : ℤ) * ((10 ^ n : ℕ) * 2 ^ (0 : ℤ))
      = m * 10 ^ n := by
    rw [show (-53 : ℤ) = 0 - (53 : ℕ) from rfl, scaled_shiftLeft]
    push_cast
    ring
  rw [← hvalue]
  exact mul_isNearest hlog

/-- A fraction of a power of ten is rounded once. -/
theorem div_ten_pow_isNearest (hm : 0 < m) (n : ℕ) :
    IsNearest .positive (m / 10 ^ n)
      (div binary64 (.finite .positive m 0 hm) (.finite .positive (10 ^ n) 0 (ten_pow_pos n))) := by
  have hvalue : (m : ℚ) * 2 ^ (0 : ℤ) / ((10 ^ n : ℕ) * 2 ^ (0 : ℤ)) = m / 10 ^ n := by
    rw [zpow_zero, mul_one, mul_one, Nat.cast_pow, Nat.cast_ofNat]
  rw [← hvalue]
  exact div_isNearest

theorem two_zpow_le_mul_ten_pow (hm : 0 < m) {n : ℕ} (hn : 1024 ≤ n) :
    2 ^ (1024 : ℤ) ≤ (m : ℚ) * 10 ^ n := by
  have hone : (1 : ℚ) ≤ m := by exact_mod_cast hm
  calc
    (2 : ℚ) ^ (1024 : ℤ) = 2 ^ 1024 := zpow_natCast 2 1024
    _ ≤ 2 ^ n := pow_le_pow_right₀ one_le_two hn
    _ ≤ 10 ^ n := pow_le_pow_left₀ (by norm_num) (by norm_num) n
    _ ≤ m * 10 ^ n := le_mul_of_one_le_left (by positivity) hone

theorem div_ten_pow_lt_two_zpow {n : ℕ} (hn : 1075 + m.log2 < n) :
    (m : ℚ) / 10 ^ n < 2 ^ (-1075 : ℤ) := by
  have hpow : m * 2 ^ 1075 < 10 ^ n := by
    calc
      m * 2 ^ 1075 < 2 ^ (m.log2 + 1) * 2 ^ 1075 :=
        Nat.mul_lt_mul_of_pos_right Nat.lt_log2_self (by positivity)
      _ = 2 ^ (m.log2 + 1 + 1075) := (pow_add 2 _ _).symm
      _ ≤ 2 ^ n := Nat.pow_le_pow_right (by decide) (by omega)
      _ ≤ 10 ^ n := Nat.pow_le_pow_left (by decide) n
  have hten : (0 : ℚ) < 10 ^ n := by positivity
  rw [div_lt_iff₀ hten, zpow_neg, inv_mul_eq_div, lt_div_iff₀ (zpow_pos two_pos _)]
  exact_mod_cast hpow

/-- The double that a scientific number is read as is the nearest one, also where the power of ten
is too great or too small to be computed. -/
theorem exists_isNearest_ofScientific (hm : 0 < m) (e : ℤ) :
    ∃ f, IsNearest .positive (m * 10 ^ e) f ∧ packed (ofScientific binary64 m e) = packed f := by
  have hbits : (2 : ℤ) ^ binary64.exponentBits = 2048 := rfl
  rw [ofScientific, dif_neg hm.ne', hbits]
  by_cases he : 0 ≤ e
  · lift e to ℕ using he
    have hnearest := mul_ten_pow_isNearest hm e
    rw [zpow_natCast]
    refine ⟨_, hnearest, ?_⟩
    split
    · exact (hnearest.packed_eq_infinity (two_zpow_le_mul_ten_pow hm (by omega))).symm
    · rw [if_neg (by omega), if_pos (by omega)]
      rfl
  · obtain ⟨n, rfl⟩ : ∃ n : ℕ, e = -n := ⟨(-e).toNat, by omega⟩
    have hnearest := div_ten_pow_isNearest hm n
    rw [zpow_neg, zpow_natCast, ← div_eq_mul_inv]
    refine ⟨_, hnearest, ?_⟩
    rw [if_neg (by omega)]
    split
    · rw [hnearest.eq_zero (by positivity) (div_ten_pow_lt_two_zpow (by omega))]
    · simp only [neg_neg, Int.toNat_natCast]

/-! ## Decimals -/

/-- A decimal is read as the double nearest to its value. -/
theorem Decimal.exists_isNearest {d : Decimal} (hd : 0 < d.coefficient) :
    ∃ f, IsNearest .positive d.value f ∧ d.toFloat = packed f := by
  obtain ⟨m, e⟩ := d
  rw [value, toFloat, Float.ofScientific]
  dsimp only at hd ⊢
  split
  · rename_i hsmall
    obtain ⟨hlt, hle⟩ := hsmall
    have hten := isExactly_powersOfTen ⟨e.natAbs, by omega⟩
    by_cases he : e < 0
    · have hvalue : (m : ℚ) * 10 ^ e = m / 10 ^ e.natAbs := by
        rw [div_eq_mul_inv, ← zpow_natCast, ← zpow_neg]
        congr 2
        omega
      rw [if_pos (decide_eq_true he), hvalue]
      exact (isExactly_toFloat hd hlt).div hten
    · have hvalue : (m : ℚ) * 10 ^ e = m * 10 ^ e.natAbs := by
        rw [← zpow_natCast]
        congr 2
        omega
      rw [if_neg (by simpa using he), hvalue]
      exact (isExactly_toFloat hd hlt).mul hten
  · have hexponent : (if decide (e < 0) = true then Int.negOfNat e.natAbs
        else Int.ofNat e.natAbs) = e := by
      split
      · rename_i he
        rw [decide_eq_true_iff] at he
        rw [Int.negOfNat_eq, Int.ofNat_eq_natCast, Int.ofNat_natAbs_of_nonpos he.le, neg_neg]
      · rename_i he
        rw [decide_eq_true_iff, not_lt] at he
        exact Int.natAbs_of_nonneg he
    rw [hexponent]
    exact exists_isNearest_ofScientific hd e

theorem Decimal.value_pos_iff {d : Decimal} : 0 < d.value ↔ 0 < d.coefficient := by
  rw [value, mul_pos_iff_of_pos_right (zpow_pos (by norm_num) _), Nat.cast_pos]

/-- Decimals of one value are read as one double. -/
theorem Decimal.toFloat_congr {d d' : Decimal} (hd : 0 < d.coefficient)
    (hvalue : d.value = d'.value) : d.toFloat = d'.toFloat := by
  have hd' : 0 < d'.coefficient := by rwa [← value_pos_iff, ← hvalue, value_pos_iff]
  obtain ⟨f, hf, heq⟩ := exists_isNearest hd
  obtain ⟨f', hf', heq'⟩ := exists_isNearest hd'
  rw [heq, heq', hf.unique (hvalue ▸ hf')]

theorem exactDecimal_coefficient_pos (hm : 0 < m) (e : ℤ) : 0 < (exactDecimal m e).coefficient := by
  rw [exactDecimal]
  split
  · exact Nat.shiftLeft_pos_iff.2 hm
  · exact Nat.mul_pos hm (Nat.pow_pos (by decide))

theorem value_exactDecimal (m : ℕ) (e : ℤ) : (exactDecimal m e).value = m * 2 ^ e := by
  rw [exactDecimal]
  split
  · rename_i he
    lift e to ℕ using he
    rw [Decimal.value, Int.toNat_natCast, Nat.shiftLeft_eq, zpow_zero, mul_one, zpow_natCast]
    push_cast
    rfl
  · obtain ⟨n, rfl⟩ : ∃ n : ℕ, e = -n := ⟨(-e).toNat, by omega⟩
    rw [Decimal.value, neg_neg, Int.toNat_natCast, zpow_neg, zpow_neg, zpow_natCast, zpow_natCast]
    have hten : (10 : ℚ) ^ n = 5 ^ n * 2 ^ n := by
      rw [← mul_pow]
      norm_num
    have hfive : ((Nat.pow 5 n : ℕ) : ℚ) = 5 ^ n := Nat.cast_pow 5 n
    rw [hten, Nat.cast_mul, hfive]
    field_simp

/-- The exact value of a double is read as this double. -/
theorem toFloat_exactDecimal (h : Canonical m e) :
    (exactDecimal m e).toFloat = packed (.finite .positive m e h.pos) := by
  obtain ⟨f, hf, heq⟩ := Decimal.exists_isNearest (exactDecimal_coefficient_pos h.pos e)
  rw [value_exactDecimal] at hf
  rw [heq, hf.unique (h.isNearest .positive)]

/-- A coefficient of zero is read as zero, whatever its exponent. -/
theorem Decimal.toFloat_of_coefficient_eq_zero {d : Decimal} (hd : d.coefficient = 0) :
    d.toFloat = packed (.zero .positive) := by
  obtain ⟨m, e⟩ := d
  obtain rfl : m = 0 := hd
  rw [toFloat, Float.ofScientific]
  dsimp only
  split
  · rename_i hsmall
    have hten := isExactly_powersOfTen ⟨e.natAbs, by omega⟩
    split
    · exact hten.zero_div
    · exact hten.zero_mul
  · rfl

theorem readsBack_iff {x : Float} {d : Decimal} : readsBack x d = true ↔ d.toFloat = x := by
  rw [readsBack, beq_iff_eq, Float.toBits_inj]

/-- The shortest digits of a double are read as this double. -/
theorem toFloat_shortestOf (tie : Tie) (h : Canonical m e) :
    (shortestOf tie (packed (.finite .positive m e h.pos)) m e).toFloat
        = packed (.finite .positive m e h.pos) := by
  rw [shortestOf]
  dsimp only
  cases hfind : List.find? (readsBack (packed (.finite .positive m e h.pos))) _ with
  | none => exact toFloat_exactDecimal h
  | some d => exact readsBack_iff.1 (List.find?_some hfind)

theorem shortestOf_coefficient_pos (tie : Tie) (h : Canonical m e) (he : e ≤ 971) :
    0 < (shortestOf tie (packed (.finite .positive m e h.pos)) m e).coefficient := by
  refine Nat.pos_of_ne_zero fun hzero => ?_
  have heq := toFloat_shortestOf tie h
  rw [Decimal.toFloat_of_coefficient_eq_zero hzero] at heq
  have hbinary := ofFloat_packed_finite h he .positive
  rw [← heq, ofFloat_packed_zero] at hbinary
  cases hbinary
  exact h.pos.ne rfl

end Reckon.Number
