/-
# Reckon.Proofs.Number.Integer — doubles and integers

A finite double stands for a rational (`toRat`). Its integer part is this rational without its
fraction, towards zero, and has at most 53 places before its trailing zeros (`IsDouble`). Integers
of that form are doubles: they come back from `Float.ofInt` as themselves. A number is whole if it is
finite and its rational is an integer (`isWhole_iff`).
-/
import Reckon.Proofs.Number.Reading

namespace Reckon.Number

/-! ## The rational of a double -/

/-- The rational that a finite double stands for. -/
def Binary.toRat : Binary → ℚ
  | .finite true m e => -(m * 2 ^ e)
  | .finite false m e => m * 2 ^ e
  | .infinite _ => 0
  | .nan => 0

/-- The rational that a finite number stands for. -/
def toRat (x : Float) : ℚ :=
  (Binary.ofFloat x).toRat

/-- A rational without its fraction, towards zero. -/
def truncated (q : ℚ) : ℤ :=
  if 0 ≤ q then ⌊q⌋ else ⌈q⌉

theorem truncated_intCast (k : ℤ) : truncated k = k := by
  simp [truncated]

theorem truncated_neg (q : ℚ) : truncated (-q) = -truncated q := by
  unfold truncated
  rcases lt_trichotomy q 0 with hq | rfl | hq
  · rw [if_pos (neg_nonneg.2 hq.le), if_neg hq.not_ge, Int.floor_neg]
  · simp
  · rw [if_neg (by linarith), if_pos hq.le, Int.ceil_neg]

theorem integerPart_eq_floor (m : ℕ) (e : ℤ) :
    (Binary.integerPart m e : ℤ) = ⌊(m : ℚ) * 2 ^ e⌋ := by
  unfold Binary.integerPart
  split
  · rename_i he
    lift e to ℕ using he
    have hcast : (m : ℚ) * 2 ^ (e : ℤ) = ((m * 2 ^ e : ℤ) : ℚ) := by
      push_cast
      rw [zpow_natCast]
    rw [hcast, Int.floor_intCast, Int.toNat_natCast, Nat.shiftLeft_eq]
    push_cast
    rfl
  · obtain ⟨n, rfl⟩ : ∃ n : ℕ, e = -n := ⟨(-e).toNat, by omega⟩
    have hcast : (m : ℚ) * 2 ^ (-(n : ℤ)) = (m : ℚ) / ((2 ^ n : ℕ) : ℚ) := by
      push_cast
      rw [zpow_neg, zpow_natCast, div_eq_mul_inv]
    rw [hcast, neg_neg, Int.toNat_natCast, Nat.shiftRight_eq_div_pow, ← Int.natCast_floor_eq_floor,
      Nat.floor_div_eq_div]
    positivity

/-- The integer part of a finite number is its rational without the fraction. -/
theorem truncate_eq_truncated (negative : Bool) (m : ℕ) (e : ℤ) :
    Binary.truncate negative m e = truncated (Binary.finite negative m e).toRat := by
  have hpositive : (Binary.integerPart m e : ℤ) = truncated (m * 2 ^ e) := by
    rw [truncated, if_pos (by positivity), integerPart_eq_floor]
  cases negative with
  | true =>
      rw [Binary.toRat, truncated_neg, ← hpositive]
      rfl
  | false => exact hpositive

/-! ## Integers that are doubles -/

/-- A natural number that is a double: at most 53 places, with zeros behind them. -/
def IsDouble (n : ℕ) : Prop :=
  ∃ m k, m < 2 ^ 53 ∧ k ≤ 971 ∧ n = m * 2 ^ k

namespace IsDouble

variable {a b n : ℕ}

/-- The remainder keeps the zeros that both numbers end in, and has no more places than the one
that ends in fewer of them. -/
theorem mod (ha : IsDouble a) (hb : IsDouble b) (hpos : 0 < b) : IsDouble (a % b) := by
  obtain ⟨p, i, hp, hi, rfl⟩ := ha
  obtain ⟨q, j, hq, hj, rfl⟩ := hb
  rcases le_total i j with hij | hji
  · obtain ⟨d, rfl⟩ := Nat.exists_eq_add_of_le hij
    refine ⟨p % (q * 2 ^ d), i, (Nat.mod_le _ _).trans_lt hp, hi, ?_⟩
    rw [← Nat.mul_mod_mul_right]
    congr 1
    ring
  · obtain ⟨d, rfl⟩ := Nat.exists_eq_add_of_le hji
    have hq' : 0 < q := Nat.pos_of_mul_pos_right hpos
    refine ⟨p * 2 ^ d % q, j, (Nat.mod_lt _ hq').trans hq, hj, ?_⟩
    rw [← Nat.mul_mod_mul_right]
    congr 1
    ring

/-- An odd number that is a double has at most 53 places. -/
theorem lt_of_odd (h : IsDouble n) (hodd : n % 2 = 1) : n < 2 ^ 53 := by
  obtain ⟨m, k, hm, -, rfl⟩ := h
  cases k with
  | zero => simpa using hm
  | succ k =>
      rw [pow_succ, ← mul_assoc, Nat.mul_mod_left] at hodd
      cases hodd

end IsDouble

theorem isDouble_integerPart {m : ℕ} {e : ℤ} (hm : m < 2 ^ 53) (he : e ≤ 971) :
    IsDouble (Binary.integerPart m e) := by
  unfold Binary.integerPart
  split
  · exact ⟨m, e.toNat, hm, by omega, Nat.shiftLeft_eq _ _⟩
  · rw [Nat.shiftRight_eq_div_pow]
    exact ⟨_, 0, (Nat.div_le_self _ _).trans_lt hm, by decide, (mul_one _).symm⟩

theorem natAbs_truncate (negative : Bool) (m : ℕ) (e : ℤ) :
    (Binary.truncate negative m e).natAbs = Binary.integerPart m e := by
  cases negative with
  | true => exact Int.natAbs_neg _
  | false => rfl

/-- A finite number taken apart: its mantissa and its exponent are in range. -/
theorem exists_ofFloat_eq_finite {x : Float} (hx : x.isFinite = true) :
    ∃ negative m e, Binary.ofFloat x = .finite negative m e ∧ m < 2 ^ 53 ∧ e ≤ 971 := by
  cases packed_of_isFinite hx with
  | zero sign => exact ⟨_, _, _, ofFloat_packed_zero sign, by decide, by decide⟩
  | finite sign h he => exact ⟨_, _, _, ofFloat_packed_finite h he sign, h.lt, he⟩

theorem isDouble_truncated {x : Float} (hx : x.isFinite = true) :
    IsDouble (truncated (toRat x)).natAbs := by
  obtain ⟨negative, m, e, hbinary, hm, he⟩ := exists_ofFloat_eq_finite hx
  rw [toRat, hbinary, ← truncate_eq_truncated, natAbs_truncate]
  exact isDouble_integerPart hm he

/-! ## The double of an integer -/

namespace IsExactly

variable {q : ℚ} {x : Float}

theorem isFinite (h : IsExactly q x) : x.isFinite = true := by
  obtain ⟨m, e, hm, he, -, -, rfl⟩ := h
  exact isFinite_packed_finite hm he .positive

theorem toRat_eq (h : IsExactly q x) : toRat x = q := by
  obtain ⟨m, e, hm, he, -, rfl, rfl⟩ := h
  rw [toRat, ofFloat_packed_finite hm he]
  rfl

theorem isFinite_neg (h : IsExactly q x) : (-x).isFinite = true := by
  obtain ⟨m, e, hm, he, -, -, rfl⟩ := h
  rw [neg_packed_finite hm he]
  exact isFinite_packed_finite hm he _

theorem toRat_neg (h : IsExactly q x) : toRat (-x) = -q := by
  obtain ⟨m, e, hm, he, -, rfl, rfl⟩ := h
  rw [neg_packed_finite hm he, toRat, ofFloat_packed_finite hm he]
  rfl

end IsExactly

theorem isExactly_ofNat {n : ℕ} (h : IsDouble n) (hn : 0 < n) : IsExactly n (Float.ofNat n) := by
  obtain ⟨m, k, hm, hk, rfl⟩ := h
  have hpos : 0 < m := Nat.pos_of_mul_pos_right hn
  have hcanonical := canonical_shiftLeft hpos hm (e := k) (by omega)
  have hvalue : ((m * 2 ^ k : ℕ) : ℚ) = m * 2 ^ (k : ℤ) := by
    push_cast
    rw [zpow_natCast]
  obtain ⟨f, hf, hread⟩ := Decimal.exists_isNearest (d := ⟨m * 2 ^ k, 0⟩) hn
  have hdecimal : Decimal.value ⟨m * 2 ^ k, 0⟩
      = ((m <<< (52 - m.log2) : ℕ) : ℚ) * 2 ^ ((k : ℤ) - (52 - m.log2 : ℕ)) := by
    rw [scaled_shiftLeft, ← hvalue, Decimal.value, zpow_zero, mul_one]
  rw [hdecimal] at hf
  rw [hvalue]
  apply isExactly_shiftLeft hpos hm (by omega) (by omega)
  rw [← hf.unique (hcanonical.isNearest .positive), ← hread]
  rfl

/-- An integer that is a double is converted to this double. -/
theorem toRat_ofInt {n : ℤ} (h : IsDouble n.natAbs) :
    (Float.ofInt n).isFinite = true ∧ toRat (Float.ofInt n) = n := by
  cases n with
  | ofNat n =>
      rcases Nat.eq_zero_or_pos n with rfl | hn
      · have hzero : Binary.ofFloat (Float.ofInt (Int.ofNat 0)) = .finite false 0 (-1074) := by decide
        refine ⟨by decide, ?_⟩
        rw [toRat, hzero]
        simp [Binary.toRat]
      · have hexact := isExactly_ofNat h hn
        exact ⟨hexact.isFinite, hexact.toRat_eq⟩
  | negSucc n =>
      have hexact : IsExactly (n.succ : ℕ) (Float.ofNat n.succ) := isExactly_ofNat h n.succ_pos
      exact ⟨hexact.isFinite_neg, hexact.toRat_neg.trans (Int.cast_negSucc n).symm⟩

/-! ## Whole numbers -/

theorem isFinite_of_isWhole {x : Float} (h : isWhole x = true) : x.isFinite = true := by
  show x.toModel.unpack.isFinite = true
  rw [eq_packed_unpack x] at h
  revert h
  cases x.toModel.unpack with
  | notANumber => decide
  | infinity sign => cases sign <;> decide
  | zero sign => exact fun _ => rfl
  | finite sign m e hm => exact fun _ => rfl

/-- A value without a sign is whole exactly if it is an integer. -/
theorem isWhole_unsigned_iff {m : ℕ} {e : ℤ} :
    (Binary.finite false m e).isWhole = true ↔ ∃ k : ℤ, (m : ℚ) * 2 ^ e = k := by
  simp only [Binary.isWhole, Bool.or_eq_true, decide_eq_true_eq, beq_iff_eq, Nat.shiftLeft_eq,
    one_mul]
  rcases le_or_gt 0 e with he | he
  · lift e to ℕ using he
    simp only [Int.natCast_nonneg, true_or, true_iff]
    exact ⟨m * 2 ^ e, by push_cast; rw [zpow_natCast]⟩
  · obtain ⟨n, rfl⟩ : ∃ n : ℕ, e = -n := ⟨(-e).toNat, by omega⟩
    rw [or_iff_right he.not_ge, neg_neg, Int.toNat_natCast, ← Nat.dvd_iff_mod_eq_zero,
      ← Int.natCast_dvd_natCast]
    have hpow : (2 : ℚ) ^ n ≠ 0 := by positivity
    refine exists_congr fun k => ?_
    rw [zpow_neg, zpow_natCast, ← div_eq_mul_inv, div_eq_iff hpow, mul_comm (k : ℚ)]
    norm_cast

/-- A finite value is whole exactly if it is an integer. -/
theorem isWhole_finite_iff {negative : Bool} {m : ℕ} {e : ℤ} :
    (Binary.finite negative m e).isWhole = true
      ↔ ∃ k : ℤ, (Binary.finite negative m e).toRat = k := by
  cases negative with
  | false => exact isWhole_unsigned_iff
  | true =>
      rw [show (Binary.finite true m e).isWhole = (Binary.finite false m e).isWhole from rfl,
        isWhole_unsigned_iff]
      constructor
      · rintro ⟨k, hk⟩
        exact ⟨-k, by rw [Binary.toRat, hk, Int.cast_neg]⟩
      · rintro ⟨k, hk⟩
        exact ⟨-k, by rw [Int.cast_neg, ← hk, Binary.toRat, neg_neg]⟩

/-- A number is whole exactly if it is finite and its rational is an integer. -/
theorem isWhole_iff {x : Float} :
    isWhole x = true ↔ x.isFinite = true ∧ ∃ k : ℤ, toRat x = k := by
  constructor
  · intro h
    have hfinite := isFinite_of_isWhole h
    obtain ⟨negative, m, e, hbinary, -, -⟩ := exists_ofFloat_eq_finite hfinite
    rw [isWhole, hbinary] at h
    rw [toRat, hbinary]
    exact ⟨hfinite, isWhole_finite_iff.1 h⟩
  · rintro ⟨hfinite, hinteger⟩
    obtain ⟨negative, m, e, hbinary, -, -⟩ := exists_ofFloat_eq_finite hfinite
    rw [toRat, hbinary] at hinteger
    rw [isWhole, hbinary]
    exact isWhole_finite_iff.2 hinteger

end Reckon.Number
