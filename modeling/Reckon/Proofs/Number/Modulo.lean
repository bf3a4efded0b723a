/-
# Reckon.Proofs.Number.Modulo — the remainder of two numbers

`%` takes the integer parts of its operands, clamps them into 64 bits, and converts the remainder
back. Within the range of 64 bits nothing is lost on the way, the last conversion included: the
remainder of two doubles is a double (`IsDouble.mod`), so the result is the exact remainder of the
integer parts (`Number.IsRemainder`). Beyond the range it is the remainder of other integers, and
can be as large as the divisor.
-/
import Reckon.Value.Arithmetic
import Reckon.Proofs.Number.Integer

namespace Reckon

namespace Number

variable {p q n : ℤ} {x : Float}

/-! ## Clamped integers -/

/-- The integers of 64 bits. -/
def Fits (n : ℤ) : Prop :=
  -2 ^ 63 ≤ n ∧ n < 2 ^ 63

theorem toInt_clamp (n : ℤ) : (clamp n).toInt = max (-2 ^ 63) (min n (2 ^ 63 - 1)) := by
  have hmin : Int64.minValue.toInt = -2 ^ 63 := rfl
  have hmax : Int64.maxValue.toInt = 2 ^ 63 - 1 := rfl
  rw [clamp, hmin, hmax]
  split
  · omega
  · split
    · omega
    · rw [Int64.toInt_ofInt_of_le (by omega) (by omega)]
      omega

/-- An integer of 64 bits is not clamped. -/
theorem Fits.toInt_clamp (h : Fits n) : (clamp n).toInt = n := by
  obtain ⟨hlow, hhigh⟩ := h
  rw [Number.toInt_clamp]
  omega

theorem clamp_eq_zero_iff : clamp n = 0 ↔ n = 0 := by
  rw [← Int64.toInt_inj, toInt_clamp, Int64.toInt_zero]
  omega

theorem toInt64_eq_clamp (hx : x.isFinite = true) : toInt64 x = clamp (truncated (toRat x)) := by
  obtain ⟨negative, m, e, hbinary, -, -⟩ := exists_ofFloat_eq_finite hx
  rw [toRat, toInt64, hbinary, ← truncate_eq_truncated]

/-! ## Remainders -/

/-- The remainder of the integer parts of two rationals, with the sign of the first one. -/
structure IsRemainder (x y r : ℚ) : Prop where
  multiple : ∃ k : ℤ, truncated x - r = k * truncated y
  lt : |r| < |(truncated y : ℚ)|
  sign : r = 0 ∨ (0 < r ∧ 0 < x) ∨ (r < 0 ∧ x < 0)

theorem pos_of_truncated_pos {y : ℚ} (h : 0 < truncated y) : 0 < y := by
  by_contra hneg
  rw [truncated] at h
  split at h
  · rw [Int.floor_pos] at h
    linarith
  · rw [Int.ceil_pos] at h
    linarith

/-- The integers have the remainder that the rationals should have. -/
theorem isRemainder_tmod {x y : ℚ} (hy : truncated y ≠ 0) :
    IsRemainder x y ((truncated x).tmod (truncated y) : ℤ) := by
  have hdiv := Int.mul_tdiv_add_tmod (truncated x) (truncated y)
  refine ⟨⟨(truncated x).tdiv (truncated y), ?_⟩, ?_, ?_⟩
  · rw [sub_eq_iff_eq_add]
    exact_mod_cast (by linarith : truncated x
      = (truncated x).tdiv (truncated y) * truncated y + (truncated x).tmod (truncated y))
  · rw [← Int.cast_abs, ← Int.cast_abs, Int.cast_lt, Int.abs_eq_natAbs, Int.abs_eq_natAbs,
      Int.natAbs_tmod]
    exact_mod_cast Nat.mod_lt _ (Int.natAbs_pos.2 hy)
  · rcases lt_trichotomy (truncated x) 0 with hx | hx | hx
    · have hle : (truncated x).tmod (truncated y) ≤ 0 := by
        have hneg := Int.tmod_nonneg (truncated y) (neg_nonneg.2 hx.le)
        rw [Int.neg_tmod] at hneg
        linarith
      have hxneg : x < 0 := by
        have hpos := pos_of_truncated_pos (y := -x) (by rw [truncated_neg]; linarith)
        linarith
      rcases hle.lt_or_eq with hlt | heq
      · exact .inr (.inr ⟨Int.cast_lt_zero.2 hlt, hxneg⟩)
      · exact .inl (Int.cast_eq_zero.2 heq)
    · rw [hx, Int.zero_tmod]
      exact .inl Int.cast_zero
    · have hle := Int.tmod_nonneg (truncated y) hx.le
      rcases hle.lt_or_eq with hlt | heq
      · exact .inr (.inl ⟨Int.cast_pos.2 hlt, pos_of_truncated_pos hx⟩)
      · exact .inl (Int.cast_eq_zero.2 heq.symm)

/-- A divisor that is greater leaves an integer as it is. -/
theorem tmod_eq_self (h : p.natAbs < q.natAbs) : p.tmod q = p := by
  have hquotient : p.tdiv q = 0 := by
    rw [← Int.natAbs_eq_zero, Int.natAbs_tdiv]
    exact Nat.div_eq_of_lt h
  rw [Int.tmod_def, hquotient, mul_zero, sub_zero]

/-- The remainder by a clamped divisor is the right one: the divisor is clamped to something that
is still greater than the dividend, unless this is at the end of the range. -/
theorem toInt_clamp_mod (hp : Fits p) (hmax : p.natAbs ≠ 2 ^ 63 - 1) (hmin : p = -2 ^ 63 → Fits q) :
    (clamp p % clamp q).toInt = p.tmod q := by
  rw [Int64.toInt_mod, hp.toInt_clamp]
  by_cases hq : Fits q
  · rw [hq.toInt_clamp]
  · have hne : p ≠ -2 ^ 63 := mt hmin hq
    obtain ⟨hlow, hhigh⟩ := hp
    rw [Fits] at hq
    rw [tmod_eq_self, tmod_eq_self]
    · omega
    · rw [toInt_clamp]
      omega

end Number

namespace Value

open Number (Fits IsRemainder toRat truncated)

variable {a b : Value} {x y : Float}

theorem modulo_eq (ha : a.number? = some x) (hb : b.number? = some y) (hx : x.isFinite = true)
    (hy : y.isFinite = true) :
    a.modulo b = if truncated (toRat y) = 0 then .error .divisionByZero
      else .ok (.number (Number.ofInt64 (Number.clamp (truncated (toRat x))
        % Number.clamp (truncated (toRat y))))) := by
  have hoperands : operands "%" a b = .ok (x, y) := by
    unfold operands operand
    rw [ha, hb]
    rfl
  rw [modulo, hoperands]
  show (if Number.toInt64 y = 0 then _ else _) = _
  simp only [Number.toInt64_eq_clamp hx, Number.toInt64_eq_clamp hy, Number.clamp_eq_zero_iff]
  rfl

/-- On finite numbers `%` fails exactly if the integer part of the divisor is zero. Otherwise it
gives the exact remainder of the integer parts, as long as the dividend fits 64 bits; the divisor
need not, unless the dividend is the smallest integer of 64 bits. -/
theorem modulo_isRemainder (ha : a.number? = some x) (hb : b.number? = some y)
    (hx : x.isFinite = true) (hy : y.isFinite = true) :
    (a.modulo b = .error .divisionByZero ↔ truncated (toRat y) = 0) ∧
      (truncated (toRat y) ≠ 0 → ∃ r, a.modulo b = .ok (.number r) ∧
        (Fits (truncated (toRat x)) →
          (truncated (toRat x) = -2 ^ 63 → Fits (truncated (toRat y))) →
          r.isFinite = true ∧ IsRemainder (toRat x) (toRat y) (toRat r))) := by
  have hmodulo := modulo_eq ha hb hx hy
  refine ⟨?_, ?_⟩
  · rw [hmodulo]
    split
    · rename_i hzero
      exact ⟨fun _ => hzero, fun _ => rfl⟩
    · rename_i hzero
      exact ⟨nofun, fun h => absurd h hzero⟩
  · intro hzero
    rw [if_neg hzero] at hmodulo
    refine ⟨_, hmodulo, ?_⟩
    intro hfits hend
    have hdividend := Number.isDouble_truncated hx
    have hdivisor := Number.isDouble_truncated hy
    -- the greatest integer of 64 bits, being odd, is no double
    have hmax : (truncated (toRat x)).natAbs ≠ 2 ^ 63 - 1 := by
      intro heq
      have hlt := hdividend.lt_of_odd (by rw [heq]; rfl)
      omega
    have hdouble := hdividend.mod hdivisor (Int.natAbs_pos.2 hzero)
    rw [← Int.natAbs_tmod] at hdouble
    obtain ⟨hfinite, hvalue⟩ := Number.toRat_ofInt hdouble
    rw [Number.ofInt64, Number.toInt_clamp_mod hfits hmax hend, hvalue]
    exact ⟨hfinite, Number.isRemainder_tmod hzero⟩

/-- The smallest integer of 64 bits and a divisor with the integer part minus one: the quotient
does not fit 64 bits, the remainder does. -/
theorem modulo_isRemainder_minValue :
    ∃ r, (Value.text "-9223372036854775808").modulo (.number (-1.5)) = .ok (.number r) ∧
      r.isFinite = true ∧ IsRemainder (-2 ^ 63) (-1.5) (toRat r) := by
  have hdividend : toRat (-9223372036854775808) = -2 ^ 63 := by
    have hbinary : Number.Binary.ofFloat (-9223372036854775808) = .finite true (2 ^ 52) 11 := by
      decide
    rw [toRat, hbinary]
    norm_num [Number.Binary.toRat]
  have hdivisor : toRat (-1.5) = -1.5 := by
    have hbinary : Number.Binary.ofFloat (-1.5) = .finite true (3 * 2 ^ 51) (-52) := by decide
    rw [toRat, hbinary]
    norm_num [Number.Binary.toRat]
  have hone : truncated (-1.5) = -1 := by norm_num [truncated]
  have hread : (Value.text "-9223372036854775808").number? = some (-9223372036854775808) := by
    decide
  obtain ⟨-, hremainder⟩ := modulo_isRemainder (b := .number (-1.5)) hread rfl (by decide)
    (by decide)
  rw [hdividend, hdivisor, hone] at hremainder
  obtain ⟨r, hr, hexact⟩ := hremainder (by decide)
  exact ⟨r, hr, hexact (by norm_num [Fits, truncated]) fun _ => by norm_num [Fits]⟩

/-- Beyond 64 bits the result is no remainder: here it is the divisor. The dividend is clamped to
an integer that is less by one, and the remainder of this integer is rounded up. -/
theorem not_modulo_isRemainder :
    (Value.number 9223372036854775808).modulo (.number 4611686018427387904)
        = .ok (.number 4611686018427387904) ∧
      ¬ IsRemainder (toRat 9223372036854775808) (toRat 4611686018427387904)
        (toRat 4611686018427387904) := by
  refine ⟨rfl, ?_⟩
  intro h
  have hdivisor : toRat 4611686018427387904 = (2 ^ 62 : ℤ) := by
    have hbinary : Number.Binary.ofFloat 4611686018427387904 = .finite false (2 ^ 52) 10 := by
      decide
    rw [toRat, hbinary]
    norm_num [Number.Binary.toRat]
  have hwhole : truncated ((2 ^ 62 : ℤ) : ℚ) = 2 ^ 62 := by
    rw [truncated, if_pos (by positivity), Int.floor_intCast]
  have hlt := h.lt
  rw [hdivisor, hwhole] at hlt
  exact lt_irrefl _ hlt

end Value

end Reckon
