/-
# Reckon.Proofs.Number.Rounding — rounding to a double

Reading a decimal number multiplies or divides exact doubles and rounds the exact result. What it
is rounded to is decided by the exact rational alone: the mantissa that it is held in, with the two
bits for what lies below, says where the rational lies on a grid of powers of two
(`Represents`), shifting it to a coarser grid keeps that true, and the grid on which it is
rounded is a matter of the rational's size (`target`). So two ways to the same rational round to
the same double (`IsNearest.unique`).
-/
import Mathlib.Algebra.Order.Floor.Ring
import Mathlib.Data.Int.Log
import Mathlib.Data.Rat.Floor
import Mathlib.Tactic.FieldSimp
import Mathlib.Tactic.Linarith
import Mathlib.Tactic.NormNum
import Mathlib.Tactic.Positivity
import Mathlib.Tactic.Ring

namespace Reckon.Number

open Float.Model (totalExponent)
open Float.Model.Format (binary64)
open Float.Model.UnpackedFloat

/-! ## Positions on a grid -/

/-- The integer and the half that a mantissa and its round bit spell. -/
def position (em : ExtendedMantissa) : ℚ :=
  em.mantissa + if em.roundBit then 1 / 2 else 0

/-- Where a rational lies on the grid of the integers and the halves between them: at the position
that is spelt, or above it and below the next one, which the sticky bit tells apart. -/
structure Represents (em : ExtendedMantissa) (y : ℚ) : Prop where
  le : position em ≤ y
  lt : y < position em + 1 / 2
  sticky : em.stickyBit = true ↔ position em < y

namespace Represents

variable {em em' : ExtendedMantissa} {y : ℚ}

theorem mantissa_le (h : Represents em y) : (em.mantissa : ℚ) ≤ y := by
  have hle := h.le
  rw [position] at hle
  split at hle <;> linarith

theorem lt_mantissa (h : Represents em y) : y < em.mantissa + 1 := by
  have hlt := h.lt
  rw [position] at hlt
  split at hlt <;> linarith

/-- A rational has one position. -/
theorem unique (h : Represents em y) (h' : Represents em' y) : em = em' := by
  have hmantissa : em.mantissa = em'.mantissa := by
    have hlt := h.mantissa_le.trans_lt h'.lt_mantissa
    have hlt' := h'.mantissa_le.trans_lt h.lt_mantissa
    norm_cast at hlt hlt'
    omega
  have hround : em.roundBit = em'.roundBit := by
    have hlt := h.le.trans_lt h'.lt
    have hlt' := h'.le.trans_lt h.lt
    rw [position, position, hmantissa] at hlt hlt'
    by_contra hne
    cases hr : em.roundBit <;> cases hr' : em'.roundBit <;> simp [hr, hr'] at hlt hlt' hne
  have hsticky : em.stickyBit = em'.stickyBit := by
    have hposition : position em = position em' := by
      rw [position, position, hmantissa, hround]
    exact Bool.eq_iff_iff.2 (h.sticky.trans (hposition ▸ h'.sticky.symm))
  obtain ⟨m, r, s⟩ := em
  obtain ⟨m', r', s'⟩ := em'
  cases hmantissa
  cases hround
  cases hsticky
  rfl

theorem position_shiftRightOne (em : ExtendedMantissa) :
    position em.shiftRightOne = em.mantissa / 2 := by
  have hmantissa : ((em.mantissa % 2 : ℕ) : ℚ) + 2 * ((em.mantissa / 2 : ℕ) : ℚ) = em.mantissa := by
    exact_mod_cast Nat.mod_add_div em.mantissa 2
  rw [position, ExtendedMantissa.shiftRightOne, ← hmantissa]
  rcases Nat.mod_two_eq_zero_or_one em.mantissa with hmod | hmod
  · rw [hmod]
    norm_num
  · rw [hmod]
    norm_num
    ring

/-- On a grid twice as coarse. -/
theorem shiftRightOne (h : Represents em y) : Represents em.shiftRightOne (y / 2) := by
  have hle := h.mantissa_le
  have hlt := h.lt_mantissa
  refine ⟨?_, ?_, ?_⟩
  · rw [position_shiftRightOne]
    linarith
  · rw [position_shiftRightOne]
    linarith
  · rw [position_shiftRightOne, ExtendedMantissa.shiftRightOne, Bool.or_eq_true, h.sticky,
      position]
    -- above the mantissa is above its half, or is the half
    cases hr : em.roundBit with
    | false =>
        simp only [Bool.false_eq_true, false_or, if_false, add_zero]
        constructor <;> intro h' <;> linarith
    | true =>
        have hhalf := h.le
        rw [position, hr, if_pos rfl] at hhalf
        simp only [true_or, true_iff]
        linarith

/-- On a grid `2 ^ n` times as coarse. -/
theorem shiftRight (h : Represents em y) (n : ℕ) : Represents (em >>> n) (y / 2 ^ n) := by
  show Represents (n.repeat ExtendedMantissa.shiftRightOne em) (y / 2 ^ n)
  induction n with
  | zero => rwa [Nat.repeat, pow_zero, div_one]
  | succ n ih =>
      rw [Nat.repeat, pow_succ, ← div_div]
      exact ih.shiftRightOne

/-- An integer is at its place. -/
theorem ofNat (m : ℕ) : Represents (.ofMantissaAndAccuracy m .exact) m := by
  refine ⟨?_, ?_, ?_⟩ <;> simp [position, ExtendedMantissa.ofMantissaAndAccuracy]

/-- A quotient is at the place that dividing with a remainder gives. -/
theorem quotient (a : ℕ) {b : ℕ} (hb : 0 < b) :
    Represents (.ofMantissaAndAccuracy (a / b) (accuracyOfFraction (a % b) b)) ((a : ℚ) / b) := by
  have hpos : (0 : ℚ) < b := Nat.cast_pos.2 hb
  have hquotient : (a : ℚ) / b = (a / b : ℕ) + ((a % b : ℕ) : ℚ) / b := by
    have hdiv : ((a % b : ℕ) : ℚ) + b * ((a / b : ℕ) : ℚ) = a := by
      exact_mod_cast Nat.mod_add_div a b
    rw [← hdiv]
    field_simp
    ring
  have hrest : a % b < b := Nat.mod_lt a hb
  rw [hquotient, accuracyOfFraction]
  split
  · rename_i hzero
    rw [hzero, Nat.cast_zero, zero_div, add_zero]
    exact ofNat _
  · rename_i hne
    have hfraction : (0 : ℚ) < ((a % b : ℕ) : ℚ) / b :=
      div_pos (Nat.cast_pos.2 (Nat.pos_of_ne_zero hne)) hpos
    have hone : ((a % b : ℕ) : ℚ) / b < 1 := (div_lt_one hpos).2 (Nat.cast_lt.2 hrest)
    have hhalf : ((a % b : ℕ) : ℚ) / b * 2 = ((2 * (a % b) : ℕ) : ℚ) / b := by
      push_cast
      ring
    -- twice the rest against the divisor says on which side of the half the fraction lies
    rcases lt_trichotomy (2 * (a % b)) b with hlt | heq | hgt
    · have hside : ((2 * (a % b) : ℕ) : ℚ) / b < 1 := (div_lt_one hpos).2 (Nat.cast_lt.2 hlt)
      rw [Nat.compare_eq_lt.2 hlt]
      refine ⟨?_, ?_, ?_⟩ <;> simp [position, ExtendedMantissa.ofMantissaAndAccuracy] <;> linarith
    · have hside : ((2 * (a % b) : ℕ) : ℚ) / b = 1 := by rw [heq, div_self hpos.ne']
      rw [Nat.compare_eq_eq.2 heq]
      refine ⟨?_, ?_, ?_⟩ <;> simp [position, ExtendedMantissa.ofMantissaAndAccuracy] <;> linarith
    · have hside : 1 < ((2 * (a % b) : ℕ) : ℚ) / b := (one_lt_div hpos).2 (Nat.cast_lt.2 hgt)
      rw [Nat.compare_eq_gt.2 hgt]
      refine ⟨?_, ?_, ?_⟩ <;> simp [position, ExtendedMantissa.ofMantissaAndAccuracy] <;> linarith

end Represents

/-! ## The grid of a rational -/

/-- How many binary places a rational has before the point. -/
def topExponent (x : ℚ) : ℤ :=
  Int.log 2 x + 1

/-- The exponent of the grid on which a rational is rounded. -/
def target (x : ℚ) : ℤ :=
  binary64.targetExponent (topExponent x)

theorem targetExponent_eq (t : ℤ) : binary64.targetExponent t = max (t - 53) (-1074) := rfl

variable {x : ℚ} {m : ℕ} {e : ℤ}

/-- The mantissa of a rational on a grid, if it has one there, tells its size. -/
theorem totalExponent_eq (hx : 0 < x) (hm : m ≠ 0) (hle : (m : ℚ) ≤ x / 2 ^ e)
    (hlt : x / 2 ^ e < m + 1) : totalExponent m e = topExponent x := by
  have hpow : (0 : ℚ) < 2 ^ e := zpow_pos two_pos e
  rw [le_div_iff₀ hpow] at hle
  rw [div_lt_iff₀ hpow] at hlt
  have hbelow : ((2 : ℕ) : ℚ) ^ ((m.log2 : ℤ) + e) ≤ x := by
    have hlog : ((2 : ℚ) ^ m.log2) ≤ m := by exact_mod_cast Nat.log2_self_le hm
    rw [Nat.cast_ofNat, zpow_add₀ two_ne_zero, zpow_natCast]
    exact (mul_le_mul_of_nonneg_right hlog hpow.le).trans hle
  have habove : x < ((2 : ℕ) : ℚ) ^ ((m.log2 : ℤ) + 1 + e) := by
    have hlog : (m : ℚ) + 1 ≤ 2 ^ (m.log2 + 1) := by exact_mod_cast Nat.lt_log2_self
    rw [Nat.cast_ofNat, zpow_add₀ two_ne_zero, ← Nat.cast_succ, zpow_natCast]
    exact hlt.trans_le (mul_le_mul_of_nonneg_right hlog hpow.le)
  have hlow := (Int.zpow_le_iff_le_log one_lt_two hx).1 hbelow
  have hhigh := (Int.lt_zpow_iff_log_lt one_lt_two hx).1 habove
  rw [totalExponent, topExponent]
  omega

/-- The grid can be read off a position on any grid that is no coarser. -/
theorem Represents.targetExponent_eq {em : ExtendedMantissa} (h : Represents em (x / 2 ^ e))
    (hx : 0 < x) (he : e ≤ target x) :
    binary64.targetExponent (totalExponent em.mantissa e) = target x := by
  by_cases hm : em.mantissa = 0
  · -- the rational is smaller than the step of the grid, which must be the finest one
    have hlt := h.lt_mantissa
    rw [hm, Nat.cast_zero, zero_add, div_lt_one (zpow_pos two_pos e)] at hlt
    have hlog := (Int.lt_zpow_iff_log_lt one_lt_two hx).1 (by exact_mod_cast hlt)
    rw [target, Number.targetExponent_eq, topExponent] at he ⊢
    rw [Number.targetExponent_eq, hm, totalExponent, Nat.log2_zero]
    omega
  · rw [totalExponent_eq hx hm h.mantissa_le h.lt_mantissa]
    rfl

/-- Shifting to the grid on which a rational is rounded gives its position there. -/
theorem Represents.shiftToTargetExponent {acc : Accuracy}
    (h : Represents (.ofMantissaAndAccuracy m acc) (x / 2 ^ e)) (hx : 0 < x) (he : e ≤ target x) :
    ∃ em, shiftToTargetExponent binary64 m e acc = (em, target x) ∧
      Represents em (x / 2 ^ target x) := by
  have hmantissa : (ExtendedMantissa.ofMantissaAndAccuracy m acc).mantissa = m := by
    rcases acc with _ | o
    · rfl
    · cases o <;> rfl
  have htarget := h.targetExponent_eq hx he
  rw [hmantissa] at htarget
  obtain ⟨n, hn⟩ : ∃ n : ℕ, target x = e + n := Int.le.dest he |>.imp fun n hn => hn.symm
  have hshift := h.shiftRight n
  rw [div_div, ← zpow_natCast, ← zpow_add₀ two_ne_zero, ← hn] at hshift
  refine ⟨_, ?_, hshift⟩
  rw [Float.Model.UnpackedFloat.shiftToTargetExponent, htarget, shiftToExponent, hn,
    add_sub_cancel_left, Int.toNat_natCast]

/-! ## Rounding -/

/-- The double with a mantissa that has been rounded: the carry out of the mantissa, if there is
one, goes into the exponent. -/
def settle (sign : Sign) (m : ℕ) (e : ℤ) : Float.Model.UnpackedFloat :=
  if h : m = 0 then .zero sign
  else if m < 2 ^ 53 then .finite sign m e (Nat.pos_of_ne_zero h)
  else .finite sign (2 ^ 52) (e + 1) (by decide)

/-- What a positive rational is rounded to, apart from the sign: the nearest mantissa on its grid,
the even one of two that are equally near. -/
def IsNearest (sign : Sign) (x : ℚ) (f : Float.Model.UnpackedFloat) : Prop :=
  ∃ em, Represents em (x / 2 ^ target x) ∧ f = settle sign em.roundedMantissa (target x)

theorem IsNearest.unique {sign : Sign} {f f' : Float.Model.UnpackedFloat}
    (h : IsNearest sign x f) (h' : IsNearest sign x f') : f = f' := by
  obtain ⟨em, hem, rfl⟩ := h
  obtain ⟨em', hem', rfl⟩ := h'
  rw [hem.unique hem']

theorem neg_1074_le_target (x : ℚ) : -1074 ≤ target x := by
  rw [target, targetExponent_eq]
  exact le_max_right _ _

theorem roundedMantissa_le (em : ExtendedMantissa) : em.roundedMantissa ≤ em.mantissa + 1 := by
  obtain ⟨m, r, s⟩ := em
  cases r <;> cases s <;>
    simp only [ExtendedMantissa.roundedMantissa, ExtendedMantissa.accuracy,
      Accuracy.roundToNearestEven] <;> omega

/-- A position on the grid of a rational has at most 53 places. -/
theorem Represents.mantissa_lt {em : ExtendedMantissa} (h : Represents em (x / 2 ^ target x)) :
    em.mantissa < 2 ^ 53 := by
  have hx : x < ((2 : ℕ) : ℚ) ^ (topExponent x) := Int.lt_zpow_succ_log_self one_lt_two x
  have hle : topExponent x ≤ 53 + target x := by
    rw [target, Number.targetExponent_eq]
    omega
  have hlt : x / 2 ^ target x < 2 ^ 53 := by
    rw [div_lt_iff₀ (zpow_pos two_pos _)]
    calc
      x < (2 : ℚ) ^ (topExponent x) := by exact_mod_cast hx
      _ ≤ 2 ^ (53 + target x) := zpow_le_zpow_right₀ one_le_two hle
      _ = 2 ^ 53 * 2 ^ target x := by rw [zpow_add₀ two_ne_zero]; norm_num
  have hcast := h.mantissa_le.trans_lt hlt
  exact_mod_cast hcast

theorem shiftToTargetExponent_of_lt (hm : m < 2 ^ 53) (he : -1074 ≤ e) :
    shiftToTargetExponent binary64 m e .exact = (⟨m, false, false⟩, e) := by
  have hlog : m.log2 < 53 := by
    by_cases hzero : m = 0
    · rw [hzero, Nat.log2_zero]
      decide
    · exact (Nat.log2_lt hzero).2 hm
  have htarget : (binary64.targetExponent (totalExponent m e) - e).toNat = 0 := by
    rw [targetExponent_eq, totalExponent]
    omega
  rw [shiftToTargetExponent, shiftToExponent, htarget, Nat.cast_zero, add_zero]
  rfl

theorem shiftToTargetExponent_two_pow (he : -1074 ≤ e) :
    shiftToTargetExponent binary64 (2 ^ 53) e .exact = (⟨2 ^ 52, false, false⟩, e + 1) := by
  have htarget : (binary64.targetExponent (totalExponent (2 ^ 53) e) - e).toNat = 1 := by
    rw [targetExponent_eq, totalExponent, Nat.log2_two_pow]
    omega
  rw [shiftToTargetExponent, shiftToExponent, htarget]
  rfl

/-- Rounding a position on a grid that is no coarser than it should be gives the nearest double. -/
theorem roundWithAccuracy_isNearest {acc : Accuracy}
    (h : Represents (.ofMantissaAndAccuracy m acc) (x / 2 ^ e)) (hx : 0 < x) (he : e ≤ target x)
    (sign : Sign) : IsNearest sign x (roundWithAccuracy binary64 sign m e acc) := by
  obtain ⟨em, hshift, hem⟩ := h.shiftToTargetExponent hx he
  refine ⟨em, hem, ?_⟩
  have hlt := hem.mantissa_lt
  have hle := roundedMantissa_le em
  have htarget := neg_1074_le_target x
  rw [roundWithAccuracy, hshift, settle]
  dsimp only
  by_cases hm : em.roundedMantissa < 2 ^ 53
  · rw [shiftToTargetExponent_of_lt hm htarget]
    dsimp only
    by_cases hzero : em.roundedMantissa = 0
    · rw [dif_pos hzero, dif_pos hzero]
    · rw [dif_neg hzero, dif_neg hzero, if_pos hm]
  · have heq : em.roundedMantissa = 2 ^ 53 := by omega
    rw [heq, shiftToTargetExponent_two_pow htarget]
    rfl

/-! ## Products and quotients -/

/-- A mantissa and an exponent are exact on their own grid. -/
theorem represents_scaled (m : ℕ) (e : ℤ) :
    Represents (.ofMantissaAndAccuracy m .exact) ((m : ℚ) * 2 ^ e / 2 ^ e) := by
  rw [mul_div_cancel_right₀ _ (zpow_ne_zero e two_ne_zero)]
  exact .ofNat m

theorem topExponent_scaled (hm : 0 < m) (e : ℤ) :
    topExponent ((m : ℚ) * 2 ^ e) = totalExponent m e := by
  have h := represents_scaled m e
  exact (totalExponent_eq (mul_pos (Nat.cast_pos.2 hm) (zpow_pos two_pos e)) hm.ne' h.mantissa_le
    h.lt_mantissa).symm

/-- The mantissas and exponents that doubles have. -/
structure Canonical (m : ℕ) (e : ℤ) : Prop where
  pos : 0 < m
  lt : m < 2 ^ 53
  exponent : -1074 ≤ e
  normal : 2 ^ 52 ≤ m ∨ e = -1074

namespace Canonical

theorem log2 (h : Canonical m e) : m.log2 = 52 ∨ m.log2 < 52 ∧ e = -1074 := by
  have hlt := (Nat.log2_lt h.pos.ne').2 h.lt
  rcases h.normal with hm | he
  · have hle := (Nat.le_log2 h.pos.ne').2 hm
    omega
  · by_cases hm : 2 ^ 52 ≤ m
    · have hle := (Nat.le_log2 h.pos.ne').2 hm
      omega
    · exact .inr ⟨(Nat.log2_lt h.pos.ne').2 (not_le.1 hm), he⟩

theorem target_eq (h : Canonical m e) : target ((m : ℚ) * 2 ^ e) = e := by
  have hlog := h.log2
  have he := h.exponent
  rw [target, topExponent_scaled h.pos, targetExponent_eq, totalExponent]
  omega

theorem settle_eq (h : Canonical m e) (sign : Sign) :
    settle sign m e = .finite sign m e h.pos := by
  rw [settle, dif_neg h.pos.ne', if_pos h.lt]

/-- A double is rounded to itself. -/
theorem isNearest (h : Canonical m e) (sign : Sign) :
    IsNearest sign ((m : ℚ) * 2 ^ e) (.finite sign m e h.pos) := by
  refine ⟨.ofMantissaAndAccuracy m .exact, ?_, ?_⟩
  · rw [h.target_eq]
    exact represents_scaled m e
  · rw [h.target_eq]
    have hrounded : (ExtendedMantissa.ofMantissaAndAccuracy m .exact).roundedMantissa = m := rfl
    rw [hrounded, h.settle_eq]

end Canonical

variable {sign₁ sign₂ : Sign} {m₁ m₂ : ℕ} {e₁ e₂ : ℤ} {pos₁ : 0 < m₁} {pos₂ : 0 < m₂}

/-- Products are rounded from the exact product, if one mantissa has all its places. -/
theorem mul_isNearest (hlog : 52 ≤ m₁.log2) :
    IsNearest (sign₁ * sign₂) ((m₁ : ℚ) * 2 ^ e₁ * (m₂ * 2 ^ e₂))
      (mul binary64 (.finite sign₁ m₁ e₁ pos₁) (.finite sign₂ m₂ e₂ pos₂)) := by
  have hpos : 0 < m₁ * m₂ := Nat.mul_pos pos₁ pos₂
  have hvalue : (m₁ : ℚ) * 2 ^ e₁ * (m₂ * 2 ^ e₂) = ((m₁ * m₂ : ℕ) : ℚ) * 2 ^ (e₁ + e₂) := by
    rw [zpow_add₀ two_ne_zero]
    push_cast
    ring
  have hmantissa : 52 ≤ (m₁ * m₂).log2 := by
    rw [Nat.le_log2 hpos.ne']
    exact ((Nat.le_log2 pos₁.ne').1 hlog).trans (Nat.le_mul_of_pos_right m₁ pos₂)
  rw [hvalue]
  refine roundWithAccuracy_isNearest (represents_scaled _ _)
    (mul_pos (Nat.cast_pos.2 hpos) (zpow_pos two_pos _)) ?_ _
  rw [target, topExponent_scaled hpos, targetExponent_eq, totalExponent]
  omega

/-- A quotient has at least as many places before the point as its parts say. -/
theorem le_topExponent_div (pos₁ : 0 < m₁) (pos₂ : 0 < m₂) :
    totalExponent m₁ e₁ - totalExponent m₂ e₂
      ≤ topExponent ((m₁ : ℚ) * 2 ^ e₁ / (m₂ * 2 ^ e₂)) := by
  have hpos : ∀ {m : ℕ} {e : ℤ}, 0 < m → (0 : ℚ) < (m : ℚ) * 2 ^ e := fun hm =>
    mul_pos (Nat.cast_pos.2 hm) (zpow_pos two_pos _)
  have hlow : ((2 : ℕ) : ℚ) ^ (totalExponent m₁ e₁ - 1) ≤ (m₁ : ℚ) * 2 ^ e₁ := by
    rw [← topExponent_scaled pos₁, topExponent, add_sub_cancel_right]
    exact Int.zpow_log_le_self one_lt_two (hpos pos₁)
  have hhigh : (m₂ : ℚ) * 2 ^ e₂ < ((2 : ℕ) : ℚ) ^ totalExponent m₂ e₂ := by
    rw [← topExponent_scaled pos₂, topExponent]
    exact Int.lt_zpow_succ_log_self one_lt_two _
  have hquotient : ((2 : ℕ) : ℚ) ^ (totalExponent m₁ e₁ - 1 - totalExponent m₂ e₂)
      ≤ (m₁ : ℚ) * 2 ^ e₁ / (m₂ * 2 ^ e₂) := by
    rw [zpow_sub₀ (by norm_num)]
    exact div_le_div₀ (hpos pos₁).le hlow (hpos pos₂) hhigh.le
  have hlog := (Int.zpow_le_iff_le_log one_lt_two (div_pos (hpos pos₁) (hpos pos₂))).1 hquotient
  rw [topExponent]
  omega

/-- Quotients are rounded from the exact quotient. -/
theorem div_isNearest :
    IsNearest (sign₁ / sign₂) ((m₁ : ℚ) * 2 ^ e₁ / (m₂ * 2 ^ e₂))
      (div binary64 (.finite sign₁ m₁ e₁ pos₁) (.finite sign₂ m₂ e₂ pos₂)) := by
  have hpow : ∀ e : ℤ, (2 : ℚ) ^ e ≠ 0 := fun e => zpow_ne_zero e two_ne_zero
  have hne₂ : (m₂ : ℚ) ≠ 0 := Nat.cast_ne_zero.2 pos₂.ne'
  -- the dividend is shifted until the quotient has enough places
  let step := binary64.targetExponent (totalExponent m₁ e₁ - totalExponent m₂ e₂)
  let grid := min (e₁ - e₂) step
  let shift := (e₁ - e₂ - grid).toNat
  have hshift : e₁ = e₂ + grid + shift := by
    have hle : grid ≤ e₁ - e₂ := min_le_left _ _
    have hcast : (shift : ℤ) = e₁ - e₂ - grid := Int.toNat_of_nonneg (by omega)
    omega
  have hvalue : (m₁ : ℚ) * 2 ^ e₁ / (m₂ * 2 ^ e₂) / 2 ^ grid = ((m₁ <<< shift : ℕ) : ℚ) / m₂ := by
    rw [hshift, zpow_add₀ two_ne_zero, zpow_add₀ two_ne_zero, Nat.shiftLeft_eq, zpow_natCast]
    push_cast
    field_simp [hpow e₂, hpow grid]
  have hgrid : grid ≤ target ((m₁ : ℚ) * 2 ^ e₁ / (m₂ * 2 ^ e₂)) := by
    have hle : grid ≤ step := min_le_right _ _
    have hstep : step = max (totalExponent m₁ e₁ - totalExponent m₂ e₂ - 53) (-1074) :=
      targetExponent_eq _
    have htop : totalExponent m₁ e₁ - totalExponent m₂ e₂ ≤ topExponent _ :=
      le_topExponent_div pos₁ pos₂
    rw [target, targetExponent_eq]
    omega
  refine roundWithAccuracy_isNearest ?_ (div_pos (mul_pos (Nat.cast_pos.2 pos₁)
    (zpow_pos two_pos _)) (mul_pos (Nat.cast_pos.2 pos₂) (zpow_pos two_pos _))) hgrid _
  rw [hvalue]
  exact .quotient _ pos₂

end Reckon.Number
