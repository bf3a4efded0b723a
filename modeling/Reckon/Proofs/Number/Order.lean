/-
# Reckon.Proofs.Number.Order — the order of doubles

Two doubles are one of less, equal and greater, unless one of them is not a number: then they are
none of these. With the doubles in the other order the answer is the reversed one.
-/
import Mathlib
import Reckon.Value.Comparison

namespace Reckon.Number

open Float.Model (UnpackedFloat)

/-! ## Unpacked doubles -/

/-- Exponents come before mantissas, either way round. -/
theorem compare_then_swap (e₁ e₂ : ℤ) (m₁ m₂ : ℕ) :
    (compare e₂ e₁).then (compare m₂ m₁) = ((compare e₁ e₂).then (compare m₁ m₂)).swap := by
  rw [Ordering.swap_then, ← Std.OrientedOrd.eq_swap, ← Std.OrientedOrd.eq_swap]

theorem unpacked_compare_swap (f g : UnpackedFloat) :
    g.compare f = (f.compare g).map Ordering.swap := by
  rcases f with (_ | _) | _ | s | ⟨_ | _, m, e, hm⟩ <;>
    rcases g with (_ | _) | _ | s' | ⟨_ | _, m', e', hm'⟩ <;>
    try rfl
  -- two finite doubles of one sign
  · exact congrArg (fun o => some o.swap) (compare_then_swap e e' m m')
  · exact congrArg some (compare_then_swap e e' m m')

theorem unpacked_compare_eq_none_iff (f g : UnpackedFloat) :
    f.compare g = none ↔ f.isNaN = true ∨ g.isNaN = true := by
  rcases f with (_ | _) | _ | s | ⟨_ | _, m, e, hm⟩ <;>
    rcases g with (_ | _) | _ | s' | ⟨_ | _, m', e', hm'⟩ <;>
    simp [UnpackedFloat.compare, UnpackedFloat.isNaN]

/-! ## Doubles -/

variable {x y : Float}

theorem lt_iff_compare :
    x < y ↔ x.toModel.unpack.compare y.toModel.unpack = some .lt := by
  show decide (Float.Model.lt x.toModel y.toModel = true) = true ↔ _
  simp [Float.Model.lt, UnpackedFloat.lt]

theorem beq_iff_compare :
    (x == y) = true ↔ x.toModel.unpack.compare y.toModel.unpack = some .eq := by
  show Float.Model.beq x.toModel y.toModel = true ↔ _
  simp [Float.Model.beq, UnpackedFloat.beq]

/-- The three tests by which numbers are compared find the order of the doubles. -/
theorem compareNumbers_eq (x y : Float) :
    Value.compareNumbers x y = x.toModel.unpack.compare y.toModel.unpack := by
  have hswap := unpacked_compare_swap x.toModel.unpack y.toModel.unpack
  rw [Value.compareNumbers]
  simp only [lt_iff_compare, beq_iff_compare, hswap]
  rcases x.toModel.unpack.compare y.toModel.unpack with _ | (_ | _ | _) <;> rfl

theorem compareNumbers_swap (x y : Float) :
    Value.compareNumbers y x = (Value.compareNumbers x y).map Ordering.swap := by
  rw [compareNumbers_eq, compareNumbers_eq, unpacked_compare_swap]

theorem compareNumbers_eq_none_iff :
    Value.compareNumbers x y = none ↔ x.isNaN = true ∨ y.isNaN = true := by
  rw [compareNumbers_eq]
  exact unpacked_compare_eq_none_iff _ _

/-- Numbers are equal exactly if they are ordered as equal. -/
theorem beq_eq_compareNumbers (x y : Float) : (x == y) = (Value.compareNumbers x y == some .eq) := by
  rw [Bool.eq_iff_iff, beq_iff_compare, compareNumbers_eq, beq_iff_eq]

end Reckon.Number
