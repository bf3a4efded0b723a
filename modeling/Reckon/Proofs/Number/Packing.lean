/-
# Reckon.Proofs.Number.Packing — doubles and their bits

A double is its 64 bits: a sign, eleven bits of exponent and 52 of mantissa. A finite double is the
packing of a signed zero, or of a sign with the mantissa and the exponent of its grid
(`Canonical`), and unpacking gives these back. What the library reads off the bits
(`Binary.ofFloat`), and the sign and the absolute value of a double, are then matters of the
unpacked one.
-/
import Mathlib
import Reckon.Number.Binary
import Reckon.Proofs.Number.Rounding

namespace Reckon.Number

open Float.Model.Format (binary64)
open Float.Model.UnpackedFloat

/-! ## Components -/

theorem toNat_packComponents (sign : Sign) (e : BitVec 11) (m : BitVec 52) :
    (packComponents binary64 sign e m).toNat
      = sign.toBitVec.toNat * 2 ^ 63 + e.toNat * 2 ^ 52 + m.toNat := by
  rw [packComponents, BitVec.toNat_append, BitVec.toNat_append,
    ← Nat.shiftLeft_add_eq_or_of_lt e.isLt, ← Nat.shiftLeft_add_eq_or_of_lt m.isLt,
    Nat.shiftLeft_eq, Nat.shiftLeft_eq]
  ring

theorem toNat_append_one (m : BitVec 52) : (1#1 ++ m).toNat = 2 ^ 52 + m.toNat := by
  rw [BitVec.toNat_append, ← Nat.shiftLeft_add_eq_or_of_lt m.isLt]
  rfl

/-- What components with the smallest exponent stand for. -/
theorem unpack_subnormal (sign : Sign) (m : BitVec 52) :
    Float.Model.UnpackedFloat.unpack binary64 (packComponents binary64 sign 0#11 m)
      = settle sign m.toNat (-1074) := by
  have hm := m.isLt
  rw [Float.Model.UnpackedFloat.unpack, settle]
  simp only [unpackMantissa_packComponents, unpackExponent_packComponents,
    unpackSign_packComponents, Sign.ofBitVec_toBitVec]
  rw [if_neg (by decide), if_pos trivial]
  by_cases hzero : m = 0#52
  · rw [dif_pos hzero, dif_pos (by rw [hzero]; rfl)]
  · have hne : m.toNat ≠ 0 := fun h => hzero (BitVec.eq_of_toNat_eq h)
    rw [dif_neg hzero, dif_neg hne, if_pos (by omega)]
    rfl

/-- What components with an exponent between the smallest and the greatest one stand for. -/
theorem unpack_normal (sign : Sign) {e : BitVec 11} (m : BitVec 52) (hzero : e ≠ 0#11)
    (htop : e ≠ -1#11) :
    Float.Model.UnpackedFloat.unpack binary64 (packComponents binary64 sign e m)
      = settle sign (2 ^ 52 + m.toNat) ((e.toNat : ℤ) - 1075) := by
  have hm := m.isLt
  rw [Float.Model.UnpackedFloat.unpack, settle]
  simp only [unpackMantissa_packComponents, unpackExponent_packComponents,
    unpackSign_packComponents, Sign.ofBitVec_toBitVec]
  rw [if_neg htop, if_neg hzero, dif_neg (by omega), if_pos (by omega)]
  congr 1
  exact toNat_append_one m

/-! ## Packed doubles -/

/-- The double that packs an unpacked one. -/
def packed (f : Float.Model.UnpackedFloat) : Float :=
  .ofModel (.pack f)

variable {m : ℕ} {e : ℤ}

theorem biased_eq (e : ℤ) :
    e + binary64.exponentBias + binary64.mantissaBitsWithoutImplicit = e + 1075 :=
  add_assoc e 1023 52

/-- The components of a canonical mantissa and exponent. -/
theorem pack_finite (h : Canonical m e) (he : e ≤ 971) (sign : Sign) :
    Float.Model.UnpackedFloat.pack binary64 (.finite sign m e h.pos)
      = packComponents binary64 sign
          (if 2 ^ 52 ≤ m then BitVec.ofNat 11 (e + 1075).toNat else 0#11) (BitVec.ofNat 52 m) := by
  rw [Float.Model.UnpackedFloat.pack]
  dsimp only
  rw [biased_eq, if_neg (by omega)]
  by_cases hm : 2 ^ 52 ≤ m
  · have hlog : m.log2 = 52 := by
      have hlt := (Nat.log2_lt h.pos.ne').2 h.lt
      have hle := (Nat.le_log2 h.pos.ne').2 hm
      omega
    rw [if_pos (by rw [hlog]; rfl), if_pos hm]
  · have hlog : m.log2 < 52 := (Nat.log2_lt h.pos.ne').2 (not_le.1 hm)
    have hbits : binary64.mantissaBits = 53 := rfl
    rw [if_neg (by omega), if_neg hm]

theorem unpack_packed_finite (h : Canonical m e) (he : e ≤ 971) (sign : Sign) :
    (packed (.finite sign m e h.pos)).toModel.unpack = .finite sign m e h.pos := by
  show Float.Model.UnpackedFloat.unpack binary64 (Float.Model.UnpackedFloat.pack binary64 _) = _
  rw [pack_finite h he, ← h.settle_eq]
  have hlt := h.lt
  have hexponent := h.exponent
  split
  · rename_i hm
    have htoNat : (BitVec.ofNat 11 (e + 1075).toNat).toNat = (e + 1075).toNat := by
      rw [BitVec.toNat_ofNat, Nat.mod_eq_of_lt (by omega)]
    rw [unpack_normal]
    · rw [htoNat, BitVec.toNat_ofNat]
      congr 1
      · omega
      · omega
    · intro heq
      rw [heq] at htoNat
      rw [BitVec.toNat_ofNat] at htoNat
      omega
    · intro heq
      rw [heq] at htoNat
      have htop : (-1#11).toNat = 2047 := rfl
      omega
  · rename_i hm
    rw [unpack_subnormal, BitVec.toNat_ofNat, Nat.mod_eq_of_lt (by omega),
      h.normal.resolve_left hm]

theorem unpack_packed_zero (sign : Sign) : (packed (.zero sign)).toModel.unpack = .zero sign := by
  cases sign <;> rfl

theorem eq_packed {x : Float} {f : Float.Model.UnpackedFloat}
    (h : x.toModel.toBits.toBitVec = Float.Model.UnpackedFloat.pack binary64 f) : x = packed f :=
  Float.toBits_inj.1 (UInt64.toBitVec_inj.1 h)

/-- Packing what a double unpacks to gives it back. -/
theorem eq_packed_unpack (x : Float) : x = packed x.toModel.unpack :=
  eq_packed (pack_unpack_of_valid x.toModel.valid).symm

/-- Finite doubles are packed zeros, and packings of canonical mantissas and exponents. -/
inductive Packed : Float → Prop
  | zero (sign : Sign) : Packed (packed (.zero sign))
  | finite (sign : Sign) {m : ℕ} {e : ℤ} (canonical : Canonical m e) (small : e ≤ 971) :
      Packed (packed (.finite sign m e canonical.pos))

theorem packed_settle {m : ℕ} {e : ℤ} (sign : Sign) (hm : m ≠ 0 → Canonical m e) (he : e ≤ 971) :
    Packed (packed (settle sign m e)) := by
  by_cases hzero : m = 0
  · rw [settle, dif_pos hzero]
    exact .zero sign
  · rw [(hm hzero).settle_eq]
    exact .finite sign (hm hzero) he

theorem packed_of_isFinite {x : Float} (hx : x.isFinite = true) : Packed x := by
  obtain ⟨sign, e, m, hbits⟩ : ∃ sign e m,
      packComponents binary64 sign e m = x.toModel.toBits.toBitVec :=
    ⟨_, _, _, packComponents_unpackSign_unpackExponent_unpackMantissa _⟩
  have hunpack : x.toModel.unpack
      = Float.Model.UnpackedFloat.unpack binary64 (packComponents binary64 sign e m) := by
    rw [hbits]
    rfl
  have hm : m.toNat < 2 ^ 52 := m.isLt
  have he : e.toNat < 2 ^ 11 := e.isLt
  have htop : e ≠ -1#11 := by
    -- these are the infinities and what is no number
    rintro rfl
    have hfinite : x.toModel.unpack.isFinite = true := hx
    rw [hunpack, Float.Model.UnpackedFloat.unpack] at hfinite
    simp only [unpackMantissa_packComponents, unpackExponent_packComponents, if_true] at hfinite
    split at hfinite <;> cases hfinite
  rw [eq_packed_unpack x, hunpack]
  by_cases hzero : e = 0#11
  · rw [hzero, unpack_subnormal]
    exact packed_settle sign (fun hne => ⟨by omega, by omega, le_rfl, .inr rfl⟩) (by decide)
  · have hpositive : e.toNat ≠ 0 := fun h => hzero (BitVec.eq_of_toNat_eq h)
    have hbelow : e.toNat ≠ 2047 := fun h => htop (BitVec.eq_of_toNat_eq h)
    rw [unpack_normal sign m hzero htop]
    exact packed_settle sign (fun _ => ⟨by omega, by omega, by omega, .inl (by omega)⟩) (by omega)

/-! ## What is read off a packed double -/

/-- Whether a sign is that of negative numbers. -/
def isNegative : Sign → Bool
  | .negative => true
  | .positive => false

theorem ofFloat_packed_zero (sign : Sign) :
    Binary.ofFloat (packed (.zero sign)) = .finite (isNegative sign) 0 (-1074) := by
  cases sign <;> decide

theorem ofFloat_packed_finite (h : Canonical m e) (he : e ≤ 971) (sign : Sign) :
    Binary.ofFloat (packed (.finite sign m e h.pos)) = .finite (isNegative sign) m e := by
  have hlt := h.lt
  have hexponent := h.exponent
  obtain ⟨scale, hscale, hbits⟩ : ∃ scale, scale = (if 2 ^ 52 ≤ m then (e + 1075).toNat else 0) ∧
      (packed (.finite sign m e h.pos)).toBits.toNat
        = sign.toBitVec.toNat * 2 ^ 63 + scale * 2 ^ 52 + m % 2 ^ 52 := by
    refine ⟨_, rfl, ?_⟩
    show (Float.Model.UnpackedFloat.pack binary64 _).toNat = _
    rw [pack_finite h he, toNat_packComponents, BitVec.toNat_ofNat]
    split
    · rw [BitVec.toNat_ofNat, Nat.mod_eq_of_lt (by omega)]
    · rfl
  have hsmall : scale < 2047 := by
    rw [hscale]
    split <;> omega
  have hsign : sign.toBitVec.toNat < 2 := sign.toBitVec.isLt
  have hfields : (packed (.finite sign m e h.pos)).toBits.toNat >>> 63 = sign.toBitVec.toNat ∧
      (packed (.finite sign m e h.pos)).toBits.toNat >>> 52 % 2048 = scale ∧
      (packed (.finite sign m e h.pos)).toBits.toNat % (1 <<< 52) = m % 2 ^ 52 := by
    rw [hbits, Nat.shiftRight_eq_div_pow, Nat.shiftRight_eq_div_pow, Nat.shiftLeft_eq]
    omega
  have hnegative : (sign.toBitVec.toNat == 1) = isNegative sign := by
    cases sign <;> rfl
  rw [Binary.ofFloat]
  simp only [hfields, hnegative]
  rw [if_neg hsmall.ne]
  by_cases hm : 2 ^ 52 ≤ m
  · rw [if_pos hm] at hscale
    rw [if_neg (by omega), Nat.shiftLeft_eq]
    congr 1
    · omega
    · omega
  · rw [if_neg hm] at hscale
    rw [if_pos hscale, Nat.mod_eq_of_lt (by omega), h.normal.resolve_left hm]

theorem neg_packed_finite (h : Canonical m e) (he : e ≤ 971) (sign : Sign) :
    -packed (.finite sign m e h.pos) = packed (.finite (-sign) m e h.pos) := by
  show Float.ofModel (.pack (packed _).toModel.unpack.neg) = _
  rw [unpack_packed_finite h he]
  rfl

theorem abs_packed_finite (h : Canonical m e) (he : e ≤ 971) (sign : Sign) :
    (packed (.finite sign m e h.pos)).abs = packed (.finite .positive m e h.pos) := by
  show Float.ofModel (.pack (packed _).toModel.unpack.abs) = _
  rw [unpack_packed_finite h he]
  rfl

theorem isInf_packed_finite (h : Canonical m e) (he : e ≤ 971) (sign : Sign) :
    (packed (.finite sign m e h.pos)).isInf = false := by
  show (packed _).toModel.unpack.isInf = false
  rw [unpack_packed_finite h he]
  rfl

theorem isFinite_packed_finite (h : Canonical m e) (he : e ≤ 971) (sign : Sign) :
    (packed (.finite sign m e h.pos)).isFinite = true := by
  show (packed _).toModel.unpack.isFinite = true
  rw [unpack_packed_finite h he]
  rfl

end Reckon.Number
