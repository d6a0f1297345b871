import DocQuery.Double.Parts
import Mathlib

/-!
This module contains the fact that integers are converted to doubles that are numbers.
-/

namespace DocQuery
namespace Double

open Float.Model

theorem packComponents_ne_packedNaN (spec : Format) (sign : UnpackedFloat.Sign)
    (exponent : BitVec spec.exponentBits) (mantissa : BitVec spec.mantissaBitsWithoutImplicit)
    (h : exponent ≠ -1#_ ∨ mantissa = 0#_) :
    UnpackedFloat.packComponents spec sign exponent mantissa ≠ UnpackedFloat.packedNaN spec := by
  intro heq
  have hnan := @UnpackedFloat.isNaNBits_packedNaN spec
  rw [← heq, UnpackedFloat.isNaNBits, decide_eq_true_eq] at hnan
  rw [UnpackedFloat.unpackExponent_packComponents, UnpackedFloat.unpackMantissa_packComponents] at hnan
  cases h with
  | inl h => exact h hnan.1
  | inr h => exact hnan.2 h

theorem pack_ne_packedNaN (spec : Format) {a : UnpackedFloat} (h : a.isNaN = false) :
    UnpackedFloat.pack spec a ≠ UnpackedFloat.packedNaN spec := by
  have hones : (BitVec.allOnes spec.exponentBits).toNat = 2 ^ spec.exponentBits - 1 :=
    BitVec.toNat_allOnes
  have htwo : 2 ^ 1 ≤ 2 ^ spec.exponentBits := Nat.pow_le_pow_right Nat.two_pos spec.he
  fun_cases UnpackedFloat.pack with
  | case1 => cases h
  -- infinities and zeros have an empty mantissa, the others an exponent that is not all ones
  | case2 | case3 | case4 => exact packComponents_ne_packedNaN _ _ _ _ (Or.inr rfl)
  | case5 s m e hm actualMantissaBits biasedExponent hsmall =>
    apply packComponents_ne_packedNaN
    apply Or.inl
    rw [BitVec.neg_one_eq_allOnes]
    intro he
    have he := congrArg BitVec.toNat he
    rw [BitVec.toNat_ofNat, hones, Nat.mod_eq_of_lt] at he
    · omega
    · omega
  | case6 =>
    apply packComponents_ne_packedNaN
    apply Or.inl
    rw [BitVec.neg_one_eq_allOnes]
    intro he
    have he := congrArg BitVec.toNat he
    rw [BitVec.toNat_ofNat, hones, Nat.zero_mod] at he
    omega

theorem isNaN_unpack_pack {a : UnpackedFloat} (h : a.isNaN = false) :
    (UnpackedFloat.unpack .binary64 (UnpackedFloat.pack .binary64 a)).isNaN = false := by
  rw [Bool.eq_false_iff, ne_eq, UnpackedFloat.isNaN_unpack_iff_of_valid UnpackedFloat.valid_pack]
  exact pack_ne_packedNaN .binary64 h

theorem isNaN_round (spec : Format) (sign : UnpackedFloat.Sign) (mantissa : Nat) (exponent : Int) :
    (UnpackedFloat.round spec sign mantissa exponent).isNaN = false := by
  unfold UnpackedFloat.round UnpackedFloat.roundWithAccuracy
  dsimp only
  split <;> rfl

theorem isNaN_normalize (spec : Format) (mantissa exponent : Int) (zero : UnpackedFloat.Sign) :
    (UnpackedFloat.normalize spec mantissa exponent zero).isNaN = false := by
  unfold UnpackedFloat.normalize
  split
  · apply isNaN_round
  · rfl
  · apply isNaN_round

theorem isNaN_toFloat (n : UInt64) : n.toFloat.isNaN = false := by
  apply isNaN_unpack_pack
  apply isNaN_normalize

theorem isNaN_neg {x : Float} (h : x.isNaN = false) : (-x).isNaN = false := by
  apply isNaN_unpack_pack
  have h : x.toModel.unpack.isNaN = false := h
  revert h
  cases x.toModel.unpack <;> exact id

theorem isNaN_ofInt (n : Int) : (ofInt n).isNaN = false := by
  unfold ofInt
  split
  · apply isNaN_neg
    apply isNaN_toFloat
  · apply isNaN_toFloat

theorem beq_self {x : Float} (h : x.isNaN = false) : (x == x) = true := by
  rw [Float.isNaN_eq_decide_eq_nan, decide_eq_false_iff_not] at h
  exact Float.beq_self_iff.mpr h

end Double
end DocQuery
