import DocQuery.Double.Parts
import Mathlib

/-!
This module contains the exact numbers that doubles stand for, and the proof that doubles are compared as
these numbers are.
-/

namespace DocQuery
namespace Double

open Float.Model
open Float.Model.UnpackedFloat

def IsCanonical : UnpackedFloat → Prop
  | .finite _ mantissa exponent _ =>
    mantissa < 2 ^ 53 ∧ -1074 ≤ exponent ∧ exponent ≤ 971 ∧ (2 ^ 52 ≤ mantissa ∨ exponent = -1074)
  | _ => True

theorem toNat_one_append (mantissa : BitVec 52) : (1#1 ++ mantissa).toNat = 2 ^ 52 + mantissa.toNat := by
  rw [BitVec.toNat_append, ← Nat.shiftLeft_add_eq_or_of_lt mantissa.isLt]
  rfl

theorem isCanonical_unpack (bits : BitVec Format.binary64.numBits) :
    IsCanonical (UnpackedFloat.unpack Format.binary64 bits) := by
  have hexponent := (unpackExponent bits).isLt
  have hmantissa := (unpackMantissa bits).isLt
  have hbias : (Format.binary64.exponentBias : Int) = 1023 := rfl
  unfold UnpackedFloat.unpack
  dsimp only at hexponent hmantissa ⊢
  split
  · split <;> trivial
  · next hspecial =>
    have hfinite : (unpackExponent bits).toNat ≠ 2047 := by
      intro h
      apply hspecial
      apply BitVec.eq_of_toNat_eq
      rw [h]
      rfl
    split
    · split
      · trivial
      · next hzero _ =>
        rw [hzero, hbias]
        refine ⟨by omega, ?_, ?_, Or.inr ?_⟩
        all_goals decide
    · next hzero =>
      have hpositive : (unpackExponent bits).toNat ≠ 0 := fun h => hzero (BitVec.eq_of_toNat_eq h)
      have happend := toNat_one_append (unpackMantissa bits)
      rw [hbias]
      refine ⟨?_, ?_, ?_, Or.inl ?_⟩
      all_goals omega

def magnitude (mantissa : Nat) (exponent : Int) : Nat := mantissa * 2 ^ (exponent + 1074).toNat

def infiniteMagnitude : Nat := 2 ^ 2098

theorem infiniteMagnitude_pos : 0 < infiniteMagnitude := by
  unfold infiniteMagnitude
  apply Nat.two_pow_pos

def unpackedUnits : UnpackedFloat → Int
  | .notANumber => 0
  | .infinity sign => sign.apply infiniteMagnitude
  | .zero _ => 0
  | .finite sign mantissa exponent _ => sign.apply (magnitude mantissa exponent)

def units (x : Float) : Int := unpackedUnits x.toModel.unpack

theorem magnitude_pos {mantissa : Nat} (exponent : Int) (h : 0 < mantissa) :
    0 < magnitude mantissa exponent := by
  apply Nat.mul_pos h
  apply Nat.two_pow_pos

theorem magnitude_lt_of_le {mantissa : Nat} {exponent : Int} (hmantissa : mantissa < 2 ^ 53)
    {power : Nat} (hpower : 53 + (exponent + 1074).toNat ≤ power) :
    magnitude mantissa exponent < 2 ^ power := by
  have hpos := Nat.two_pow_pos (exponent + 1074).toNat
  calc
    mantissa * 2 ^ (exponent + 1074).toNat < 2 ^ 53 * 2 ^ (exponent + 1074).toNat :=
      Nat.mul_lt_mul_of_pos_right hmantissa hpos
    _ = 2 ^ (53 + (exponent + 1074).toNat) := (Nat.pow_add 2 53 _).symm
    _ ≤ 2 ^ power := Nat.pow_le_pow_right Nat.two_pos hpower

theorem magnitude_lt_of_exponent_lt {m n : Nat} {e f : Int} (hm : m < 2 ^ 53) (hn : 2 ^ 52 ≤ n)
    (he : -1074 ≤ e) (h : e < f) : magnitude m e < magnitude n f := by
  -- a power of two lies between them, since the larger one has its leading bit
  calc
    magnitude m e < 2 ^ (52 + (f + 1074).toNat) := magnitude_lt_of_le hm (by omega)
    _ = 2 ^ 52 * 2 ^ (f + 1074).toNat := Nat.pow_add 2 52 _
    _ ≤ magnitude n f := Nat.mul_le_mul_right _ hn

theorem compare_magnitude {s t : Sign} {m n : Nat} {e f : Int} {hm : 0 < m} {hn : 0 < n}
    (ha : IsCanonical (.finite s m e hm)) (hb : IsCanonical (.finite t n f hn)) :
    (compare e f).then (compare m n) = compare (magnitude m e) (magnitude n f) := by
  rcases ha with ⟨hm, he, -, ha⟩
  rcases hb with ⟨hn, hf, -, hb⟩
  rcases lt_trichotomy e f with h | h | h
  · have hlt := magnitude_lt_of_exponent_lt hm (by omega : 2 ^ 52 ≤ n) he h
    rw [compare_lt_iff_lt.mpr h, compare_lt_iff_lt.mpr hlt]
    rfl
  · have hpos := Nat.two_pow_pos (f + 1074).toNat
    have hcompare := cmp_mul_pos_right hpos m n
    rw [cmp_eq_compare, cmp_eq_compare] at hcompare
    rw [h, compare_eq_iff_eq.mpr rfl]
    exact hcompare.symm
  · have hgt := magnitude_lt_of_exponent_lt hn (by omega : 2 ^ 52 ≤ m) hf h
    rw [compare_gt_iff_gt.mpr h, compare_gt_iff_gt.mpr hgt]
    rfl

theorem unpackedUnits_lt_infinite {a : UnpackedFloat} (ha : IsCanonical a)
    (hfinite : ∀ sign, a = .infinity sign → False) :
    -(infiniteMagnitude : Int) < unpackedUnits a ∧ unpackedUnits a < infiniteMagnitude := by
  have hpos := infiniteMagnitude_pos
  cases a with
  | notANumber | zero =>
    simp only [unpackedUnits]
    omega
  | infinity sign => exact absurd rfl (hfinite sign)
  | finite sign mantissa exponent h =>
    rcases ha with ⟨hmantissa, hlow, hhigh, -⟩
    have hlt : magnitude mantissa exponent < infiniteMagnitude :=
      magnitude_lt_of_le hmantissa (by omega)
    cases sign with
    | negative | positive =>
      simp only [unpackedUnits, Sign.apply]
      omega

theorem compare_natCast (m n : Nat) : compare (m : Int) n = compare m n := by
  have h := (Nat.strictMono_cast (α := Int)).cmp_map_eq m n
  rwa [cmp_eq_compare, cmp_eq_compare] at h

theorem compare_neg (m n : Int) : compare (-m) (-n) = compare n m := by
  have hanti : StrictAnti fun n : Int => -n := fun _ _ => neg_lt_neg
  have h := hanti.cmp_map_eq m n
  rwa [cmp_eq_compare, cmp_eq_compare] at h

theorem compare_eq {a b : UnpackedFloat} (ha : IsCanonical a) (hb : IsCanonical b)
    (hna : a.isNaN = false) (hnb : b.isNaN = false) :
    a.compare b = some (compare (unpackedUnits a) (unpackedUnits b)) := by
  have hlt : ∀ {m n : Int}, m < n → some Ordering.lt = some (compare m n) := by
    intro m n h
    rw [compare_lt_iff_lt.mpr h]
  have hgt : ∀ {m n : Int}, n < m → some Ordering.gt = some (compare m n) := by
    intro m n h
    rw [compare_gt_iff_gt.mpr h]
  have heq : ∀ {m : Int}, some Ordering.eq = some (compare m m) := by
    intro m
    rw [compare_eq_iff_eq.mpr rfl]
  have hinfinite := infiniteMagnitude_pos
  -- the infinities lie beyond all finite numbers, and two finite ones of one sign go by their magnitude
  fun_cases UnpackedFloat.compare a b with
  | case1 => cases hna
  | case2 => cases hnb
  | case3 s t =>
    cases s with
    | negative =>
      cases t with
      | negative => exact heq
      | positive => exact hlt (by simp only [unpackedUnits, Sign.apply]; omega)
    | positive =>
      cases t with
      | negative => exact hgt (by simp only [unpackedUnits, Sign.apply]; omega)
      | positive => exact heq
  | case4 b hnumber hfinite => exact hgt (unpackedUnits_lt_infinite hb hfinite).2
  | case5 b hnumber hfinite => exact hlt (unpackedUnits_lt_infinite hb hfinite).1
  | case6 a hnumber hfinite => exact hlt (unpackedUnits_lt_infinite ha hfinite).2
  | case7 a hnumber hfinite => exact hgt (unpackedUnits_lt_infinite ha hfinite).1
  | case8 m e hm =>
    have hpos := magnitude_pos e hm
    exact hgt (by simp only [unpackedUnits, Sign.apply]; omega)
  | case9 m e hm =>
    have hpos := magnitude_pos e hm
    exact hlt (by simp only [unpackedUnits, Sign.apply]; omega)
  | case10 t m e hm =>
    have hpos := magnitude_pos e hm
    exact hlt (by simp only [unpackedUnits, Sign.apply]; omega)
  | case11 t m e hm =>
    have hpos := magnitude_pos e hm
    exact hgt (by simp only [unpackedUnits, Sign.apply]; omega)
  | case12 => exact heq
  | case13 m e hm n f hn =>
    rw [compare_magnitude ha hb, ← Std.OrientedOrd.eq_swap, ← compare_natCast, ← compare_neg]
    rfl
  | case14 m e hm n f hn =>
    have hpos := magnitude_pos e hm
    exact hlt (by simp only [unpackedUnits, Sign.apply]; omega)
  | case15 m e hm n f hn =>
    have hpos := magnitude_pos e hm
    exact hgt (by simp only [unpackedUnits, Sign.apply]; omega)
  | case16 m e hm n f hn =>
    rw [compare_magnitude ha hb, ← compare_natCast]
    rfl

theorem lt_iff {x y : Float} : x < y ↔ x.toModel.unpack.compare y.toModel.unpack = some .lt := by
  change decide (x.toModel < y.toModel) = true ↔ _
  rw [decide_eq_true_iff]
  exact beq_iff_eq

theorem beq_iff {x y : Float} : (x == y) = true ↔ x.toModel.unpack.compare y.toModel.unpack = some .eq := by
  change (x.toModel.unpack.compare y.toModel.unpack == some .eq) = true ↔ _
  exact beq_iff_eq

section

variable {x y : Float} (hx : x.isNaN = false) (hy : y.isNaN = false)

include hx hy

theorem unpack_compare_eq :
    x.toModel.unpack.compare y.toModel.unpack = some (compare (units x) (units y)) := by
  apply compare_eq
  · apply isCanonical_unpack
  · apply isCanonical_unpack
  · exact hx
  · exact hy

theorem lt_iff_units_lt : x < y ↔ units x < units y := by
  rw [lt_iff, unpack_compare_eq hx hy, Option.some_inj, compare_lt_iff_lt]

theorem beq_iff_units_eq : (x == y) = true ↔ units x = units y := by
  rw [beq_iff, unpack_compare_eq hx hy, Option.some_inj, compare_eq_iff_eq]

theorem compare?_eq : compare? x y = some (compare (units x) (units y)) := by
  have hlt := lt_iff_units_lt hx hy
  have heq := beq_iff_units_eq hx hy
  have hgt := lt_iff_units_lt hy hx
  unfold compare?
  rcases lt_trichotomy (units x) (units y) with h | h | h
  · rw [if_pos (hlt.mpr h), compare_lt_iff_lt.mpr h]
  · rw [if_neg (mt hlt.mp (by omega)), if_pos (heq.mpr h), compare_eq_iff_eq.mpr h]
  · rw [if_neg (mt hlt.mp (by omega)), if_neg (mt heq.mp (by omega)), if_pos (hgt.mpr h),
      compare_gt_iff_gt.mpr h]

end

theorem unpack_of_isNaN {x : Float} (h : x.isNaN = true) : x.toModel.unpack = .notANumber := by
  have h : x.toModel.unpack.isNaN = true := h
  revert h
  cases x.toModel.unpack <;> simp [UnpackedFloat.isNaN]

theorem compare?_of_isNaN {x y : Float} (h : x.isNaN = true ∨ y.isNaN = true) : compare? x y = none := by
  have hnone : ∀ a b : UnpackedFloat, a = .notANumber ∨ b = .notANumber → a.compare b = none := by
    rintro a b (rfl | rfl)
    · rfl
    · cases a <;> rfl
  have hxy := hnone x.toModel.unpack y.toModel.unpack (h.imp unpack_of_isNaN unpack_of_isNaN)
  have hyx := hnone y.toModel.unpack x.toModel.unpack (h.symm.imp unpack_of_isNaN unpack_of_isNaN)
  unfold compare?
  rw [if_neg, if_neg, if_neg]
  · rw [lt_iff, hyx]
    nofun
  · rw [beq_iff, hxy]
    nofun
  · rw [lt_iff, hxy]
    nofun

theorem compare?_swap (x y : Float) : compare? y x = (compare? x y).map Ordering.swap := by
  by_cases h : x.isNaN = true ∨ y.isNaN = true
  · rw [compare?_of_isNaN h, compare?_of_isNaN h.symm]
    rfl
  · rw [not_or, Bool.not_eq_true, Bool.not_eq_true] at h
    rw [compare?_eq h.1 h.2, compare?_eq h.2 h.1, Option.map_some, ← Std.OrientedOrd.eq_swap]

end Double
end DocQuery
