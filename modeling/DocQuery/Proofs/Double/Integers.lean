import DocQuery.Proofs.Double.Number
import DocQuery.Proofs.Double.Order
import DocQuery.Proofs.Double.Rounding

/-!
This module contains the proof that an integer is converted to the double that stands for what the integer is
rounded to.
-/

namespace DocQuery
namespace Double

open Float.Model
open Float.Model.UnpackedFloat

theorem shiftRight_succ (n k : Nat) :
    ExtendedMantissa.ofMantissaAndAccuracy n .exact >>> (k + 1)
      =
    ⟨n / 2 ^ (k + 1), n / 2 ^ k % 2 != 0, n % 2 ^ k != 0⟩ := by
  change (k + 1).repeat ExtendedMantissa.shiftRightOne ⟨n, false, false⟩ = _
  induction k with
  | zero => simp [Nat.repeat, ExtendedMantissa.shiftRightOne, Nat.mod_one]
  | succ k ih =>
    have hlow := Nat.mod_pow_succ (b := 2) (x := n) (k := k)
    rw [Nat.repeat, ih, ExtendedMantissa.shiftRightOne]
    dsimp only
    rw [Nat.div_div_eq_div_mul, ← Nat.pow_succ, hlow]
    congr 1
    grind

theorem roundedMantissa_shiftRight (n k : Nat) :
    (ExtendedMantissa.ofMantissaAndAccuracy n .exact >>> k).roundedMantissa = nearestQuotient n (2 ^ k) := by
  cases k with
  | zero => exact (nearestQuotient_one n).symm
  | succ k =>
    have hlow := Nat.mod_pow_succ (b := 2) (x := n) (k := k)
    have hlt : n % 2 ^ k < 2 ^ k := Nat.mod_lt _ (Nat.two_pow_pos k)
    have hbit : n / 2 ^ k % 2 = 0 ∨ n / 2 ^ k % 2 = 1 := by omega
    have hunit : 2 ^ (k + 1) = 2 * 2 ^ k := Nat.pow_succ'
    rw [shiftRight_succ, ExtendedMantissa.roundedMantissa, nearestQuotient, hlow]
    rcases hbit with hbit | hbit
    · rw [hbit, Nat.mul_zero, Nat.add_zero, if_pos (by omega)]
      cases n % 2 ^ k != 0 with
      | false | true => rfl
    · rw [hbit, Nat.mul_one, if_neg (by omega)]
      cases hzero : n % 2 ^ k != 0 with
      | false =>
        rw [bne_eq_false_iff_eq] at hzero
        rw [if_pos (by omega)]
        rfl
      | true =>
        rw [bne_iff_ne] at hzero
        rw [if_neg (by omega)]
        rfl

theorem shiftToTargetExponent_eq {n k : Nat} {e : Int} (hlog : n.log2 = 52 + k) (he : -1074 ≤ e + k) :
    shiftToTargetExponent .binary64 n e .exact
      =
    (ExtendedMantissa.ofMantissaAndAccuracy n .exact >>> k, e + k) := by
  have hmin : Format.binary64.minExponent = -1074 := rfl
  have hbits : Format.binary64.mantissaBits = 53 := rfl
  have htarget : Format.binary64.targetExponent (totalExponent n e) = e + k := by
    unfold Format.targetExponent totalExponent
    rw [hmin, hbits, hlog]
    omega
  have hshift : (e + k - e).toNat = k := by omega
  unfold shiftToTargetExponent shiftToExponent
  dsimp only
  rw [htarget, hshift]

theorem shiftToTargetExponent_carry {m : Nat} {e : Int} (hlow : 2 ^ 52 ≤ m) (hhigh : m ≤ 2 ^ 53)
    (he : -1074 ≤ e) :
    ∃ shifted exponent, shiftToTargetExponent .binary64 m e .exact = (shifted, exponent) ∧
      2 ^ 52 ≤ shifted.mantissa ∧ shifted.mantissa < 2 ^ 53 ∧ e ≤ exponent ∧ exponent ≤ e + 1 ∧
        magnitude shifted.mantissa exponent = magnitude m e := by
  cases Nat.eq_or_lt_of_le hhigh with
  | inl heq =>
    -- rounding carried into a bit too many
    subst heq
    have hlog : (2 ^ 53).log2 = 52 + 1 := Nat.log2_two_pow
    refine ⟨_, _, shiftToTargetExponent_eq hlog (by omega), ?_⟩
    rw [shiftRight_succ]
    refine ⟨by decide, by decide, by omega, by omega, ?_⟩
    change 2 ^ 52 * 2 ^ (e + 1 + 1074).toNat = 2 ^ 53 * 2 ^ (e + 1074).toNat
    rw [← Nat.pow_add, ← Nat.pow_add]
    congr 1
    omega
  | inr hlt =>
    have hlog : m.log2 = 52 + 0 := (Nat.log2_eq_iff (by omega)).mpr ⟨hlow, hlt⟩
    refine ⟨_, _, shiftToTargetExponent_eq hlog (by omega), ?_⟩
    exact ⟨hlow, hlt, by omega, by omega, by rw [Int.natCast_zero, Int.add_zero]; rfl⟩

def IsNormal : UnpackedFloat → Prop
  | .zero _ => True
  | .finite _ mantissa exponent _ =>
    2 ^ 52 ≤ mantissa ∧ mantissa < 2 ^ 53 ∧ -1074 ≤ exponent ∧ exponent ≤ 971
  | _ => False

theorem unpackSign_packComponents (spec : Format) (sign : Sign) (exponent : BitVec spec.exponentBits)
    (mantissa : BitVec spec.mantissaBitsWithoutImplicit) :
    unpackSign (packComponents spec sign exponent mantissa) = sign.toBitVec := by
  apply BitVec.eq_of_getLsbD_eq
  intro i hi
  have hi : i = 0 := by omega
  subst hi
  simp [unpackSign, packComponents, BitVec.getLsbD_append, BitVec.getElem_append]

theorem ofBitVec_toBitVec (sign : Sign) : Sign.ofBitVec sign.toBitVec = sign := by
  cases sign with
  | negative | positive => rfl

theorem unpack_packComponents (sign : Sign) {exponent : BitVec 11} (mantissa : BitVec 52)
    (hones : exponent ≠ -1#11) (hzeros : exponent ≠ 0#11) :
    UnpackedFloat.unpack .binary64 (packComponents .binary64 sign exponent mantissa)
      =
    .finite sign (2 ^ 52 + mantissa.toNat) (exponent.toNat - 1075) (by omega) := by
  have happend := toNat_one_append mantissa
  unfold UnpackedFloat.unpack
  dsimp only
  simp only [unpackExponent_packComponents, unpackMantissa_packComponents, unpackSign_packComponents,
    ofBitVec_toBitVec]
  rw [if_neg hones, if_neg hzeros]
  congr 1

theorem pack_finite {sign : Sign} {mantissa : Nat} {exponent : Int} (hpos : 0 < mantissa)
    (h : IsNormal (.finite sign mantissa exponent hpos)) :
    UnpackedFloat.pack .binary64 (.finite sign mantissa exponent hpos)
      =
    packComponents .binary64 sign (BitVec.ofNat 11 (exponent + 1075).toNat) (BitVec.ofNat 52 mantissa) := by
  rcases h with ⟨hlow, hhigh, hleast, hmost⟩
  have hbias : (Format.binary64.exponentBias : Int) = 1023 := rfl
  have hbits : Format.binary64.mantissaBits = 53 := rfl
  have hlog : mantissa.log2 = 52 := (Nat.log2_eq_iff (by omega)).mpr ⟨hlow, hhigh⟩
  have hbiased : (exponent + 1023 + (52 : Nat)).toNat = (exponent + 1075).toNat := by omega
  unfold UnpackedFloat.pack
  dsimp only
  rw [hbias, hlog, hbits, hbiased, if_neg (by omega), if_pos rfl]

theorem unpack_pack_finite {sign : Sign} {mantissa : Nat} {exponent : Int} (hpos : 0 < mantissa)
    (h : IsNormal (.finite sign mantissa exponent hpos)) :
    UnpackedFloat.unpack .binary64 (UnpackedFloat.pack .binary64 (.finite sign mantissa exponent hpos))
      =
    .finite sign mantissa exponent hpos := by
  rw [pack_finite hpos h]
  rcases h with ⟨hlow, hhigh, hleast, hmost⟩
  have hfield : (BitVec.ofNat 11 (exponent + 1075).toNat).toNat = (exponent + 1075).toNat := by
    rw [BitVec.toNat_ofNat, Nat.mod_eq_of_lt (by omega)]
  have hmantissa : 2 ^ 52 + (BitVec.ofNat 52 mantissa).toNat = mantissa := by
    rw [BitVec.toNat_ofNat]
    omega
  have hne : ∀ field : BitVec 11, field.toNat = 0 ∨ field.toNat = 2047 →
      BitVec.ofNat 11 (exponent + 1075).toNat ≠ field := by
    intro field h heq
    rw [← heq, hfield] at h
    omega
  rw [unpack_packComponents sign _ (hne _ (Or.inr rfl)) (hne _ (Or.inl rfl))]
  simp only [hfield, hmantissa]
  congr 1
  omega

theorem unpack_pack {a : UnpackedFloat} (h : IsNormal a) :
    UnpackedFloat.unpack .binary64 (UnpackedFloat.pack .binary64 a) = a := by
  cases a with
  | notANumber | infinity => cases h
  | zero sign =>
    cases sign with
    | negative | positive => rfl
  | finite sign mantissa exponent hpos => exact unpack_pack_finite hpos h

theorem log2_shiftLeft {n : Nat} (hn : n ≠ 0) (k : Nat) : (n <<< k).log2 = n.log2 + k := by
  induction k with
  | zero => rfl
  | succ k ih =>
    have hne : n <<< k ≠ 0 := by
      rw [Nat.shiftLeft_eq]
      exact Nat.mul_ne_zero hn (Nat.two_pow_pos k).ne'
    rw [Nat.shiftLeft_succ, Nat.log2_two_mul hne, ih, Nat.add_assoc]

theorem nearestQuotient_bounds {n k : Nat} (hlog : n.log2 = 52 + k) :
    2 ^ 52 ≤ nearestQuotient n (2 ^ k) ∧ nearestQuotient n (2 ^ k) ≤ 2 ^ 53 := by
  have hunit := Nat.two_pow_pos k
  have hn : n ≠ 0 := by
    intro hzero
    rw [hzero, Nat.log2_zero] at hlog
    omega
  have hlow : 2 ^ 52 * 2 ^ k ≤ n := by
    rw [← Nat.pow_add, ← hlog]
    exact Nat.log2_self_le hn
  have hhigh : n ≤ 2 ^ 53 * 2 ^ k := by
    rw [← Nat.pow_add]
    apply Nat.le_of_lt
    rw [← Nat.log2_lt hn]
    omega
  constructor
  · rw [← nearestQuotient_mul (2 ^ 52) hunit]
    exact nearestQuotient_mono _ hlow
  · rw [← nearestQuotient_mul (2 ^ 53) hunit]
    exact nearestQuotient_mono _ hhigh

def unitsInOne : Nat := 2 ^ 1074

theorem unitsInOne_pos : 0 < unitsInOne := by
  unfold unitsInOne
  apply Nat.two_pow_pos

theorem magnitude_nearestQuotient (n : Nat) :
    magnitude (nearestQuotient (n <<< (52 - n.log2)) (spacing n)) (n.log2 - 52)
      =
    nearestNat n * unitsInOne := by
  unfold magnitude nearestNat
  cases Nat.le_total 52 n.log2 with
  | inl hle =>
    have hpower : 2 ^ ((n.log2 : Int) - 52 + 1074).toNat = spacing n * unitsInOne := by
      rw [spacing, unitsInOne, ← Nat.pow_add]
      congr 1
      omega
    rw [Nat.sub_eq_zero_of_le hle, Nat.shiftLeft_zero, hpower, Nat.mul_assoc]
  | inr hle =>
    -- the bits that are put at the end to make it 53 are no part of the size
    have hspacing : spacing n = 1 := by rw [spacing, Nat.sub_eq_zero_of_le hle, Nat.pow_zero]
    have hpower : 2 ^ (52 - n.log2) * 2 ^ ((n.log2 : Int) - 52 + 1074).toNat = unitsInOne := by
      rw [unitsInOne, ← Nat.pow_add]
      congr 1
      omega
    rw [hspacing, nearestQuotient_one, nearestQuotient_one, Nat.shiftLeft_eq, Nat.mul_assoc, hpower,
      Nat.mul_one]

theorem round_natCast (sign : Sign) {n : Nat} (hn : n ≠ 0) (hlt : n < 2 ^ 64) :
    ∃ mantissa exponent, ∃ hpos : 0 < mantissa,
      UnpackedFloat.round .binary64 sign n 0 = .finite sign mantissa exponent hpos ∧
        IsNormal (.finite sign mantissa exponent hpos) ∧
        magnitude mantissa exponent = nearestNat n * unitsInOne := by
  have hmin : Format.binary64.minExponent = -1074 := rfl
  have hbits : Format.binary64.mantissaBits = 53 := rfl
  have hlog : n.log2 < 64 := (Nat.log2_lt hn).mpr hlt
  have htarget : Format.binary64.targetExponent (totalExponent n 0) = (n.log2 : Int) - 52 := by
    unfold Format.targetExponent totalExponent
    rw [hmin, hbits]
    omega
  have hshift : (0 - ((n.log2 : Int) - 52)).toNat = 52 - n.log2 := by omega
  have hexponent : (0 : Int) - (52 - n.log2 : Nat) + (n.log2 - 52 : Nat) = n.log2 - 52 := by omega
  have hshifted : (n <<< (52 - n.log2)).log2 = 52 + (n.log2 - 52) := by
    rw [log2_shiftLeft hn]
    omega
  have hbounds := nearestQuotient_bounds hshifted
  -- the first shift leaves 53 bits to be rounded, the second one takes a carry away
  obtain ⟨carried, exponent, hcarry, hlow, hhigh, hleast, hmost, hmagnitude⟩ :=
    shiftToTargetExponent_carry hbounds.1 hbounds.2 (by omega : -1074 ≤ (n.log2 : Int) - 52)
  unfold UnpackedFloat.round decreaseExponent
  dsimp only
  rw [htarget, hshift]
  unfold roundWithAccuracy
  rw [shiftToTargetExponent_eq hshifted (by omega)]
  dsimp only
  rw [roundedMantissa_shiftRight, hexponent, hcarry]
  dsimp only
  refine ⟨carried.mantissa, exponent, by omega, dif_neg (by omega), ⟨hlow, hhigh, by omega, by omega⟩, ?_⟩
  rw [hmagnitude]
  apply magnitude_nearestQuotient

theorem isNormal_neg {a : UnpackedFloat} (h : IsNormal a) : IsNormal a.neg := by
  cases a with
  | notANumber | infinity => cases h
  | zero => trivial
  | finite => exact h

theorem unpackedUnits_neg (a : UnpackedFloat) : unpackedUnits a.neg = -unpackedUnits a := by
  have hsign : ∀ (sign : Sign) (n : Int), (-sign).apply n = -sign.apply n := by
    intro sign n
    cases sign with
    | negative => exact (Int.neg_neg n).symm
    | positive => rfl
  cases a with
  | notANumber | zero => rfl
  | infinity sign => apply hsign
  | finite sign => apply hsign

theorem ofNat_spec {n : Nat} (hlt : n < 2 ^ 64) :
    IsNormal (UnpackedFloat.ofNat .binary64 n) ∧
      unpackedUnits (UnpackedFloat.ofNat .binary64 n) = (nearestNat n * unitsInOne : Nat) := by
  cases n with
  | zero =>
    have hzero : nearestNat 0 = 0 := rfl
    rw [hzero, Nat.zero_mul]
    exact ⟨trivial, rfl⟩
  | succ n =>
    obtain ⟨mantissa, exponent, hpos, hround, hnormal, hmagnitude⟩ :=
      round_natCast .positive (Nat.succ_ne_zero n) hlt
    have heq : UnpackedFloat.ofNat .binary64 (n + 1) = .finite .positive mantissa exponent hpos := hround
    rw [heq, ← hmagnitude]
    exact ⟨hnormal, rfl⟩

theorem unpack_toFloat (word : UInt64) :
    word.toFloat.toModel.unpack = UnpackedFloat.ofNat .binary64 word.toNat :=
  unpack_pack (ofNat_spec word.toNat_lt).1

theorem unpack_neg {x : Float} (h : IsNormal x.toModel.unpack) :
    (-x).toModel.unpack = x.toModel.unpack.neg :=
  unpack_pack (isNormal_neg h)

theorem units_toFloat (word : UInt64) : units word.toFloat = nearest word.toNat * unitsInOne := by
  rw [units, unpack_toFloat, (ofNat_spec word.toNat_lt).2, nearest_natCast, Int.natCast_mul]

theorem units_ofInt {n : Int} (h : n.natAbs < 2 ^ 64) : units (ofInt n) = nearest n * unitsInOne := by
  have hword : (UInt64.ofNat n.natAbs).toNat = n.natAbs := UInt64.toNat_ofNat_of_lt' h
  have hunits := units_toFloat (UInt64.ofNat n.natAbs)
  rw [hword] at hunits
  unfold ofInt
  split
  · next hneg =>
    have hnormal : IsNormal (UInt64.ofNat n.natAbs).toFloat.toModel.unpack := by
      rw [unpack_toFloat]
      exact (ofNat_spec (UInt64.toNat_lt _)).1
    have hn : n = -(n.natAbs : Int) := by omega
    rw [units] at hunits
    rw [units, unpack_neg hnormal, unpackedUnits_neg, hunits, ← Int.neg_mul, ← nearest_neg, ← hn]
  · have hn : (n.natAbs : Int) = n := by omega
    rw [hunits, hn]

section

variable {a b : Int} (ha : a.natAbs < 2 ^ 64) (hb : b.natAbs < 2 ^ 64)

include ha hb

theorem compare?_ofInt : compare? (ofInt a) (ofInt b) = some (compare (nearest a) (nearest b)) := by
  have hpos : (0 : Int) < unitsInOne := Int.natCast_pos.mpr unitsInOne_pos
  have hcompare := cmp_mul_pos_right hpos (nearest a) (nearest b)
  rw [cmp_eq_compare, cmp_eq_compare] at hcompare
  rw [compare?_eq (isNaN_ofInt a) (isNaN_ofInt b), units_ofInt ha, units_ofInt hb, hcompare]

theorem beq_ofInt : (ofInt a == ofInt b) = (nearest a == nearest b) := by
  have hne : (unitsInOne : Int) ≠ 0 := (Int.natCast_pos.mpr unitsInOne_pos).ne'
  rw [Bool.eq_iff_iff, beq_iff_units_eq (isNaN_ofInt a) (isNaN_ofInt b), units_ofInt ha, units_ofInt hb,
    Int.mul_eq_mul_right_iff hne, beq_iff_eq]

end

end Double
end DocQuery
