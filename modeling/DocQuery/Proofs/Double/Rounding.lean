import Mathlib

/-!
This module contains the rounding of integers to 53 significant bits. It keeps their order, it moves none of
them by more than half the distance between two such numbers, and it keeps those that have no more bits.
-/

namespace DocQuery
namespace Double

def nearestQuotient (n unit : Nat) : Nat :=
  if 2 * (n % unit) < unit then
    n / unit
  else if 2 * (n % unit) = unit then
    n / unit + n / unit % 2
  else
    n / unit + 1

def spacing (n : Nat) : Nat := 2 ^ (n.log2 - 52)

def nearestNat (n : Nat) : Nat := nearestQuotient n (spacing n) * spacing n

/--
The number that is nearest to an integer among those with 53 significant bits. Ties go to the one whose last
bit is zero.
-/
def nearest (n : Int) : Int := n.sign * nearestNat n.natAbs

theorem spacing_pos (n : Nat) : 0 < spacing n := Nat.two_pow_pos _

theorem div_le_nearestQuotient (n unit : Nat) : n / unit ≤ nearestQuotient n unit := by
  unfold nearestQuotient
  split
  · omega
  · split <;> omega

theorem nearestQuotient_le_succ (n unit : Nat) : nearestQuotient n unit ≤ n / unit + 1 := by
  unfold nearestQuotient
  split
  · omega
  · split <;> omega

theorem nearestQuotient_mul (m : Nat) {unit : Nat} (h : 0 < unit) :
    nearestQuotient (m * unit) unit = m := by
  unfold nearestQuotient
  rw [Nat.mul_mod_left, Nat.mul_div_left m h, if_pos h]

theorem nearestQuotient_one (n : Nat) : nearestQuotient n 1 = n := by
  have hmul := nearestQuotient_mul n Nat.one_pos
  rwa [Nat.mul_one] at hmul

theorem nearestQuotient_mono {m n : Nat} (unit : Nat) (h : m ≤ n) :
    nearestQuotient m unit ≤ nearestQuotient n unit := by
  have hm := Nat.div_add_mod m unit
  have hn := Nat.div_add_mod n unit
  have hquotient : m / unit ≤ n / unit := Nat.div_le_div_right h
  cases Nat.eq_or_lt_of_le hquotient with
  | inl heq =>
    rw [heq] at hm
    have hremainder : m % unit ≤ n % unit := by omega
    unfold nearestQuotient
    rw [heq]
    split_ifs <;> omega
  | inr hlt =>
    have hupper := nearestQuotient_le_succ m unit
    have hlower := div_le_nearestQuotient n unit
    omega

theorem distance_nearestQuotient (n : Nat) {unit : Nat} (h : 0 < unit) :
    2 * (nearestQuotient n unit * unit) ≤ 2 * n + unit ∧
      2 * n ≤ 2 * (nearestQuotient n unit * unit) + unit := by
  have hn := Nat.div_add_mod' n unit
  have hlt := Nat.mod_lt n h
  have heven : n / unit % 2 = 0 ∨ n / unit % 2 = 1 := by omega
  unfold nearestQuotient
  split
  · omega
  · split
    · rcases heven with heven | heven
      · rw [heven, Nat.add_zero]
        omega
      · rw [heven, Nat.add_mul]
        omega
    · rw [Nat.add_mul]
      omega

theorem two_pow_le_nearestNat {n k : Nat} (h : 2 ^ k ≤ n) : 2 ^ k ≤ nearestNat n := by
  have hn : n ≠ 0 := by
    have hpos := Nat.two_pow_pos k
    omega
  have hk : k ≤ n.log2 := (Nat.le_log2 hn).mpr h
  have hpower : 2 ^ n.log2 = 2 ^ (n.log2 - (n.log2 - 52)) * spacing n := by
    rw [spacing, ← Nat.pow_add]
    congr 1
    omega
  -- the spacing divides the power of two, which is therefore rounded to itself
  calc
    2 ^ k ≤ 2 ^ n.log2 := Nat.pow_le_pow_right Nat.two_pos hk
    _ = nearestQuotient (2 ^ n.log2) (spacing n) * spacing n := by
      rw [hpower, nearestQuotient_mul _ (spacing_pos n)]
    _ ≤ nearestNat n := by
      apply Nat.mul_le_mul_right
      apply nearestQuotient_mono
      exact Nat.log2_self_le hn

theorem nearestNat_le_two_pow {n k : Nat} (h : n < 2 ^ k) : nearestNat n ≤ 2 ^ k := by
  by_cases hn : n = 0
  · subst hn
    exact Nat.zero_le _
  · have hk : n.log2 < k := (Nat.log2_lt hn).mpr h
    have hpower : 2 ^ k = 2 ^ (k - (n.log2 - 52)) * spacing n := by
      rw [spacing, ← Nat.pow_add]
      congr 1
      omega
    calc
      nearestNat n ≤ nearestQuotient (2 ^ k) (spacing n) * spacing n := by
        apply Nat.mul_le_mul_right
        apply nearestQuotient_mono
        exact Nat.le_of_lt h
      _ = 2 ^ k := by rw [hpower, nearestQuotient_mul _ (spacing_pos n)]

theorem nearestNat_mono {m n : Nat} (h : m ≤ n) : nearestNat m ≤ nearestNat n := by
  by_cases hm : m = 0
  · subst hm
    exact Nat.zero_le _
  · have hlog : m.log2 ≤ n.log2 := by
      rw [Nat.le_log2 (by omega)]
      exact Nat.le_trans (Nat.log2_self_le hm) h
    cases Nat.eq_or_lt_of_le hlog with
    | inl heq =>
      unfold nearestNat spacing
      rw [heq]
      apply Nat.mul_le_mul_right
      exact nearestQuotient_mono _ h
    | inr hlt =>
      -- a power of two lies between the two numbers, and neither is rounded across it
      calc
        nearestNat m ≤ 2 ^ n.log2 := nearestNat_le_two_pow ((Nat.log2_lt hm).mp hlt)
        _ ≤ nearestNat n := two_pow_le_nearestNat (Nat.log2_self_le (by omega))

theorem nearestNat_eq_self {n : Nat} (h : n ≤ 2 ^ 53) : nearestNat n = n := by
  cases Nat.eq_or_lt_of_le h with
  | inl heq =>
    subst heq
    decide
  | inr hlt =>
    have hspacing : spacing n = 1 := by
      by_cases hn : n = 0
      · subst hn
        decide
      · have hlog : n.log2 < 53 := (Nat.log2_lt hn).mpr hlt
        rw [spacing, Nat.sub_eq_zero_of_le (by omega), Nat.pow_zero]
    rw [nearestNat, hspacing, nearestQuotient_one, Nat.mul_one]

theorem nearest_natCast (n : Nat) : nearest n = nearestNat n := by
  unfold nearest
  rw [Int.natAbs_natCast]
  cases n with
  | zero => rfl
  | succ n => rw [Int.sign_eq_one_of_pos (by omega), Int.one_mul]

theorem nearest_neg (n : Int) : nearest (-n) = -nearest n := by
  rw [nearest, nearest, Int.sign_neg, Int.natAbs_neg, Int.neg_mul]

theorem nearest_nonneg {n : Int} (h : 0 ≤ n) : 0 ≤ nearest n := by
  lift n to Nat using h
  rw [nearest_natCast]
  apply Int.natCast_nonneg

theorem nearest_mono_of_nonneg {a b : Int} (ha : 0 ≤ a) (h : a ≤ b) : nearest a ≤ nearest b := by
  lift a to Nat using ha
  lift b to Nat using by omega
  rw [nearest_natCast, nearest_natCast, Int.ofNat_le]
  exact nearestNat_mono (by omega)

theorem nearest_mono {a b : Int} (h : a ≤ b) : nearest a ≤ nearest b := by
  by_cases ha : 0 ≤ a
  · exact nearest_mono_of_nonneg ha h
  · have hneg := nearest_neg (-a)
    rw [Int.neg_neg] at hneg
    by_cases hb : 0 ≤ b
    · have hleft : 0 ≤ nearest (-a) := nearest_nonneg (by omega)
      have hright := nearest_nonneg hb
      omega
    · have hflip : nearest (-b) ≤ nearest (-a) := nearest_mono_of_nonneg (by omega) (by omega)
      rw [nearest_neg b] at hflip
      omega

theorem nearest_eq_self {n : Int} (h : n.natAbs ≤ 2 ^ 53) : nearest n = n := by
  rw [nearest, nearestNat_eq_self h, Int.sign_mul_natAbs]

theorem distance_nearest (n : Int) : 2 * (nearest n - n).natAbs ≤ spacing n.natAbs := by
  have hdistance := distance_nearestQuotient n.natAbs (spacing_pos n.natAbs)
  have hnat : 2 * (nearest n.natAbs - n.natAbs).natAbs ≤ spacing n.natAbs := by
    rw [nearest_natCast, nearestNat]
    omega
  cases Int.natAbs_eq n with
  | inl heq => rwa [← heq] at hnat
  | inr heq =>
    have hneg := nearest_neg n.natAbs
    rw [← heq] at hneg
    omega

end Double
end DocQuery
