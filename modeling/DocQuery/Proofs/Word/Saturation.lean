import DocQuery.Word
import Mathlib

/-!
This module contains sums that stop at the ends of the 64-bit range at every step. Such a sum is the exact one
in every order of its terms exactly if the positive terms on their own and the negative ones on their own have
sums in the range.
-/

namespace DocQuery
namespace Word

theorem fits64_iff {n : Int} : fits64 n = true ↔ -9223372036854775808 ≤ n ∧ n ≤ 9223372036854775807 := by
  unfold fits64
  rw [Bool.and_eq_true, decide_eq_true_eq, decide_eq_true_eq]

theorem toInt_clampInt (n : Int) :
    (clampInt n).toInt = max (-9223372036854775808) (min n 9223372036854775807) := by
  unfold clampInt
  rw [Int64.toInt_ofInt_of_le]
  · omega
  · omega

theorem fits64_toInt (n : Int64) : fits64 n.toInt = true := by
  rw [fits64_iff]
  have hlow := n.le_toInt
  have hhigh := n.toInt_lt
  omega

def runningSum (start : Int) (ns : List Int) : Int :=
  ns.foldl (fun sum n => (clampInt (sum + n)).toInt) start

theorem runningSum_cons (start n : Int) (rest : List Int) :
    runningSum start (n :: rest) = runningSum (clampInt (start + n)).toInt rest := rfl

theorem runningSum_append (start : Int) (first second : List Int) :
    runningSum start (first ++ second) = runningSum (runningSum start first) second :=
  List.foldl_append

theorem fits64_runningSum {start : Int} (ns : List Int) (hstart : fits64 start = true) :
    fits64 (runningSum start ns) = true := by
  induction ns generalizing start with
  | nil => exact hstart
  | cons n rest ih => exact ih (fits64_toInt _)

theorem runningSum_eq_add_sum {start : Int} {ns : List Int}
    (h : ∀ first, first <+: ns → fits64 (start + first.sum) = true) :
    runningSum start ns = start + ns.sum := by
  induction ns generalizing start with
  | nil => exact (Int.add_zero start).symm
  | cons n rest ih =>
    have hfits := fits64_iff.mp (h [n] ⟨rest, rfl⟩)
    rw [List.sum_singleton] at hfits
    have hclamp : (clampInt (start + n)).toInt = start + n := by
      rw [toInt_clampInt]
      omega
    rw [runningSum_cons, hclamp, List.sum_cons, ← Int.add_assoc]
    apply ih
    intro first hfirst
    have hcons := h (n :: first) (List.cons_prefix_cons.mpr ⟨rfl, hfirst⟩)
    rwa [List.sum_cons, ← Int.add_assoc] at hcons

def gains (ns : List Int) : Int := (ns.filter fun n => 0 < n).sum

def losses (ns : List Int) : Int := (ns.filter fun n => n < 0).sum

theorem gains_cons (n : Int) (rest : List Int) : gains (n :: rest) = max n 0 + gains rest := by
  unfold gains
  by_cases hn : 0 < n
  · rw [List.filter_cons_of_pos (by simpa using hn), List.sum_cons]
    omega
  · rw [List.filter_cons_of_neg (by simpa using hn)]
    omega

theorem losses_cons (n : Int) (rest : List Int) : losses (n :: rest) = min n 0 + losses rest := by
  unfold losses
  by_cases hn : n < 0
  · rw [List.filter_cons_of_pos (by simpa using hn), List.sum_cons]
    omega
  · rw [List.filter_cons_of_neg (by simpa using hn)]
    omega

theorem gains_add_losses (ns : List Int) : gains ns + losses ns = ns.sum := by
  induction ns with
  | nil => rfl
  | cons n rest ih =>
    rw [gains_cons, losses_cons, List.sum_cons]
    omega

theorem sum_filter_not_pos (ns : List Int) : (ns.filter fun n => !decide (0 < n)).sum = losses ns := by
  induction ns with
  | nil => rfl
  | cons n rest ih =>
    rw [losses_cons]
    by_cases hn : 0 < n
    · rw [List.filter_cons_of_neg (by simpa using hn), ih]
      omega
    · rw [List.filter_cons_of_pos (by simpa using hn), List.sum_cons, ih]
      omega

theorem sum_between {part ns : List Int} (h : part.Sublist ns) :
    losses ns ≤ part.sum ∧ part.sum ≤ gains ns := by
  induction h with
  | slnil => exact ⟨Int.le_refl 0, Int.le_refl 0⟩
  | cons n _ ih =>
    rw [gains_cons, losses_cons]
    omega
  | cons_cons n _ ih =>
    rw [gains_cons, losses_cons, List.sum_cons]
    omega

theorem runningSum_of_perm {ms ns : List Int} (hperm : ms.Perm ns) (hgains : fits64 (gains ns) = true)
    (hlosses : fits64 (losses ns) = true) : runningSum 0 ms = ns.sum := by
  rw [fits64_iff] at hgains hlosses
  have hsum : runningSum 0 ms = 0 + ms.sum := by
    apply runningSum_eq_add_sum
    intro first hfirst
    have hsublist := sum_between hfirst.sublist
    have hgains : gains ms = gains ns := (hperm.filter _).sum_eq
    have hlosses : losses ms = losses ns := (hperm.filter _).sum_eq
    rw [fits64_iff]
    omega
  rw [hsum, Int.zero_add, hperm.sum_eq]

theorem runningSum_of_pos {start : Int} {ns : List Int} (hstart : fits64 start = true)
    (h : ∀ n ∈ ns, 0 < n) : runningSum start ns = min (start + ns.sum) 9223372036854775807 := by
  induction ns generalizing start with
  | nil =>
    rw [fits64_iff] at hstart
    rw [runningSum, List.foldl_nil, List.sum_nil]
    omega
  | cons n rest ih =>
    rw [List.forall_mem_cons] at h
    have hrest : 0 ≤ rest.sum := List.sum_nonneg fun n hn => Int.le_of_lt (h.2 n hn)
    rw [fits64_iff] at hstart
    rw [runningSum_cons, ih _ h.2, toInt_clampInt, List.sum_cons]
    · omega
    · rw [fits64_iff, toInt_clampInt]
      omega

theorem runningSum_of_nonpos {start : Int} {ns : List Int} (hstart : fits64 start = true)
    (h : ∀ n ∈ ns, n ≤ 0) : runningSum start ns = max (-9223372036854775808) (start + ns.sum) := by
  induction ns generalizing start with
  | nil =>
    rw [fits64_iff] at hstart
    rw [runningSum, List.foldl_nil, List.sum_nil]
    omega
  | cons n rest ih =>
    rw [List.forall_mem_cons] at h
    have hrest : rest.sum ≤ 0 := by simpa using List.sum_le_card_nsmul rest 0 h.2
    rw [fits64_iff] at hstart
    rw [runningSum_cons, ih _ h.2, toInt_clampInt, List.sum_cons]
    · omega
    · rw [fits64_iff, toInt_clampInt]
      omega

theorem fits64_of_runningSum {ns : List Int}
    (hpos : runningSum 0 ((ns.filter fun n => 0 < n) ++ ns.filter fun n => !decide (0 < n)) = ns.sum)
    (hrest : runningSum 0 ((ns.filter fun n => !decide (0 < n)) ++ ns.filter fun n => 0 < n) = ns.sum) :
    fits64 (gains ns) = true ∧ fits64 (losses ns) = true := by
  have hsum := gains_add_losses ns
  have hzero : fits64 0 = true := by decide
  have hfits := fits64_runningSum ((ns.filter fun n => 0 < n) ++ ns.filter fun n => !decide (0 < n)) hzero
  rw [hpos] at hfits
  have hgains : ∀ n ∈ ns.filter fun n => 0 < n, 0 < n := by simp
  have hlosses : ∀ n ∈ ns.filter fun n => !decide (0 < n), n ≤ 0 := by simp
  have hfirst := runningSum_of_pos hzero hgains
  have hlast := runningSum_of_nonpos hzero hlosses
  rw [sum_filter_not_pos] at hlast
  rw [← gains] at hfirst
  rw [fits64_iff] at hfits
  have hnonneg : 0 ≤ gains ns := List.sum_nonneg fun n hn => Int.le_of_lt (hgains n hn)
  have hnonpos : losses ns ≤ 0 := by
    rw [← sum_filter_not_pos]
    simpa using List.sum_le_card_nsmul _ 0 hlosses
  rw [runningSum_append, hfirst, runningSum_of_nonpos _ hlosses, sum_filter_not_pos] at hpos
  · rw [runningSum_append, hlast, runningSum_of_pos _ hgains, ← gains] at hrest
    · rw [fits64_iff, fits64_iff]
      omega
    · rw [fits64_iff]
      omega
  · rw [fits64_iff]
    omega

end Word
end DocQuery
