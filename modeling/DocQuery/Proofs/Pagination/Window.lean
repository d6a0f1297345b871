import DocQuery.Page
import Mathlib.Algebra.Order.Floor.Div

/-!
This module contains the windows that pages cut out of a list of rows, and the arithmetic of words that
finds them: windows of one size follow each other without gaps, and limits that no list reaches change
nothing.
-/

namespace DocQuery
namespace Word

theorem toNat_max (a b : UInt64) : (max a b).toNat = max a.toNat b.toNat := by
  have hmax : max a b = if a ≤ b then b else a := rfl
  rw [hmax]
  split
  · next h =>
    rw [UInt64.le_iff_toNat_le] at h
    omega
  · next h =>
    rw [UInt64.le_iff_toNat_le] at h
    omega

theorem toNat_min (a b : UInt64) : (min a b).toNat = min a.toNat b.toNat := by
  have hmin : min a b = if a ≤ b then a else b := rfl
  rw [hmin]
  split
  · next h =>
    rw [UInt64.le_iff_toNat_le] at h
    omega
  · next h =>
    rw [UInt64.le_iff_toNat_le] at h
    omega

end Word

theorem Limits.toNat_clamp_pos (limits : Limits) (size : UInt64) : 0 < (limits.clamp size).toNat := by
  unfold clamp
  dsimp only
  split
  · rw [Word.toNat_min, Word.toNat_max, Word.toNat_max, UInt64.toNat_one]
    omega
  · next hsize =>
    have hpos : size.toNat ≠ 0 := by
      intro hzero
      exact hsize (UInt64.toNat_inj.mp hzero)
    rw [Word.toNat_min, Word.toNat_max, UInt64.toNat_one]
    omega

theorem toNat_pageCount {total size : UInt64} (h : 0 < size.toNat) :
    (pageCount total size).toNat = total.toNat ⌈/⌉ size.toNat := by
  have hlt := total.toNat_lt
  have hsize : size ≠ 0 := by
    intro hzero
    rw [hzero] at h
    cases h
  have hle : (total.toNat + size.toNat - 1) / size.toNat ≤ total.toNat := by
    rw [← Nat.ceilDiv_eq_add_pred_div, ceilDiv_le_iff_le_mul h]
    exact Nat.le_mul_of_pos_left _ h
  unfold pageCount Word.divCeil
  rw [if_neg hsize, Word.toNat_clamp, Nat.ceilDiv_eq_add_pred_div]
  unfold Word.limit
  omega

namespace Cursor

theorem toNat_offset (cursor : Cursor) (total : Option UInt64) (h : cursor.previousTotal = 0) :
    (cursor.offset total).toNat = min ((cursor.page.toNat - 1) * cursor.size.toNat) Word.limit := by
  have hdrift : (total.map cursor.drift).getD 0 = 0 := by
    cases total with
    | none => rfl
    | some total => simp [drift, h]
  unfold offset skip
  rw [hdrift]
  simp

end Cursor

section

variable {α : Type}

def window (size page : Nat) (rows : List α) : List α := (rows.drop (page * size)).take size

theorem flatMap_window (size pages : Nat) (rows : List α) :
    (List.range pages).flatMap (window size · rows) = rows.take (pages * size) := by
  induction pages with
  | zero => simp
  | succ pages ih =>
    rw [List.range_succ, List.flatMap_append, ih, List.flatMap_singleton, window, ← List.take_add]
    congr 1
    rw [Nat.succ_mul]

theorem lt_ceilDiv_iff {size : Nat} (page length : Nat) (h : 0 < size) :
    page < length ⌈/⌉ size ↔ page * size < length := by
  have hle := ceilDiv_le_iff_le_mul (b := length) (c := page) h
  rw [Nat.mul_comm] at hle
  omega

theorem window_eq_nil_iff {size page : Nat} {rows : List α} (h : 0 < size) :
    window size page rows = [] ↔ rows.length ⌈/⌉ size ≤ page := by
  have hlt := lt_ceilDiv_iff page rows.length h
  rw [window, List.take_eq_nil_iff, List.drop_eq_nil_iff]
  omega

theorem flatMap_window_eq_self {size : Nat} (rows : List α) (h : 0 < size) :
    (List.range (rows.length ⌈/⌉ size)).flatMap (window size · rows) = rows := by
  have hlt := lt_ceilDiv_iff (rows.length ⌈/⌉ size) rows.length h
  rw [flatMap_window, List.take_of_length_le]
  omega

theorem drop_min {limit : Nat} {rows : List α} (n : Nat) (h : rows.length ≤ limit) :
    rows.drop (min n limit) = rows.drop n := by
  cases Nat.le_total n limit with
  | inl hn => rw [Nat.min_eq_left hn]
  | inr hn => rw [Nat.min_eq_right hn, List.drop_of_length_le h, List.drop_of_length_le (by omega)]

theorem take_min {limit : Nat} {rows : List α} (n : Nat) (h : rows.length ≤ limit) :
    rows.take (min n limit) = rows.take n := by
  cases Nat.le_total n limit with
  | inl hn => rw [Nat.min_eq_left hn]
  | inr hn => rw [Nat.min_eq_right hn, List.take_of_length_le h, List.take_of_length_le (by omega)]

end

end DocQuery
