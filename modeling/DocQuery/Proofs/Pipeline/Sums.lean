import DocQuery.Pipeline.Group
import DocQuery.Proofs.Update.Exact
import DocQuery.Proofs.Word.Saturation

/-!
This module contains the sums of groups whose values hold no doubles: the integers among them are added up, and
what is no number does not count.
-/

namespace DocQuery
namespace NumericSum

theorem asInt?_toValue {sum : NumericSum} (h : sum.isDouble = false) :
    sum.toValue.asInt? = some sum.integer.toInt := by
  unfold toValue
  rw [h]
  split
  · contradiction
  · split
    · rfl
    · exact Value.asInt?_ofInt (Word.fits64_toInt sum.integer)

theorem toInt_integer_foldl_add (sum : NumericSum) (values : List Value) :
    (values.foldl add sum).integer.toInt
      =
    Word.runningSum sum.integer.toInt (values.filterMap Value.asInt?) := by
  induction values generalizing sum with
  | nil => rfl
  | cons value rest ih =>
    rw [List.foldl_cons, ih]
    cases value with
    | _ => rfl

theorem isDouble_foldl_add {sum : NumericSum} {values : List Value} (hsum : sum.isDouble = false)
    (h : ∀ value ∈ values, ∀ x, value ≠ .double x) : (values.foldl add sum).isDouble = false := by
  induction values generalizing sum with
  | nil => exact hsum
  | cons value rest ih =>
    rw [List.forall_mem_cons] at h
    refine ih ?_ h.2
    cases value with
    | double x => exact absurd rfl (h.1 x)
    | _ => exact hsum

end NumericSum

namespace Accumulator

theorem asInt?_total_sum {values : List Value} (h : ∀ value ∈ values, ∀ x, value ≠ .double x) :
    (sum.total values).asInt? = some (Word.runningSum 0 (values.filterMap Value.asInt?)) := by
  have hdouble : (NumericSum.ofValues values).isDouble = false := NumericSum.isDouble_foldl_add rfl h
  unfold total
  rw [NumericSum.asInt?_toValue hdouble]
  exact congrArg some (NumericSum.toInt_integer_foldl_add {} values)

theorem asInt?_total_sum_of_ones {values : List Value} (h : ∀ value ∈ values, value.asInt? = some 1)
    (hlength : values.length < 2 ^ 63) : (sum.total values).asInt? = some (values.length : Int) := by
  have hones : values.filterMap Value.asInt? = List.replicate values.length 1 := by
    induction values with
    | nil => rfl
    | cons value rest ih =>
      rw [List.forall_mem_cons] at h
      rw [List.length_cons] at hlength
      rw [List.filterMap_cons_some h.1, ih h.2 (by omega), List.length_cons, List.replicate_succ]
  have hsum : Word.runningSum 0 (List.replicate values.length 1) = 0 + values.length := by
    rw [Word.runningSum_eq_add_sum]
    · simp
    · intro first hfirst
      obtain ⟨hle, heq⟩ := List.prefix_replicate_iff.mp hfirst
      rw [heq, Word.fits64_iff]
      simp
      omega
  rw [asInt?_total_sum, hones, hsum, Int.zero_add]
  intro value hvalue x heq
  rw [heq] at hvalue
  cases h _ hvalue

end Accumulator
end DocQuery
