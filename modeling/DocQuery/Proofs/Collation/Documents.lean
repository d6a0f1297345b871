import DocQuery.Proofs.Collation.Equality
import DocQuery.Proofs.Value.Same
import Mathlib

/-!
This module contains what the equality of documents is: they have the same number of fields, and what one holds under a
name equals what the other holds under it. The order of the fields does not count.
-/

namespace DocQuery
namespace Fields

variable {α : Type}

def IsSorted (fields : Fields α) : Prop := (names fields).Pairwise (· < ·)

theorem mem_names_insertSorted_iff {fields : Fields α} {key name : String} {value : α} :
    name ∈ names (insertSorted fields key value) ↔ name = key ∨ name ∈ names fields := by
  rw [← contains_iff, ← contains_iff, contains, contains, get?_insertSorted]
  split
  · next hname => simp [hname]
  · next hname => simp [Ne.symm hname]

theorem isSorted_insertSorted {fields : Fields α} (key : String) (value : α) (h : IsSorted fields) :
    IsSorted (insertSorted fields key value) := by
  induction fields with
  | nil => exact List.pairwise_singleton _ _
  | cons field rest ih =>
    rcases field with ⟨name, old⟩
    have hcons := List.pairwise_cons.mp h
    rw [insertSorted]
    split
    · next hkey =>
      subst hkey
      exact h
    · next hkey =>
      split
      · next hlt =>
        apply List.pairwise_cons.mpr
        refine ⟨?_, h⟩
        intro other hother
        cases List.mem_cons.mp hother with
        | inl hfirst => rwa [hfirst]
        | inr hrest => exact lt_trans hlt (hcons.1 other hrest)
      · next hle =>
        apply List.pairwise_cons.mpr
        refine ⟨?_, ih hcons.2⟩
        intro other hother
        cases mem_names_insertSorted_iff.mp hother with
        | inl hfirst =>
          rw [hfirst]
          exact lt_of_le_of_ne (not_lt.mp hle) (Ne.symm hkey)
        | inr hrest => exact hcons.1 other hrest

theorem get?_eq_none_of_lt {fields : Fields α} {name key : String} {value : α}
    (h : IsSorted ((key, value) :: fields)) (hname : name ≤ key) : get? fields name = none := by
  rw [get?_eq_none_iff]
  intro hmem
  exact absurd ((List.pairwise_cons.mp h).1 name hmem) (not_lt.mpr hname)

end Fields

namespace Collated

abbrev SameLookup : Option Collated → Option Collated → Prop := Option.Rel fun a b => a.same b = true

theorem get?_of_sameFields {as bs : List (String × Collated)} (h : sameFields as bs = true) (name : String) :
    SameLookup (Fields.get? as name) (Fields.get? bs name) := by
  induction as generalizing bs with
  | nil =>
    cases bs with
    | nil => exact .none
    | cons => cases h
  | cons field as ih =>
    cases bs with
    | nil => cases h
    | cons other bs =>
      rw [sameFields, Bool.and_eq_true, Bool.and_eq_true, beq_iff_eq] at h
      rw [Fields.get?_cons, Fields.get?_cons, h.1.1]
      split
      · exact .some h.1.2
      · exact ih h.2

theorem sameFields_of_get? {as bs : List (String × Collated)} (has : Fields.IsSorted as) (hbs : Fields.IsSorted bs)
    (h : ∀ name, SameLookup (Fields.get? as name) (Fields.get? bs name)) : sameFields as bs = true := by
  induction as generalizing bs with
  | nil =>
    cases bs with
    | nil => rfl
    | cons other bs =>
      have hother := h other.1
      rw [Fields.get?_cons, if_pos rfl] at hother
      cases hother
  | cons field as ih =>
    cases bs with
    | nil =>
      have hfield := h field.1
      rw [Fields.get?_cons, if_pos rfl] at hfield
      cases hfield
    | cons other bs =>
      rcases field with ⟨m, a⟩
      rcases other with ⟨n, b⟩
      have hm := h m
      have hn := h n
      rw [Fields.get?_cons, if_pos rfl, Fields.get?_cons] at hm
      rw [Fields.get?_cons, Fields.get?_cons, if_pos rfl] at hn
      rcases lt_trichotomy m n with hlt | heq | hgt
      · -- the least name of one document is missing in the other
        rw [if_neg hlt.ne', Fields.get?_eq_none_of_lt hbs hlt.le] at hm
        cases hm
      · subst heq
        rw [if_pos rfl] at hm
        cases hm with
        | some hsame =>
          rw [sameFields, beq_self_eq_true, hsame, Bool.true_and, Bool.true_and]
          apply ih (List.pairwise_cons.mp has).2 (List.pairwise_cons.mp hbs).2
          intro name
          by_cases hname : m = name
          · rw [Fields.get?_eq_none_of_lt has hname.ge, Fields.get?_eq_none_of_lt hbs hname.ge]
            exact .none
          · have hrest := h name
            rwa [Fields.get?_cons, Fields.get?_cons, if_neg hname, if_neg hname] at hrest
      · rw [if_neg hgt.ne', Fields.get?_eq_none_of_lt has hgt.le] at hn
        cases hn

end Collated

namespace Value

theorem isSorted_collateFields (fields : List (String × Value)) : Fields.IsSorted (collateFields fields) := by
  induction fields with
  | nil => exact List.Pairwise.nil
  | cons field rest ih =>
    rw [collateFields]
    apply Fields.isSorted_insertSorted
    exact ih

theorem get?_collateFields (fields : List (String × Value)) (name : String) :
    Fields.get? (collateFields fields) name = (Fields.get? fields name).map collate := by
  induction fields with
  | nil => rfl
  | cons field rest ih =>
    rw [collateFields, Fields.get?_insertSorted, ih, Fields.get?_cons]
    split <;> rfl

theorem equals_document_iff_get? (as bs : Document) :
    (document as).equals (document bs) = true
      ↔
    ∀ name, Option.Rel (fun a b => a.equals b = true) (Fields.get? as name) (Fields.get? bs name) := by
  have hlookup (name : String) :
      Collated.SameLookup (Fields.get? (collateFields as) name) (Fields.get? (collateFields bs) name)
        ↔
      Option.Rel (fun a b => a.equals b = true) (Fields.get? as name) (Fields.get? bs name) := by
    rw [get?_collateFields, get?_collateFields]
    cases Fields.get? as name with
    | none => cases Fields.get? bs name <;> simp
    | some a => cases Fields.get? bs name <;> simp [equals]
  rw [← forall_congr' hlookup]
  constructor
  · exact Collated.get?_of_sameFields
  · exact Collated.sameFields_of_get? (isSorted_collateFields as) (isSorted_collateFields bs)

theorem perm_names_of_equals {as bs : Document} (has : (Fields.names as).Nodup) (hbs : (Fields.names bs).Nodup)
    (h : (document as).equals (document bs) = true) : (Fields.names as).Perm (Fields.names bs) := by
  rw [equals_document_iff_get?] at h
  rw [List.perm_ext_iff_of_nodup has hbs]
  intro name
  have hname := h name
  rw [← Fields.contains_iff, ← Fields.contains_iff, Fields.contains, Fields.contains]
  generalize Fields.get? as name = first at hname
  generalize Fields.get? bs name = second at hname
  cases hname with
  | none => rfl
  | some => rfl

theorem equals_document_iff {as bs : Document} (has : (Fields.names as).Nodup) (hbs : (Fields.names bs).Nodup) :
    (document as).equals (document bs) = true
      ↔
    as.length = bs.length
      ∧ ∀ name a, Fields.get? as name = some a → ∃ b, Fields.get? bs name = some b ∧ a.equals b = true := by
  constructor
  · intro h
    have hlength := (perm_names_of_equals has hbs h).length_eq
    rw [equals_document_iff_get?] at h
    rw [Fields.names, Fields.names, List.length_map, List.length_map] at hlength
    refine ⟨hlength, ?_⟩
    intro name a ha
    have hname := h name
    rw [ha] at hname
    cases hb : Fields.get? bs name with
    | none =>
      rw [hb] at hname
      cases hname
    | some b =>
      rw [hb] at hname
      cases hname with
      | some hequals => exact ⟨b, rfl, hequals⟩
  · rintro ⟨hlength, h⟩
    have hsubset : Fields.names as ⊆ Fields.names bs := by
      intro name hmem
      rw [← Fields.contains_iff, Fields.contains, Option.isSome_iff_exists] at hmem ⊢
      obtain ⟨a, ha⟩ := hmem
      obtain ⟨b, hb, -⟩ := h name a ha
      exact ⟨b, hb⟩
    have hperm : (Fields.names as).Perm (Fields.names bs) := by
      apply (List.subperm_of_subset has hsubset).perm_of_length_le
      rw [Fields.names, Fields.names, List.length_map, List.length_map, hlength]
    rw [equals_document_iff_get?]
    intro name
    cases ha : Fields.get? as name with
    | none =>
      have hnone : Fields.get? bs name = none := by
        rw [Fields.get?_eq_none_iff, ← hperm.mem_iff, ← Fields.get?_eq_none_iff]
        exact ha
      rw [hnone]
      exact .none
    | some a =>
      obtain ⟨b, hb, hequals⟩ := h name a ha
      rw [hb]
      exact .some hequals

end Value
end DocQuery
