import DocQuery.Pipeline.Group
import Mathlib

/-!
This module contains what grouping and the search for distinct values yield where the equality of values is
that of keys: one group, or one value, for every key.
-/

namespace DocQuery

variable {α κ : Type} [DecidableEq κ]

theorem eraseDups_append_singleton (keys : List κ) (key : κ) :
    (keys ++ [key]).eraseDups = keys.eraseDups ++ if key ∈ keys then [] else [key] := by
  rw [List.eraseDups_append, List.removeAll]
  by_cases h : key ∈ keys <;> simp [h, List.eraseDups_cons]

theorem nodup_eraseDups (keys : List κ) : keys.eraseDups.Nodup := by
  induction keys using List.reverseRecOn with
  | nil => exact List.nodup_nil
  | append_singleton keys key ih =>
    rw [eraseDups_append_singleton]
    split
    · rwa [List.append_nil]
    · next h =>
      rw [List.nodup_append_comm, List.singleton_append, List.nodup_cons, List.mem_eraseDups]
      exact ⟨h, ih⟩

def groupedBy (key : α → κ) (items : List α) : List (κ × List α) :=
  (items.map key).eraseDups.map fun shared => (shared, items.filter (key · == shared))

def addTo (shared : κ) (item : α) (row : κ × List α) : κ × List α :=
  (row.1, if shared = row.1 then row.2 ++ [item] else row.2)

theorem map_addTo_of_notMem {shared : κ} (item : α) {rows : List (κ × List α)}
    (h : shared ∉ rows.map Prod.fst) : rows.map (addTo shared item) = rows := by
  have hrow : ∀ row ∈ rows, addTo shared item row = row := by
    intro row hrow
    rw [addTo, if_neg]
    intro heq
    exact h (List.mem_map.mpr ⟨row, hrow, heq.symm⟩)
  rw [List.map_congr_left hrow, List.map_id']

theorem groupedBy_append_singleton (key : α → κ) (items : List α) (item : α) :
    groupedBy key (items ++ [item])
      =
    (groupedBy key items).map (addTo (key item) item)
      ++ if key item ∈ items.map key then [] else [(key item, [item])] := by
  have hold : ∀ shared : κ, (shared, (items ++ [item]).filter (key · == shared))
      = addTo (key item) item (shared, items.filter (key · == shared)) := by
    intro shared
    by_cases h : key item = shared <;> simp [addTo, List.filter_append, h]
  unfold groupedBy
  rw [List.map_append, List.map_singleton, eraseDups_append_singleton, List.map_append, List.map_map]
  congr 1
  · exact List.map_congr_left fun shared _ => hold shared
  · by_cases h : key item ∈ items.map key
    · rw [if_pos h, if_pos h, List.map_nil]
    · have hnone : items.filter (key · == key item) = [] := by
        rw [List.filter_eq_nil_iff]
        intro other hother heq
        exact h (List.mem_map.mpr ⟨other, hother, beq_iff_eq.mp heq⟩)
      rw [if_neg h, if_neg h, List.map_singleton, hold, hnone, addTo, if_pos rfl, List.nil_append]

theorem keys_groupedBy (key : α → κ) (items : List α) :
    (groupedBy key items).map Prod.fst = (items.map key).eraseDups := by
  rw [groupedBy, List.map_map]
  exact List.map_id' _

def KeyedBy (key : Value → κ) (values : List Value) : Prop :=
  ∀ a ∈ values, ∀ b ∈ values, a.equals b = (key a == key b)

theorem KeyedBy.subset {key : Value → κ} {values others : List Value} (h : KeyedBy key values)
    (hsubset : others ⊆ values) : KeyedBy key others :=
  fun a ha b hb => h a (hsubset ha) b (hsubset hb)

theorem any_equals {key : Value → κ} {values : List Value} {value : Value}
    (h : KeyedBy key (values ++ [value])) :
    values.any (·.equals value) = true ↔ key value ∈ values.map key := by
  have hequals : ∀ old ∈ values, old.equals value = (key old == key value) := by
    intro old hold
    apply h
    · exact List.mem_append_left _ hold
    · exact List.mem_append_right _ (List.mem_singleton_self value)
  rw [List.any_eq_true, List.mem_map]
  apply exists_congr
  intro old
  apply and_congr_right
  intro hold
  rw [hequals old hold, beq_iff_eq]

theorem distinctValues_append_singleton (values : List Value) (value : Value) :
    distinctValues (values ++ [value])
      =
    if (distinctValues values).any (·.equals value) then
      distinctValues values
    else
      distinctValues values ++ [value] := by
  unfold distinctValues
  rw [List.foldl_append, List.foldl_cons, List.foldl_nil]

theorem distinctValues_subset (values : List Value) : distinctValues values ⊆ values := by
  induction values using List.reverseRecOn with
  | nil => exact List.Subset.refl []
  | append_singleton values value ih =>
    have hold : distinctValues values ⊆ values ++ [value] := List.subset_append_of_subset_left _ ih
    rw [distinctValues_append_singleton]
    split
    · exact hold
    · apply List.append_subset.mpr
      exact ⟨hold, List.subset_append_right _ _⟩

theorem map_distinctValues {key : Value → κ} {values : List Value} (h : KeyedBy key values) :
    (distinctValues values).map key = (values.map key).eraseDups := by
  induction values using List.reverseRecOn with
  | nil => rfl
  | append_singleton values value ih =>
    have hih := ih (h.subset (List.subset_append_left _ _))
    have hsubset : distinctValues values ++ [value] ⊆ values ++ [value] := by
      intro old hold
      rw [List.mem_append] at hold ⊢
      exact hold.imp_left fun hmem => distinctValues_subset values hmem
    have hany := any_equals (h.subset hsubset)
    rw [hih, List.mem_eraseDups] at hany
    rw [distinctValues_append_singleton, List.map_append, List.map_singleton, eraseDups_append_singleton,
      ← hih]
    by_cases hold : key value ∈ values.map key
    · rw [if_pos hold, if_pos (hany.mpr hold), List.append_nil]
    · rw [if_neg hold, if_neg (mt hany.mp hold), List.map_append, List.map_singleton]

namespace Group

theorem ofDocuments_append_singleton (keyExpr : Value) (documents : List Document) (document : Document) :
    ofDocuments keyExpr (documents ++ [document])
      =
    place (document.evaluate keyExpr) document (ofDocuments keyExpr documents) := by
  unfold ofDocuments
  rw [List.foldl_append, List.foldl_cons, List.foldl_nil]

theorem keys_place (value : Value) (document : Document) (groups : List Group) :
    (place value document groups).map (·.key) ⊆ groups.map (·.key) ++ [value] := by
  induction groups with
  | nil => exact List.Subset.refl [value]
  | cons group rest ih =>
    rw [place]
    split
    · exact List.subset_append_left _ _
    · exact List.cons_subset_cons group.key ih

theorem keys_ofDocuments (keyExpr : Value) (documents : List Document) :
    (ofDocuments keyExpr documents).map (·.key) ⊆ documents.map (·.evaluate keyExpr) := by
  induction documents using List.reverseRecOn with
  | nil => exact List.Subset.refl []
  | append_singleton documents document ih =>
    intro key hkey
    rw [ofDocuments_append_singleton] at hkey
    have hplaced := keys_place _ _ _ hkey
    rw [List.map_append, List.map_singleton]
    rw [List.mem_append] at hplaced ⊢
    exact hplaced.imp_left fun hmem => ih hmem

def keyed (key : Value → κ) (group : Group) : κ × List Document := (key group.key, group.members)

theorem map_place {key : Value → κ} {value : Value} {groups : List Group} (document : Document)
    (hkeyed : KeyedBy key (groups.map (·.key) ++ [value]))
    (hnodup : ((groups.map (keyed key)).map Prod.fst).Nodup) :
    (place value document groups).map (keyed key)
      =
    (groups.map (keyed key)).map (addTo (key value) document)
      ++ if key value ∈ (groups.map (keyed key)).map Prod.fst then [] else [(key value, [document])] := by
  induction groups with
  | nil => rfl
  | cons group rest ih =>
    have hequals : group.key.equals value = (key group.key == key value) := by
      apply hkeyed <;> simp
    have hrest : KeyedBy key (rest.map (·.key) ++ [value]) := hkeyed.subset (List.subset_cons_self _ _)
    rw [List.map_cons, List.map_cons, List.nodup_cons] at hnodup
    rw [place, hequals, List.map_cons, List.map_cons, List.map_cons]
    by_cases heq : key value = key group.key
    · -- the first group that has the key is the only one
      have hrow : addTo (key value) document (keyed key group)
          = keyed key ⟨group.key, group.members ++ [document]⟩ := by
        rw [addTo, keyed, if_pos heq, keyed]
      have hmem : key value ∈ (keyed key group).1 :: (rest.map (keyed key)).map Prod.fst :=
        List.mem_cons.mpr (Or.inl heq)
      have hother : key value ∉ (rest.map (keyed key)).map Prod.fst := heq ▸ hnodup.1
      rw [if_pos (by rw [heq, beq_self_eq_true]), if_pos hmem, List.append_nil, List.map_cons, hrow,
        map_addTo_of_notMem document hother]
    · have hrow : addTo (key value) document (keyed key group) = keyed key group := by
        rw [addTo, keyed, if_neg heq]
      have hne : ¬(key group.key == key value) = true := by
        rw [beq_iff_eq]
        exact Ne.symm heq
      have hmem : key value ∈ (keyed key group).1 :: (rest.map (keyed key)).map Prod.fst
          ↔ key value ∈ (rest.map (keyed key)).map Prod.fst := by
        rw [List.mem_cons]
        exact or_iff_right heq
      rw [if_neg hne, List.map_cons, ih hrest hnodup.2, hrow]
      simp only [hmem, List.cons_append]

theorem map_ofDocuments {key : Value → κ} {keyExpr : Value} {documents : List Document}
    (h : KeyedBy key (documents.map (·.evaluate keyExpr))) :
    (ofDocuments keyExpr documents).map (keyed key)
      =
    groupedBy (fun document => key (document.evaluate keyExpr)) documents := by
  induction documents using List.reverseRecOn with
  | nil => rfl
  | append_singleton documents document ih =>
    have hih := ih (h.subset (by simp))
    have hnodup : (((ofDocuments keyExpr documents).map (keyed key)).map Prod.fst).Nodup := by
      rw [hih, keys_groupedBy]
      apply nodup_eraseDups
    have hkeyed : KeyedBy key ((ofDocuments keyExpr documents).map (·.key) ++ [document.evaluate keyExpr]) := by
      apply h.subset
      intro old hold
      rw [List.map_append, List.map_singleton, List.mem_append]
      rw [List.mem_append] at hold
      exact hold.imp_left fun hmem => keys_ofDocuments keyExpr documents hmem
    rw [ofDocuments_append_singleton, map_place document hkeyed hnodup, hih, groupedBy_append_singleton]
    simp only [keys_groupedBy, List.mem_eraseDups]

end Group
end DocQuery
