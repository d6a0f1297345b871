import DocQuery.Sorting

/-!
This module contains the laws of the stable sort: it keeps all items, items that precede all others come
first in their own order, and it does not matter whether items are mapped before or after they are sorted.
-/

namespace DocQuery

section

variable {α β : Type} {precedes : α → α → Bool}

theorem insertFromEnd_perm (precedes : α → α → Bool) (item : α) (sorted : List α) :
    (insertFromEnd precedes item sorted).Perm (item :: sorted) := by
  induction sorted with
  | nil => exact .refl _
  | cons last rest ih =>
    unfold insertFromEnd
    split
    · exact (ih.cons last).trans (.swap item last rest)
    · exact .refl _

theorem foldl_insertFromEnd_perm (precedes : α → α → Bool) (items sorted : List α) :
    (items.foldl (fun sorted item => insertFromEnd precedes item sorted) sorted).Perm
      (items ++ sorted) := by
  induction items generalizing sorted with
  | nil => exact .refl _
  | cons item rest ih =>
    apply (ih _).trans
    exact ((insertFromEnd_perm precedes item sorted).append_left rest).trans List.perm_middle

theorem sortStable_perm (precedes : α → α → Bool) (items : List α) :
    (sortStable precedes items).Perm items := by
  unfold sortStable
  have hfold := foldl_insertFromEnd_perm precedes items []
  rw [List.append_nil] at hfold
  exact (List.reverse_perm _).trans hfold

theorem insertFromEnd_subset {item : α} {sorted items : List α} (hitem : item ∈ items)
    (hsorted : sorted ⊆ items) : insertFromEnd precedes item sorted ⊆ items := by
  intro other hother
  cases List.mem_cons.mp ((insertFromEnd_perm precedes item sorted).mem_iff.mp hother) with
  | inl hother => exact hother ▸ hitem
  | inr hother => exact hsorted hother

theorem insertFromEnd_append {item : α} {last : List α} (rest : List α)
    (h : ∀ other ∈ last, precedes item other = true) :
    insertFromEnd precedes item (last ++ rest) = last ++ insertFromEnd precedes item rest := by
  induction last with
  | nil => rfl
  | cons other last ih =>
    rw [List.forall_mem_cons] at h
    rw [List.cons_append, insertFromEnd, if_pos h.1, ih h.2, List.cons_append]

theorem foldl_insertFromEnd_append {items last : List α} (rest : List α)
    (h : ∀ item ∈ items, ∀ other ∈ last, precedes item other = true) :
    items.foldl (fun sorted item => insertFromEnd precedes item sorted) (last ++ rest)
      =
    last ++ items.foldl (fun sorted item => insertFromEnd precedes item sorted) rest := by
  induction items generalizing rest with
  | nil => rfl
  | cons item items ih =>
    rw [List.forall_mem_cons] at h
    rw [List.foldl_cons, List.foldl_cons, insertFromEnd_append rest h.1, ih _ h.2]

theorem sortStable_append {items ahead : List α}
    (h : ∀ item ∈ ahead, ∀ other ∈ items, precedes item other = true) :
    sortStable precedes (items ++ ahead) = sortStable precedes ahead ++ sortStable precedes items := by
  unfold sortStable
  rw [List.foldl_append, ← List.reverse_append]
  congr 1
  have hahead : ∀ item ∈ ahead,
      ∀ other ∈ items.foldl (fun sorted item => insertFromEnd precedes item sorted) [],
        precedes item other = true := by
    intro item hitem other hother
    have hmem := (foldl_insertFromEnd_perm precedes items []).mem_iff.mp hother
    rw [List.append_nil] at hmem
    exact h item hitem other hmem
  have hfold := foldl_insertFromEnd_append [] hahead
  rw [List.append_nil] at hfold
  exact hfold

theorem map_insertFromEnd (f : α → β) (precedes : β → β → Bool) (item : α) (sorted : List α) :
    (insertFromEnd (fun a b => precedes (f a) (f b)) item sorted).map f
      =
    insertFromEnd precedes (f item) (sorted.map f) := by
  induction sorted with
  | nil => rfl
  | cons last rest ih =>
    rw [List.map_cons, insertFromEnd, insertFromEnd]
    split
    · rw [List.map_cons, ih]
    · rfl

theorem map_sortStable (f : α → β) (precedes : β → β → Bool) (items : List α) :
    (sortStable (fun a b => precedes (f a) (f b)) items).map f
      =
    sortStable precedes (items.map f) := by
  have hfold : ∀ sorted : List α,
      (items.foldl
        (fun sorted item => insertFromEnd (fun a b => precedes (f a) (f b)) item sorted) sorted).map f
        =
      (items.map f).foldl (fun sorted item => insertFromEnd precedes item sorted) (sorted.map f) := by
    induction items with
    | nil => simp
    | cons item rest ih => simp [ih, map_insertFromEnd]
  unfold sortStable
  rw [List.map_reverse, hfold, List.map_nil]

theorem insertFromEnd_congr {precedes other : α → α → Bool} {item : α} {sorted : List α}
    (h : ∀ last ∈ sorted, precedes item last = other item last) :
    insertFromEnd precedes item sorted = insertFromEnd other item sorted := by
  induction sorted with
  | nil => rfl
  | cons last rest ih =>
    rw [List.forall_mem_cons] at h
    rw [insertFromEnd, insertFromEnd, h.1, ih h.2]

theorem sortStable_congr {precedes other : α → α → Bool} {items : List α}
    (h : ∀ a ∈ items, ∀ b ∈ items, precedes a b = other a b) :
    sortStable precedes items = sortStable other items := by
  have hfold : ∀ rest sorted : List α, rest ⊆ items → sorted ⊆ items →
      rest.foldl (fun sorted item => insertFromEnd precedes item sorted) sorted
        =
      rest.foldl (fun sorted item => insertFromEnd other item sorted) sorted := by
    intro rest
    induction rest with
    | nil => simp
    | cons item rest ih =>
      intro sorted hrest hsorted
      rw [List.cons_subset] at hrest
      have hitem : insertFromEnd precedes item sorted = insertFromEnd other item sorted := by
        apply insertFromEnd_congr
        intro last hlast
        exact h item hrest.1 last (hsorted hlast)
      rw [List.foldl_cons, List.foldl_cons, hitem]
      exact ih _ hrest.2 (insertFromEnd_subset hrest.1 hsorted)
  unfold sortStable
  rw [hfold items [] (List.Subset.refl items) (List.nil_subset items)]

end

theorem length_sortDocuments (sort : Document) (documents : List Document) :
    (sortDocuments sort documents).length = documents.length :=
  (sortStable_perm _ documents).length_eq

theorem mem_sortDocuments_iff {sort document : Document} {documents : List Document} :
    document ∈ sortDocuments sort documents ↔ document ∈ documents :=
  (sortStable_perm _ documents).mem_iff

theorem sortDocuments_append {sort : Document} {documents ahead : List Document}
    (h : ∀ new ∈ ahead, ∀ old ∈ documents, Document.compareBy sort new old = .lt) :
    sortDocuments sort (documents ++ ahead)
      =
    sortDocuments sort ahead ++ sortDocuments sort documents := by
  apply sortStable_append
  intro new hnew old hold
  rw [h new hnew old hold]
  rfl

theorem sortDocuments_map {sort : Document} {documents : List Document} {f : Document → Document}
    (h : ∀ a ∈ documents, ∀ b ∈ documents,
      Document.compareBy sort (f a) (f b) = .lt ↔ Document.compareBy sort a b = .lt) :
    sortDocuments sort (documents.map f) = (sortDocuments sort documents).map f := by
  unfold sortDocuments
  rw [← map_sortStable]
  congr 1
  apply sortStable_congr
  intro a ha b hb
  rw [Bool.eq_iff_iff, beq_iff_eq, beq_iff_eq]
  exact h a ha b hb

namespace Document

theorem compareBy_map {sort : Document} {f : Document → Document} {a b : Document}
    (ha : ∀ key ∈ sort, (f a).sortValue key.1 = a.sortValue key.1)
    (hb : ∀ key ∈ sort, (f b).sortValue key.1 = b.sortValue key.1) :
    compareBy sort (f a) (f b) = compareBy sort a b := by
  induction sort with
  | nil => rfl
  | cons key rest ih =>
    rw [List.forall_mem_cons] at ha hb
    unfold compareBy compareAt
    rw [ha.1, hb.1, ih ha.2 hb.2]

end Document

end DocQuery
