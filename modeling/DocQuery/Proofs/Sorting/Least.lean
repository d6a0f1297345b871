import DocQuery.Proofs.Sorting.Order

/-!
This module contains what can be said of a sorted list without sorting: which of its items meet a predicate,
and which item comes first.
-/

namespace DocQuery

section

variable {α β : Type} {precedes : α → α → Bool} {items : List α}

theorem insertFromEnd_of_forall {item : α} {sorted : List α}
    (h : ∀ other ∈ sorted, precedes item other = false) :
    insertFromEnd precedes item sorted = item :: sorted := by
  cases sorted with
  | nil => rfl
  | cons last rest =>
    rw [insertFromEnd, h last List.mem_cons_self]
    rfl

theorem not_precedes_of_sorted {item last : α} {rest : List α} (horders : Orders precedes items)
    (hitem : item ∈ items) (hsorted : last :: rest ⊆ items)
    (h : (last :: rest).Pairwise fun later earlier => precedes later earlier = false)
    (hlast : precedes item last = false) : ∀ other ∈ last :: rest, precedes item other = false := by
  rw [List.cons_subset] at hsorted
  rw [List.pairwise_cons] at h
  rw [List.forall_mem_cons]
  refine ⟨hlast, ?_⟩
  intro other hother
  exact horders.trans item hitem last hsorted.1 other (hsorted.2 hother) hlast (h.1 other hother)

theorem filter_insertFromEnd_of_sorted {p : α → Bool} {item : α} {sorted : List α}
    (horders : Orders precedes items) (hitem : item ∈ items) (hsorted : sorted ⊆ items)
    (h : sorted.Pairwise fun later earlier => precedes later earlier = false) :
    (insertFromEnd precedes item sorted).filter p
      =
    if p item then insertFromEnd precedes item (sorted.filter p) else sorted.filter p := by
  induction sorted with
  | nil => rw [insertFromEnd, List.filter_cons, List.filter_nil, insertFromEnd]
  | cons last rest ih =>
    cases hlast : precedes item last with
    | true =>
      rw [List.pairwise_cons] at h
      have hrest := ih (List.cons_subset.mp hsorted).2 h.2
      rw [insertFromEnd, if_pos hlast, List.filter_cons, hrest, List.filter_cons]
      cases p last with
      | false => rfl
      | true =>
        rw [if_pos rfl, if_pos rfl, insertFromEnd, if_pos hlast]
        split <;> rfl
    | false =>
      have hnone := not_precedes_of_sorted horders hitem hsorted h hlast
      rw [insertFromEnd_of_forall hnone, List.filter_cons, insertFromEnd_of_forall]
      intro other hother
      exact hnone other (List.mem_of_mem_filter hother)

theorem filter_foldl_insertFromEnd_of_sorted {p : α → Bool} {rest sorted : List α}
    (horders : Orders precedes items) (hrest : rest ⊆ items) (hsorted : sorted ⊆ items)
    (h : sorted.Pairwise fun later earlier => precedes later earlier = false) :
    (rest.foldl (fun sorted item => insertFromEnd precedes item sorted) sorted).filter p
      =
    (rest.filter p).foldl (fun sorted item => insertFromEnd precedes item sorted) (sorted.filter p) := by
  induction rest generalizing sorted with
  | nil => rfl
  | cons item rest ih =>
    rw [List.cons_subset] at hrest
    have hinserted := ih hrest.2 (insertFromEnd_subset hrest.1 hsorted)
      (pairwise_insertFromEnd horders hrest.1 hsorted h)
    rw [List.foldl_cons, hinserted, filter_insertFromEnd_of_sorted horders hrest.1 hsorted h, List.filter_cons]
    split <;> rfl

theorem sortStable_filter (p : α → Bool) (horders : Orders precedes items) :
    sortStable precedes (items.filter p) = (sortStable precedes items).filter p := by
  unfold sortStable
  rw [List.filter_reverse, filter_foldl_insertFromEnd_of_sorted horders (List.Subset.refl items)
    (List.nil_subset items) .nil]
  rfl

def prefer (precedes : α → α → Bool) (best : Option α) (item : α) : Option α :=
  match best with
  | none => some item
  | some old => if precedes item old then some item else some old

def least? (precedes : α → α → Bool) (items : List α) : Option α := items.foldl (prefer precedes) none

theorem getLast?_insertFromEnd {item : α} {sorted : List α} (horders : Orders precedes items)
    (hitem : item ∈ items) (hsorted : sorted ⊆ items)
    (h : sorted.Pairwise fun later earlier => precedes later earlier = false) :
    (insertFromEnd precedes item sorted).getLast? = prefer precedes sorted.getLast? item := by
  induction sorted with
  | nil => rfl
  | cons last rest ih =>
    cases hlast : precedes item last with
    | true =>
      rw [List.pairwise_cons] at h
      have hrest := ih (List.cons_subset.mp hsorted).2 h.2
      rw [insertFromEnd, if_pos hlast, List.getLast?_cons, hrest, List.getLast?_cons]
      cases rest.getLast? with
      | none => simp [prefer, hlast]
      | some first =>
        simp only [prefer, Option.getD_some]
        split <;> rfl
    | false =>
      have hnone := not_precedes_of_sorted horders hitem hsorted h hlast
      have hfirst := hnone _ (List.getLast_mem (List.cons_ne_nil last rest))
      rw [insertFromEnd_of_forall hnone, List.getLast?_cons_cons,
        List.getLast?_eq_some_getLast (List.cons_ne_nil last rest), prefer, hfirst]
      rfl

theorem getLast?_foldl_insertFromEnd {rest sorted : List α} (horders : Orders precedes items)
    (hrest : rest ⊆ items) (hsorted : sorted ⊆ items)
    (h : sorted.Pairwise fun later earlier => precedes later earlier = false) :
    (rest.foldl (fun sorted item => insertFromEnd precedes item sorted) sorted).getLast?
      =
    rest.foldl (prefer precedes) sorted.getLast? := by
  induction rest generalizing sorted with
  | nil => rfl
  | cons item rest ih =>
    rw [List.cons_subset] at hrest
    have hinserted := ih hrest.2 (insertFromEnd_subset hrest.1 hsorted)
      (pairwise_insertFromEnd horders hrest.1 hsorted h)
    rw [List.foldl_cons, hinserted, getLast?_insertFromEnd horders hrest.1 hsorted h, List.foldl_cons]

theorem head?_sortStable (horders : Orders precedes items) :
    (sortStable precedes items).head? = least? precedes items := by
  unfold sortStable
  rw [List.head?_reverse, getLast?_foldl_insertFromEnd horders (List.Subset.refl items)
    (List.nil_subset items) .nil]
  rfl

theorem prefer_map (f : β → α) (best : Option β) (item : β) :
    prefer precedes (best.map f) (f item) = (prefer (fun a b => precedes (f a) (f b)) best item).map f := by
  cases best with
  | none => rfl
  | some old =>
    simp only [prefer, Option.map_some]
    split <;> rfl

theorem foldl_prefer_map (f : β → α) (best : Option β) (items : List β) :
    (items.map f).foldl (prefer precedes) (best.map f)
      =
    (items.foldl (prefer fun a b => precedes (f a) (f b)) best).map f := by
  induction items generalizing best with
  | nil => rfl
  | cons item rest ih => rw [List.map_cons, List.foldl_cons, prefer_map, ih, List.foldl_cons]

theorem least?_map (f : β → α) (items : List β) :
    least? precedes (items.map f) = (least? (fun a b => precedes (f a) (f b)) items).map f :=
  foldl_prefer_map f none items

theorem mem_of_least?_eq_some {least : α} (h : least? precedes items = some least) : least ∈ items := by
  induction items using List.reverseRecOn with
  | nil => cases h
  | append_singleton items item ih =>
    unfold least? at h ih
    rw [List.foldl_append, List.foldl_cons, List.foldl_nil] at h
    rw [List.mem_append, List.mem_singleton]
    cases hbest : items.foldl (prefer precedes) none with
    | none =>
      rw [hbest] at h
      cases h
      exact .inr rfl
    | some old =>
      rw [hbest, prefer] at h
      split at h
      · cases h
        exact .inr rfl
      · cases h
        exact .inl (ih hbest)

theorem Orders.subset {part : List α} (horders : Orders precedes items) (h : part ⊆ items) :
    Orders precedes part where
  asymm a ha b hb := horders.asymm a (h ha) b (h hb)
  trans a ha b hb c hc := horders.trans a (h ha) b (h hb) c (h hc)

end

end DocQuery
