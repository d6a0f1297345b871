import DocQuery.Proofs.Collation.Order
import DocQuery.Proofs.Sorting.Stable

/-!
This module contains the proof that sorting brings documents into the order that a native sort document asks
for and leaves ties as they were. The order goes by the first key that tells two documents apart, and it is
one as long as the values under the keys have a place.
-/

namespace DocQuery

section

variable {α : Type} {precedes : α → α → Bool} {items : List α}

structure Orders (precedes : α → α → Bool) (items : List α) : Prop where
  asymm : ∀ a ∈ items, ∀ b ∈ items, precedes a b = true → precedes b a = false
  trans : ∀ a ∈ items, ∀ b ∈ items, ∀ c ∈ items,
    precedes a b = false → precedes b c = false → precedes a c = false

theorem pairwise_insertFromEnd {item : α} {sorted : List α} (horders : Orders precedes items)
    (hitem : item ∈ items) (hsorted : sorted ⊆ items)
    (h : sorted.Pairwise fun later earlier => precedes later earlier = false) :
    (insertFromEnd precedes item sorted).Pairwise fun later earlier => precedes later earlier = false := by
  induction sorted with
  | nil => exact List.pairwise_singleton _ _
  | cons last rest ih =>
    rw [List.cons_subset] at hsorted
    unfold insertFromEnd
    split
    · next hprecedes =>
      rw [List.pairwise_cons] at h ⊢
      refine ⟨?_, ih hsorted.2 h.2⟩
      intro other hother
      cases List.mem_cons.mp ((insertFromEnd_perm precedes item rest).mem_iff.mp hother) with
      | inl hother =>
        rw [hother]
        exact horders.asymm item hitem last hsorted.1 hprecedes
      | inr hother => exact h.1 other hother
    · next hprecedes =>
      rw [Bool.not_eq_true] at hprecedes
      rw [List.pairwise_cons]
      refine ⟨?_, h⟩
      rw [List.pairwise_cons] at h
      rw [List.forall_mem_cons]
      refine ⟨hprecedes, ?_⟩
      intro other hother
      exact horders.trans item hitem last hsorted.1 other (hsorted.2 hother) hprecedes (h.1 other hother)

theorem pairwise_foldl_insertFromEnd {rest sorted : List α} (horders : Orders precedes items)
    (hrest : rest ⊆ items) (hsorted : sorted ⊆ items)
    (h : sorted.Pairwise fun later earlier => precedes later earlier = false) :
    (rest.foldl (fun sorted item => insertFromEnd precedes item sorted) sorted).Pairwise
      fun later earlier => precedes later earlier = false := by
  induction rest generalizing sorted with
  | nil => exact h
  | cons item rest ih =>
    rw [List.cons_subset] at hrest
    apply ih hrest.2
    · exact insertFromEnd_subset hrest.1 hsorted
    · exact pairwise_insertFromEnd horders hrest.1 hsorted h

theorem pairwise_sortStable (horders : Orders precedes items) :
    (sortStable precedes items).Pairwise fun earlier later => precedes later earlier = false := by
  unfold sortStable
  rw [List.pairwise_reverse]
  apply pairwise_foldl_insertFromEnd horders (List.Subset.refl items)
  · exact List.nil_subset items
  · exact .nil

theorem filter_insertFromEnd {p : α → Bool} {item : α} {sorted : List α}
    (h : p item = true → ∀ last ∈ sorted, p last = true → precedes item last = false) :
    (insertFromEnd precedes item sorted).filter p = [item].filter p ++ sorted.filter p := by
  induction sorted with
  | nil => rw [insertFromEnd, List.filter_nil, List.append_nil]
  | cons last rest ih =>
    have hrest : p item = true → ∀ other ∈ rest, p other = true → precedes item other = false :=
      fun hitem other hother => h hitem other (List.mem_cons_of_mem last hother)
    unfold insertFromEnd
    split
    · next hprecedes =>
      rw [List.filter_cons, ih hrest]
      cases hitem : p item with
      | false => simp [hitem, List.filter_cons]
      | true =>
        have hlast : p last ≠ true := by
          intro hlast
          rw [h hitem last List.mem_cons_self hlast] at hprecedes
          cases hprecedes
        simp [hlast]
    · rw [← List.singleton_append, List.filter_append]

theorem filter_foldl_insertFromEnd {p : α → Bool} {rest sorted : List α} (hrest : rest ⊆ items)
    (hsorted : sorted ⊆ items)
    (h : ∀ a ∈ items, ∀ b ∈ items, p a = true → p b = true → precedes a b = false) :
    (rest.foldl (fun sorted item => insertFromEnd precedes item sorted) sorted).filter p
      =
    (rest.filter p).reverse ++ sorted.filter p := by
  induction rest generalizing sorted with
  | nil => simp
  | cons item rest ih =>
    rw [List.cons_subset] at hrest
    have hitem : p item = true → ∀ last ∈ sorted, p last = true → precedes item last = false :=
      fun hp last hlast => h item hrest.1 last (hsorted hlast) hp
    rw [List.foldl_cons, ih hrest.2 (insertFromEnd_subset hrest.1 hsorted), filter_insertFromEnd hitem]
    cases hp : p item with
    | false | true => simp [hp]

theorem filter_sortStable {p : α → Bool}
    (h : ∀ a ∈ items, ∀ b ∈ items, p a = true → p b = true → precedes a b = false) :
    (sortStable precedes items).filter p = items.filter p := by
  unfold sortStable
  rw [List.filter_reverse, filter_foldl_insertFromEnd (List.Subset.refl items) (List.nil_subset items) h]
  simp

end

theorem Chained.symm {first second both : Ordering} (h : Chained first second both) :
    Chained second first both where
  eq_second := h.eq_first
  eq_first := h.eq_second
  eq_common hsame := (h.eq_common hsame.symm).trans hsame.symm

namespace Document

def Precedes (sort a b : Document) : Prop :=
  ∃ before key after, sort = before ++ key :: after
    ∧ (∀ other ∈ before, compareAt other.1 other.2 a b = .eq)
    ∧ compareAt key.1 key.2 a b = .lt

def Ties (sort a b : Document) : Prop := ∀ key ∈ sort, compareAt key.1 key.2 a b = .eq

instance (sort a : Document) : DecidablePred (Ties sort a) :=
  fun b => inferInstanceAs (Decidable (∀ key ∈ sort, compareAt key.1 key.2 a b = .eq))

theorem compareBy_eq_lt_iff {sort a b : Document} : compareBy sort a b = .lt ↔ Precedes sort a b := by
  induction sort with
  | nil => simp [compareBy, Precedes]
  | cons key rest ih =>
    rw [compareBy, Ordering.then_eq_lt, ih]
    constructor
    · rintro (hkey | ⟨hkey, before, other, after, rfl, hbefore, hother⟩)
      · exact ⟨[], key, rest, rfl, by simp, hkey⟩
      · exact ⟨key :: before, other, after, rfl, List.forall_mem_cons.mpr ⟨hkey, hbefore⟩, hother⟩
    · rintro ⟨before, other, after, hsort, hbefore, hother⟩
      cases before with
      | nil =>
        cases hsort
        exact .inl hother
      | cons first before =>
        cases hsort
        rw [List.forall_mem_cons] at hbefore
        exact .inr ⟨hbefore.1, before, other, after, rfl, hbefore.2, hother⟩

theorem compareBy_eq_eq_iff {sort a b : Document} : compareBy sort a b = .eq ↔ Ties sort a b := by
  induction sort with
  | nil => simp [compareBy, Ties]
  | cons key rest ih =>
    unfold Ties at ih ⊢
    rw [compareBy, Ordering.then_eq_eq, ih, List.forall_mem_cons]

theorem compareAt_swap (field : String) (order : Value) (a b : Document) :
    compareAt field order b a = (compareAt field order a b).swap := by
  unfold compareAt
  split
  · apply Value.order_swap
  · apply Value.order_swap

theorem compareBy_swap (sort a b : Document) : compareBy sort b a = (compareBy sort a b).swap := by
  induction sort with
  | nil => rfl
  | cons key rest ih => rw [compareBy, compareBy, compareAt_swap, ih, Ordering.swap_then]

def HasPlaces (sort document : Document) : Prop :=
  ∀ key ∈ sort, (document.sortValue key.1).hasPlace = true

theorem compareAt_chained (field : String) (order : Value) {a b c : Document}
    (ha : (a.sortValue field).hasPlace = true) (hb : (b.sortValue field).hasPlace = true)
    (hc : (c.sortValue field).hasPlace = true) :
    Chained (compareAt field order a b) (compareAt field order b c) (compareAt field order a c) := by
  unfold compareAt
  split
  · apply Chained.symm
    exact Collated.order_chained _ hc _ _ hb ha
  · exact Collated.order_chained _ ha _ _ hb hc

theorem compareBy_chained {sort a b c : Document} (ha : HasPlaces sort a) (hb : HasPlaces sort b)
    (hc : HasPlaces sort c) :
    Chained (compareBy sort a b) (compareBy sort b c) (compareBy sort a c) := by
  induction sort with
  | nil => constructor <;> simp [compareBy]
  | cons key rest ih =>
    unfold HasPlaces at ha hb hc ih
    rw [List.forall_mem_cons] at ha hb hc
    apply Chained.lexicographic
    · exact compareAt_chained key.1 key.2 ha.1 hb.1 hc.1
    · exact ih ha.2 hb.2 hc.2

theorem orders_compareBy {sort : Document} {documents : List Document}
    (h : ∀ document ∈ documents, HasPlaces sort document) :
    Orders (fun a b => compareBy sort a b == .lt) documents where
  asymm := by
    intro a _ b _ hab
    rw [beq_iff_eq] at hab
    rw [beq_eq_false_iff_ne, compareBy_swap, hab]
    nofun
  trans := by
    intro a ha b hb c hc hab hbc
    rw [beq_eq_false_iff_ne, compareBy_swap, ne_eq, Ordering.swap_eq_lt] at hab hbc ⊢
    -- not to precede is an order from the other side
    exact (compareBy_chained (h c hc) (h b hb) (h a ha)).ne_gt hbc hab

theorem compareBy_of_ties {sort a b document : Document} (ha : HasPlaces sort a) (hb : HasPlaces sort b)
    (hdocument : HasPlaces sort document) (hta : Ties sort document a) (htb : Ties sort document b) :
    compareBy sort a b = .eq := by
  rw [← compareBy_eq_eq_iff] at hta htb
  have htied : compareBy sort a document = .eq := by
    rw [compareBy_swap, hta]
    rfl
  rw [(compareBy_chained ha hdocument hb).eq_second htied, htb]

end Document

/--
A list of documents is another one brought into the order of a sort document: it holds the same documents,
none of them precedes an earlier one, and those that tie with a document are in the order in which they
were.
-/
structure IsSorting (sort : Document) (documents sorted : List Document) : Prop where
  perm : sorted.Perm documents
  ordered : sorted.Pairwise fun earlier later => ¬Document.Precedes sort later earlier
  stable : ∀ document ∈ documents,
    sorted.filter (Document.Ties sort document ·) = documents.filter (Document.Ties sort document ·)

theorem isSorting_sortDocuments {sort : Document} {documents : List Document}
    (h : ∀ document ∈ documents, Document.HasPlaces sort document) :
    IsSorting sort documents (sortDocuments sort documents) where
  perm := sortStable_perm _ documents
  ordered := by
    have hpairs := pairwise_sortStable (Document.orders_compareBy h)
    apply hpairs.imp
    intro earlier later hfalse
    rw [← Document.compareBy_eq_lt_iff]
    exact beq_eq_false_iff_ne.mp hfalse
  stable := by
    intro document hdocument
    apply filter_sortStable
    intro a ha b hb hta htb
    rw [decide_eq_true_eq] at hta htb
    rw [Document.compareBy_of_ties (h a ha) (h b hb) (h document hdocument) hta htb]
    rfl

theorem isSorting_sortDocuments_two_keys :
    let entry (id : Int32) (n tag : Value) : Document := [("_id", .int32 id), ("n", n), ("tag", tag)]
    let documents : List Document :=
      [entry 1 (.int32 1) (.string "b"), entry 2 (.array [.int32 2, .double 0.5]) .null,
        entry 3 (.double 1) (.string "a"), entry 4 (.int64 1) (.string "b"), [("_id", .int32 5)]]
    let sort : Document := [("n", .double (-1)), ("tag", .int32 1)]
    (∀ document ∈ documents, ∀ key ∈ sort, (document.sortValue key.1).holdsNumbers = true)
      ∧
    IsSorting sort documents
      [entry 2 (.array [.int32 2, .double 0.5]) .null, entry 3 (.double 1) (.string "a"),
        entry 1 (.int32 1) (.string "b"), entry 4 (.int64 1) (.string "b"), [("_id", .int32 5)]] := by
  intro entry documents sort
  have hnumbers : ∀ document ∈ documents, ∀ key ∈ sort,
      (document.sortValue key.1).holdsNumbers = true := by
    decide
  have hplaces : ∀ document ∈ documents, Document.HasPlaces sort document := by
    intro document hdocument key hkey
    exact Value.hasPlace_of_holdsNumbers _ (hnumbers document hdocument key hkey)
  exact ⟨hnumbers, isSorting_sortDocuments hplaces⟩

end DocQuery
