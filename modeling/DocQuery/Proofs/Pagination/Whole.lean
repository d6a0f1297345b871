import DocQuery.Proofs.Pagination.Partition

/-!
This module contains the proof that reading a collection page by page, with any size that is asked for, is
reading it at once.
-/

namespace DocQuery

theorem Limits.toNat_clamp_le (limits : Limits) (size : UInt64) :
    (limits.clamp size).toNat ≤ max limits.maxSize.toNat 1 := by
  unfold clamp
  dsimp only
  split
  · rw [Word.toNat_min, Word.toNat_max limits.maxSize]
    exact Nat.min_le_right _ _
  · rw [Word.toNat_min, Word.toNat_max]
    exact Nat.min_le_right _ _

theorem Limits.clamp_clamp (limits : Limits) (size : UInt64) :
    limits.clamp (limits.clamp size) = limits.clamp size := by
  have hpos := limits.toNat_clamp_pos size
  have hle := limits.toNat_clamp_le size
  have hsize : limits.clamp size ≠ 0 := by
    intro hzero
    rw [hzero] at hpos
    cases hpos
  generalize limits.clamp size = clamped at *
  unfold clamp
  dsimp only
  rw [if_neg hsize, ← UInt64.toNat_inj, Word.toNat_min, Word.toNat_max]
  exact Nat.min_eq_left hle

theorem Predicate.exists_select [Pattern.Engine] {predicate : Document} {documents : List Document}
    (h : ∀ document ∈ documents, ∃ met, holds document predicate = .ok met) :
    ∃ selected, select predicate documents = .ok selected := by
  refine ⟨documents.filter fun document => (holds document predicate).toOption.getD false, ?_⟩
  apply select_eq_filter
  intro document hmem
  rcases h document hmem with ⟨met, hmet⟩
  rw [hmet]
  rfl

namespace Collection

section

variable [Pattern.Engine] {collection : Collection} {query : Query} {store : Store}
  {selected : List Document}
  (hselect : Reading.plain.select store collection.name query = .ok selected)
  (hlength : selected.length ≤ Word.signedLimit)

include hselect hlength

theorem items_page (chunk : UInt64) (page : Nat)
    (hpage : page < selected.length ⌈/⌉ (collection.config.limits.clamp chunk).toNat) :
    ∃ served : Page Document,
      (collection.page query {
          page := UInt64.ofNat (page + 1)
          size := collection.config.limits.clamp chunk
          computeTotal := false
        } : StoreM (Page Document)) store
        =
      (.ok served, store)
        ∧
      served.items
        =
      window (collection.config.limits.clamp chunk).toNat page (Reading.plain.arrange query selected) := by
  have hpageBy := pageBy_eq collection .plain query {
    page := UInt64.ofNat (page + 1)
    size := collection.config.limits.clamp chunk
    computeTotal := false
  } store
  rw [← Limits.clamp_clamp] at hpage
  have hitems := Reading.plain.items_serve_ofNat query collection.config.limits
    (collection.config.limits.clamp chunk) hlength false hpage
  rw [Limits.clamp_clamp] at hitems
  rw [hselect] at hpageBy
  exact ⟨_, hpageBy, hitems⟩

theorem readPages_eq (chunk : UInt64) (left first : Nat)
    (h : first + left ≤ selected.length ⌈/⌉ (collection.config.limits.clamp chunk).toNat) :
    (collection.readPages query (collection.config.limits.clamp chunk) left (UInt64.ofNat (first + 1)) :
      StoreM (List Document)) store
      =
    (.ok ((List.range' first left).flatMap
        (window (collection.config.limits.clamp chunk).toNat · (Reading.plain.arrange query selected))),
      store) := by
  induction left generalizing first with
  | zero => rfl
  | succ left ih =>
    have hrest := ih (first + 1) (by omega)
    have hnext : UInt64.ofNat (first + 1) + 1 = UInt64.ofNat (first + 1 + 1) :=
      (UInt64.ofNat_add (first + 1) 1).symm
    rcases items_page hselect hlength chunk first (by omega) with ⟨served, hserved, hitems⟩
    rw [readPages, Store.bind_of_ok hserved, hnext, Store.bind_of_ok hrest, hitems, List.range'_succ,
      List.flatMap_cons]
    rfl

end

theorem readAll_eq [Pattern.Engine] {collection : Collection} {store : Store} (query : Query)
    (chunk : UInt64) (hstored : (store.documents collection.name).length < 2 ^ 63) :
    (collection.readAll query chunk : StoreM (List Document)) store
      =
    (Reading.plain.arrange query <$> Reading.plain.select store collection.name query, store) := by
  have hcount : (send (.countDocuments query.predicate collection.name) : StoreM UInt64) store
      = (Reading.plain.count <$> Reading.plain.select store collection.name query, store) := by
    rw [Store.send_countDocuments, Store.countDocuments_eq]
    rfl
  unfold readAll
  cases hselect : Reading.plain.select store collection.name query with
  | error failure =>
    rw [hselect] at hcount
    rw [Store.bind_of_error hcount]
    rfl
  | ok selected =>
    have hlength : selected.length ≤ Word.signedLimit := by
      have hle := Reading.length_select_le hselect nofun
      unfold Word.signedLimit
      omega
    have hpos := collection.config.limits.toNat_clamp_pos chunk
    have hpages : (pageCount (Reading.plain.count selected) (collection.config.limits.clamp chunk)).toNat
        = (Reading.plain.arrange query selected).length
          ⌈/⌉ (collection.config.limits.clamp chunk).toNat := by
      rw [toNat_pageCount hpos, Reading.plain.toNat_count hlength, Reading.length_arrange]
    have hread := readPages_eq hselect hlength chunk ((Reading.plain.arrange query selected).length
      ⌈/⌉ (collection.config.limits.clamp chunk).toNat) 0 (by rw [Reading.length_arrange, Nat.zero_add])
    rw [hselect] at hcount
    rw [Store.bind_of_ok hcount, hpages]
    rw [← List.range_eq_range', flatMap_window_eq_self _ hpos] at hread
    exact hread

theorem readAll_eq_find [Pattern.Engine] {collection : Collection} {store : Store} (query : Query)
    (chunk : UInt64) (hstored : (store.documents collection.name).length < 2 ^ 63) :
    (collection.readAll query chunk : StoreM (List Document)) store
      =
    (store.find query.predicate { projection := query.projection?, sort := query.order? } collection.name,
      store)
      ∧
    ((∀ document ∈ store.documents collection.name,
        ∃ met, Predicate.holds document query.predicate = .ok met) →
      ∃ rows, (collection.readAll query chunk : StoreM (List Document)) store = (.ok rows, store)) := by
  have hread := readAll_eq query chunk hstored
  have hrows := Reading.plain.rows_eq store collection.name query
  constructor
  · rw [hread, ← hrows]
    rfl
  · intro htotal
    rcases Predicate.exists_select htotal with ⟨selected, hselected⟩
    have hselect : Reading.plain.select store collection.name query = .ok selected := by
      unfold Reading.select Reading.head Store.aggregate
      rw [Pipeline.run_singleton, Stage.run_filter, hselected]
    rw [hread, hselect]
    exact ⟨_, rfl⟩

theorem readAll_eq_find_one_by_one :
    let entry (id : Int32) (tag : Value) : Document := [("_id", .int32 id), ("tag", tag)]
    let store : Store :=
      ⟨[("c", [entry 1 (.string "a"), entry 2 .null, entry 3 (.string "b"), entry 4 (.int32 0)])],
        Store.firstId⟩
    let collection : Collection := { name := "c", config := { limits := { maxSize := 0, defaultSize := 0 } } }
    let query : Query := {
      selector := .matching (.fields [("tag", .all [(.ne, .null)])])
      projection := .native [("tag", .int32 0)]
      order := ⟨[("tag", .native (.int32 (-1)))]⟩
    }
    (store.documents collection.name).length < 2 ^ 63
      ∧
    (collection.readAll query 7 : StoreM (List Document)) store
      = (.ok [[("_id", .int32 3)], [("_id", .int32 1)], [("_id", .int32 4)]], store) := by
  intro entry store collection query
  have hstored : (store.documents collection.name).length < 2 ^ 63 := by
    decide
  refine ⟨hstored, ?_⟩
  rw [(readAll_eq_find query 7 hstored).1]
  rfl

end Collection

end DocQuery
