import DocQuery.Proofs.Pagination.Partition
import DocQuery.Proofs.Predicate.Reach
import DocQuery.Proofs.Update.Identity

/-!
This module contains what a join does to the pages of a query that does not look at the joined field: it
writes that field and changes nothing else, neither which rows are on a page nor how many there are.
-/

namespace DocQuery
namespace SortOrder

theorem mem_keys_of_mem_compile? {order : SortOrder} {key : String × Value}
    (h : key ∈ order.compile?.getD []) : ∃ direction, (key.1, direction) ∈ order.keys := by
  unfold compile? at h
  split at h
  · cases h
  · rcases List.mem_map.mp (Fields.mem_ofList h) with ⟨native, hmem, hkey⟩
    exact ⟨native.2, hkey ▸ hmem⟩

end SortOrder

namespace Join

variable (join : Join)

def attach (collections : Collections) : Document → Document :=
  Stage.attach (collections.documents join.source) (.ofString join.localField)
    (.ofString join.foreignField) (.ofString join.target)

theorem run_stage [Pattern.Engine] (collections : Collections) (rows : List Document) :
    Stage.run collections rows join.stage = .ok (rows.map (join.attach collections)) := rfl

section

variable {join : Join} (htarget : '.' ∉ join.target.toList)

include htarget

theorem get?_attach_of_ne (collections : Collections) (row : Document) {name : String}
    (h : name ≠ join.target) : Fields.get? (join.attach collections row) name = Fields.get? row name := by
  apply Document.get?_set_of_ne
  rw [Path.ofString_of_not_mem htarget]
  exact h.symm

theorem erase_attach (collections : Collections) (row : Document) :
    Fields.erase (join.attach collections row) join.target = Fields.erase row join.target := by
  unfold attach Stage.attach Document.set
  rw [Path.ofString_of_not_mem htarget]
  apply Fields.erase_insert

end

theorem erase_flatten (row : Document) (target : String) :
    Fields.erase (flatten row target) target = Fields.erase row target := by
  unfold flatten
  split
  · rfl
  · rfl
  · apply Fields.erase_insert
  · apply Fields.erase_insert

theorem map_erase_reshape (rows : List Document) :
    (join.reshape rows).map (Fields.erase · join.target) = rows.map (Fields.erase · join.target) := by
  unfold reshape
  split
  · rw [List.map_map]
    apply List.map_congr_left
    intro row _
    apply erase_flatten
  · rfl

end Join

namespace Reading

variable {join : Join} {query : Query}

theorem select_joined_eq [Pattern.Engine] (store : Store) (collection : String) :
    (joined join).select store collection query
      =
    Predicate.select query.predicate ((store.documents collection).map (join.attach store.collections)) := by
  unfold select head Store.aggregate
  rw [Pipeline.run_cons, Join.run_stage, Outcome.ok_bind, Pipeline.run_singleton, Stage.run_filter]

variable (htarget : '.' ∉ join.target.toList)

include htarget

theorem select_joined [Pattern.Engine] (store : Store) (collection : String)
    (hpredicate : ∀ path ∈ Predicate.paths query.predicate, path.head ≠ join.target) :
    (joined join).select store collection query
      =
    List.map (join.attach store.collections) <$> plain.select store collection query := by
  rw [select_joined_eq]
  unfold select head Store.aggregate
  rw [Pipeline.run_singleton, Stage.run_filter]
  apply Predicate.select_map
  intro row _
  apply Predicate.holds_congr
  intro path hpath
  apply Join.get?_attach_of_ne htarget
  exact hpredicate path hpath

theorem arrange_joined (collections : Collections) (selected : List Document)
    (hall : query.projection? = none)
    (hsort : ∀ key ∈ query.order.keys, (Path.ofString key.1).head ≠ join.target) :
    ((joined join).arrange query (selected.map (join.attach collections))).map (Fields.erase · join.target)
      =
    (plain.arrange query selected).map (Fields.erase · join.target) := by
  have hsorted : query.sortRows (selected.map (join.attach collections))
      = (query.sortRows selected).map (join.attach collections) := by
    apply Query.sortRows_map
    intro row _ key hkey
    rcases SortOrder.mem_keys_of_mem_compile? hkey with ⟨direction, hmem⟩
    apply Document.sortValue_congr
    apply Join.get?_attach_of_ne htarget
    exact hsort (key.1, direction) hmem
  unfold arrange
  rw [Join.map_erase_reshape, Query.projectRow_of_all hall, List.map_id, List.map_id, hsorted, List.map_map]
  apply List.map_congr_left
  intro row _
  exact Join.erase_attach htarget collections row

theorem serve_joined (collections : Collections) {selected : List Document} (cursor : Cursor)
    (hall : query.projection? = none)
    (hsort : ∀ key ∈ query.order.keys, (Path.ofString key.1).head ≠ join.target)
    (hfits : selected.length ≤ Word.signedLimit) :
    ((joined join).serve query cursor (selected.map (join.attach collections))).map
        (Fields.erase · join.target)
      =
    (plain.serve query cursor selected).map (Fields.erase · join.target) := by
  have hlength : (selected.map (join.attach collections)).length = selected.length := by
    apply List.length_map
  have htotal : (joined join).total cursor (selected.map (join.attach collections))
      = plain.total cursor selected := by
    have hcount : (joined join).count (selected.map (join.attach collections)) = plain.count selected := by
      rw [← UInt64.toNat_inj, toNat_count, toNat_count, hlength]
      · exact hfits
      · rw [hlength]
        exact hfits
    unfold total
    rw [hcount]
  have harrange := arrange_joined htarget collections selected hall hsort
  have hrows : ((plain.arrange query selected).map (Fields.erase · join.target)).length
      ≤ Word.signedLimit := by
    rw [List.length_map, length_arrange]
    exact hfits
  unfold serve Page.map Page.mapItems Page.serve
  rw [← slice_map, ← slice_map, htotal, harrange, slice_eq _ _ _ hrows, slice_eq _ _ _ hrows]

end Reading

namespace Collection

theorem pageJoined_map_erase [Pattern.Engine] {collection : Collection} {join : Join} {query : Query}
    {store : Store} (cursor : Cursor) (htarget : '.' ∉ join.target.toList) (hall : query.projection? = none)
    (hpredicate : ∀ path ∈ Predicate.paths query.predicate, path.head ≠ join.target)
    (hsort : ∀ key ∈ query.order.keys, (Path.ofString key.1).head ≠ join.target)
    (hstored : (store.documents collection.name).length < 2 ^ 63) :
    ∃ joined plain : Outcome (Page Document),
      (collection.pageJoined join query cursor : StoreM (Page Document)) store = (joined, store)
        ∧
      (collection.page query cursor : StoreM (Page Document)) store = (plain, store)
        ∧
      Page.map (Fields.erase · join.target) <$> joined
        = Page.map (Fields.erase · join.target) <$> plain := by
  refine ⟨_, _, collection.pageBy_eq (.joined join) query cursor store,
    collection.pageBy_eq .plain query cursor store, ?_⟩
  rw [Reading.select_joined htarget store collection.name hpredicate]
  cases hselect : Reading.plain.select store collection.name query with
  | error => rfl
  | ok selected =>
    have hfits : selected.length ≤ Word.signedLimit := by
      have hle := Reading.length_select_le hselect (by simp)
      unfold Word.signedLimit
      omega
    exact congrArg Except.ok (Reading.serve_joined htarget store.collections _ hall hsort hfits)

theorem pageJoined_map_erase_nested :
    let post (id day : Int32) : Document :=
      [("_id", .int32 id), ("notes", .string "none"), ("day", .int32 day)]
    let note (id post : Int32) : Document := [("_id", .int32 id), ("post", .int32 post)]
    let store : Store :=
      ⟨[("c", [post 1 1, post 2 2, post 3 3]), ("d", [note 8 3, note 9 1, note 10 3])], Store.firstId⟩
    let join : Join := { source := "d", localField := "_id", foreignField := "post", target := "notes" }
    let query : Query := {
      selector := .matching ((Filter.conj (.any [Filter.empty.withPair "day" .gt (.int32 0)])).orElse
        [Filter.empty.withEquals "_id" (.int32 1), Filter.empty.withPair "day.tag" .ne (.string "notes")])
      order := ⟨[("day", .descending)]⟩
    }
    let cursor : Cursor := { page := 2, size := 1, previousTotal := 2 }
    '.' ∉ join.target.toList
      ∧
    query.projection? = none
      ∧
    (∀ path ∈ Predicate.paths query.predicate, path.head ≠ join.target)
      ∧
    (∀ key ∈ query.order.keys, (Path.ofString key.1).head ≠ join.target)
      ∧
    (store.documents "c").length < 2 ^ 63
      ∧
    ∃ joined plain : Outcome (Page Document),
      (pageJoined { name := "c" } join query cursor : StoreM (Page Document)) store = (joined, store)
        ∧
      (page { name := "c" } query cursor : StoreM (Page Document)) store = (plain, store)
        ∧
      Page.map (Fields.erase · join.target) <$> joined
        = Page.map (Fields.erase · join.target) <$> plain := by
  intro post note store join query cursor
  have htarget : '.' ∉ join.target.toList := by decide
  have hpredicate : ∀ path ∈ Predicate.paths query.predicate, path.head ≠ join.target := by decide
  have hsort : ∀ key ∈ query.order.keys, (Path.ofString key.1).head ≠ join.target := by
    intro key hkey
    cases List.mem_singleton.mp hkey
    decide
  have hstored : (store.documents "c").length < 2 ^ 63 := by decide
  exact ⟨htarget, rfl, hpredicate, hsort, hstored,
    pageJoined_map_erase cursor htarget rfl hpredicate hsort hstored⟩

end Collection

end DocQuery
