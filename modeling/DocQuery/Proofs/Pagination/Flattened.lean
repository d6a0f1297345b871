import DocQuery.Proofs.Pagination.Joined
import DocQuery.Proofs.Pipeline.Joining

/-!
This module contains what is found under the target of a join that keeps one document for each row. The join
writes its documents at a path, while the row is reshaped under a name. As long as the target has no dot the
two are one, and otherwise the rows keep their lists.
-/

namespace DocQuery
namespace Join

variable {join : Join}

theorem attach_eq_set (collections : Collections) (row : Document) :
    join.attach collections row
      =
    row.set (.ofString join.target)
      (.array ((join.partners (collections.documents join.source) row).map .document)) := rfl

theorem get?_flatten_of_ne (row : Document) {target name : String} (h : target ≠ name) :
    Fields.get? (flatten row target) name = Fields.get? row name := by
  unfold flatten
  split
  · rfl
  · rfl
  · exact Fields.get?_insert_of_ne row _ h
  · exact Fields.get?_insert_of_ne row _ h

theorem lookup?_flatten_of_mem (row : Document) {target : String} (htarget : '.' ∈ target.toList) :
    (flatten row target).lookup? (.ofString target) = row.lookup? (.ofString target) := by
  apply Document.lookup?_congr
  apply get?_flatten_of_ne
  exact (Path.head_ofString_ne_self htarget).symm

theorem lookup?_flatten_of_not_mem (collections : Collections) (row : Document)
    (htarget : '.' ∉ join.target.toList) :
    (flatten (join.attach collections row) join.target).lookup? (.ofString join.target)
      =
    some (.document ((join.partners (collections.documents join.source) row).headD [])) := by
  rw [attach_eq_set, Path.ofString_of_not_mem htarget]
  unfold Document.set Document.setAt flatten Document.lookup?
  dsimp only
  rw [Fields.get?_insert_self]
  cases join.partners (collections.documents join.source) row with
  | nil | cons =>
    rw [List.map]
    dsimp only
    rw [Fields.get?_insert_self]
    rfl

/--
Does a row come from a document of a collection, with the first document that the join attached to it under
the target, or an empty one where there was none to attach?
-/
def HoldsFirst (join : Join) (store : Store) (collection : String) (row : Document) : Prop :=
  ∃ document ∈ store.documents collection,
    row = flatten (join.attach store.collections document) join.target
      ∧
    row.lookup? (.ofString join.target)
      = some (.document ((join.partners (store.documents join.source) document).headD []))

def HoldsAll (join : Join) (store : Store) (collection : String) (row : Document) : Prop :=
  ∃ document ∈ store.documents collection,
    row = flatten (join.attach store.collections document) join.target
      ∧
    row.lookup? (.ofString join.target)
      = some (.array ((join.partners (store.documents join.source) document).map .document))

theorem HoldsAll.not_holdsFirst {store : Store} {collection : String} {row : Document}
    (h : join.HoldsAll store collection row) : ¬join.HoldsFirst store collection row := by
  rcases h with ⟨_, _, _, hall⟩
  rintro ⟨_, _, _, hfirst⟩
  rw [hall] at hfirst
  cases hfirst

end Join

namespace Reading

theorem mem_arrange_of_mem_serve {reading : Reading} {query : Query} {cursor : Cursor}
    {selected : List Document} {item : Document} (h : item ∈ (reading.serve query cursor selected).items) :
    item ∈ reading.arrange query selected := by
  cases reading with
  | plain | unwound | joined => exact List.mem_of_mem_drop (List.mem_of_mem_take h)

variable {join : Join} {query : Query}

theorem mem_arrange_joined_iff {selected : List Document} {row : Document}
    (hflatten : join.flattenToOne = true) (hall : query.projection? = none) :
    row ∈ (joined join).arrange query selected
      ↔
    ∃ other ∈ selected, Join.flatten other join.target = row := by
  unfold arrange Join.reshape Query.sortRows
  dsimp only
  rw [if_pos hflatten, Query.projectRow_of_all hall, List.map_id, List.mem_map]
  simp only [mem_sortDocuments_iff]

end Reading

namespace Collection

section

variable [Pattern.Engine] {collection : Collection} {join : Join} {query : Query} {store : Store}
  {cursor : Cursor} {page : Page Document}
  (hflatten : join.flattenToOne = true) (hall : query.projection? = none)
  (hok : (collection.pageJoined join query cursor : StoreM (Page Document)) store = (.ok page, store))

include hflatten hall hok

theorem exists_document_of_mem_items {item : Document} (hitem : item ∈ page.items) :
    ∃ document ∈ store.documents collection.name,
      item = Join.flatten (join.attach store.collections document) join.target := by
  have hserve := collection.pageBy_eq (.joined join) query cursor store
  rw [Collection.pageBy, hok, Reading.select_joined_eq] at hserve
  rcases Outcome.map_eq_ok_iff.mp (Prod.mk.inj hserve).1.symm with ⟨selected, hselected, rfl⟩
  have harranged := Reading.mem_arrange_of_mem_serve hitem
  rcases (Reading.mem_arrange_joined_iff hflatten hall).mp harranged with ⟨row, hrow, rfl⟩
  have hattached := (Predicate.sublist_of_select hselected).subset hrow
  rcases List.mem_map.mp hattached with ⟨document, hdocument, rfl⟩
  exact ⟨document, hdocument, rfl⟩

theorem holdsFirst_of_mem_items (htarget : '.' ∉ join.target.toList) {item : Document}
    (hitem : item ∈ page.items) : join.HoldsFirst store collection.name item := by
  rcases exists_document_of_mem_items hflatten hall hok hitem with ⟨document, hdocument, rfl⟩
  exact ⟨document, hdocument, rfl, Join.lookup?_flatten_of_not_mem store.collections document htarget⟩

theorem holdsAll_of_mem_items (htarget : '.' ∈ join.target.toList) {item : Document}
    (hitem : item ∈ page.items) : join.HoldsAll store collection.name item := by
  rcases exists_document_of_mem_items hflatten hall hok hitem with ⟨document, hdocument, rfl⟩
  refine ⟨document, hdocument, rfl, ?_⟩
  rw [Join.lookup?_flatten_of_mem _ htarget, Join.attach_eq_set, Document.lookup?_set]
  rfl

theorem pageJoined_holdsFirst_iff :
    ((∀ item ∈ page.items, join.HoldsFirst store collection.name item)
        ↔ '.' ∉ join.target.toList ∨ page.items = [])
      ∧
    ('.' ∈ join.target.toList → ∀ item ∈ page.items, join.HoldsAll store collection.name item) := by
  have hholdsAll : '.' ∈ join.target.toList → ∀ item ∈ page.items,
      join.HoldsAll store collection.name item :=
    fun htarget _ hitem => holdsAll_of_mem_items hflatten hall hok htarget hitem
  refine ⟨?_, hholdsAll⟩
  constructor
  · intro hfirst
    by_cases htarget : '.' ∈ join.target.toList
    · right
      rw [List.eq_nil_iff_forall_not_mem]
      intro item hitem
      exact (hholdsAll htarget item hitem).not_holdsFirst (hfirst item hitem)
    · exact .inl htarget
  · rintro (htarget | hempty) item hitem
    · exact holdsFirst_of_mem_items hflatten hall hok htarget hitem
    · rw [hempty] at hitem
      cases hitem

end

theorem pageJoined_holdsFirst_iff_sorted :
    let post (title author : String) : Document := [("title", .string title), ("author", .string author)]
    let author (id name : String) : Document := [("id", .string id), ("name", .string name)]
    let store : Store :=
      ⟨[("c", [post "one" "a", post "two" "b"]), ("d", [author "b" "bo", author "b" "cy"])], Store.firstId⟩
    let join : Join := { source := "d", localField := "author", foreignField := "id", target := "author" }
    let query : Query := { order := ⟨[("title", .descending)]⟩ }
    let page : Page Document := {
      page := 1
      size := 2
      total := some 2
      pageCount := some 1
      items := [
        [("title", .string "two"), ("author", .document (author "b" "bo"))],
        [("title", .string "one"), ("author", .document [])]]
    }
    join.flattenToOne = true
      ∧
    query.projection? = none
      ∧
    (pageJoined { name := "c" } join query { size := 2 } : StoreM (Page Document)) store = (.ok page, store)
      ∧
    ∀ item ∈ page.items, join.HoldsFirst store "c" item := by
  intro post author store join query page
  let selected : List Document := [
    [("title", .string "one"), ("author", .array [])],
    [("title", .string "two"), ("author", .array [.document (author "b" "bo"), .document (author "b" "cy")])]]
  have hselect : (Reading.joined join).select store "c" query = .ok selected := by cbv
  have hserve : (Reading.joined join).serve query (Cursor.normalized { size := 2 } {}) selected = page := by
    cbv
  have hok : (pageJoined { name := "c" } join query { size := 2 } : StoreM (Page Document)) store
      = (.ok page, store) := by
    refine (pageBy_eq { name := "c" } (.joined join) query { size := 2 } store).trans ?_
    dsimp only
    rw [hselect]
    exact congrArg (fun page => (Except.ok page, store)) hserve
  have htarget : '.' ∉ join.target.toList := by decide
  exact ⟨rfl, rfl, hok, (pageJoined_holdsFirst_iff rfl rfl hok).1.mpr (.inl htarget)⟩

theorem not_holdsFirst_of_dotted_target :
    let author : Document := [("id", .string "a"), ("name", .string "ada")]
    let store : Store := ⟨[("c", [[("_id", .string "p"), ("key", .string "a")]]), ("d", [author])], Store.firstId⟩
    let join : Join := { source := "d", localField := "key", foreignField := "id", target := "x.author" }
    let item : Document :=
      [("_id", .string "p"), ("key", .string "a"), ("x", .document [("author", .array [.document author])])]
    let page : Page Document :=
      { page := 1, size := 20, total := some 1, pageCount := some 1, items := [item] }
    (pageJoined { name := "c" } join {} {} : StoreM (Page Document)) store = (.ok page, store)
      ∧
    ¬join.HoldsFirst store "c" item := by
  intro author store join item page
  have hselect : (Reading.joined join).select store "c" {} = .ok [item] := by cbv
  have hserve : (Reading.joined join).serve {} (Cursor.normalized {} {}) [item] = page := by cbv
  have hlookup : item.lookup? (.ofString join.target) = some (.array [.document author]) := by cbv
  constructor
  · refine (pageBy_eq { name := "c" } (.joined join) {} {} store).trans ?_
    dsimp only
    rw [hselect]
    exact congrArg (fun page => (Except.ok page, store)) hserve
  · rintro ⟨_, _, _, hfirst⟩
    rw [hlookup] at hfirst
    cases hfirst

end Collection
end DocQuery
