import DocQuery.Proofs.Pagination.Partition

/-!
This module contains what a projection does to pages. A plain page has the same rows with fewer fields. The
other readings project rows before they sort them, so it depends on the fields that are kept what rows are
on a page.
-/

namespace DocQuery
namespace Query

def SortsProjected (query : Query) (rows : List Document) : Prop :=
  query.sortRows (rows.map query.projectRow) = (query.sortRows rows).map query.projectRow

theorem sortsProjected_of_sortValue {query : Query} {rows : List Document}
    (h : ∀ row ∈ rows, ∀ key ∈ query.order?.getD [],
      (query.projectRow row).sortValue key.1 = row.sortValue key.1) :
    query.SortsProjected rows := by
  apply sortRows_map
  exact h

end Query

namespace Reading

variable {reading : Reading} {query : Query} {selected : List Document}

theorem arrange_projected_iff
    (hmany : ∀ join, reading = .joined join → join.flattenToOne = false) :
    reading.arrange query selected
        = (reading.arrange { query with projection := .all } selected).map query.projectRow
      ↔
    (reading = .plain ∨ query.SortsProjected selected) := by
  have hall : Query.projectRow { query with projection := .all } = id := rfl
  have hsort : Query.sortRows { query with projection := .all } = query.sortRows := rfl
  cases reading with
  | plain =>
    unfold arrange
    rw [hall, hsort, List.map_id]
    simp
  | unwound field =>
    unfold arrange
    rw [hall, hsort, List.map_id]
    simp [Query.SortsProjected]
  | joined join =>
    have hreshape : ∀ rows : List Document, join.reshape rows = rows := by
      intro rows
      unfold Join.reshape
      rw [hmany join rfl]
      rfl
    unfold arrange
    rw [hall, hsort, List.map_id]
    simp [Query.SortsProjected, hreshape]

theorem serve_projected (cursor : Cursor)
    (h : reading.arrange query selected
      = (reading.arrange { query with projection := .all } selected).map query.projectRow) :
    reading.serve query cursor selected
      =
    (reading.serve { query with projection := .all } cursor selected).map query.projectRow := by
  unfold serve Page.map Page.mapItems Page.serve
  rw [h, slice_map]

theorem arrange_projected_of_serve (limits : Limits) (hfits : selected.length ≤ Word.signedLimit)
    (h : ∀ cursor : Cursor,
      reading.serve query (cursor.normalized limits) selected
        =
      (reading.serve { query with projection := .all } (cursor.normalized limits) selected).map
        query.projectRow) :
    reading.arrange query selected
      =
    (reading.arrange { query with projection := .all } selected).map query.projectRow := by
  -- the pages of any one size contain all rows, so the default size will do
  have hserved := (reading.partition_serve query limits 0 hfits).flatMap_items true
  have hall := (reading.partition_serve { query with projection := .all } limits 0 hfits).flatMap_items true
  have hitems : ∀ page ∈ List.range (selected.length ⌈/⌉ (limits.clamp 0).toNat),
      (reading.serve query (Cursor.normalized { page := UInt64.ofNat (page + 1), size := 0 } limits)
        selected).items
        =
      (reading.serve { query with projection := .all }
        (Cursor.normalized { page := UInt64.ofNat (page + 1), size := 0 } limits)
        selected).items.map query.projectRow := by
    intro page _
    rw [h]
    rfl
  rw [length_arrange] at hserved hall
  rw [← hserved, List.flatMap_congr hitems, ← List.map_flatMap, hall]

end Reading

namespace Collection

section

variable [Pattern.Engine]

/--
The page of a query is the page with all fields, projected row by row; or both are refused.
-/
def ProjectsPage (collection : Collection) (reading : Reading) (query : Query) (store : Store)
    (cursor : Cursor) : Prop :=
  (collection.pageBy reading query cursor : StoreM (Page Document)) store
    =
  (Page.map query.projectRow <$>
    ((collection.pageBy reading { query with projection := .all } cursor : StoreM (Page Document)) store).1,
    store)

theorem projectsPage_iff {collection : Collection} {reading : Reading} {query : Query} {store : Store}
    {cursor : Cursor} :
    collection.ProjectsPage reading query store cursor
      ↔
    ∀ selected, reading.select store collection.name query = .ok selected →
      reading.serve query (cursor.normalized collection.config.limits) selected
        =
      (reading.serve { query with projection := .all } (cursor.normalized collection.config.limits)
        selected).map query.projectRow := by
  have hselect : reading.select store collection.name { query with projection := .all }
      = reading.select store collection.name query := by
    cases reading <;> rfl
  unfold ProjectsPage
  rw [pageBy_eq, pageBy_eq, hselect]
  cases reading.select store collection.name query with
  | error failure =>
    constructor
    · intro _ selected hselected
      cases hselected
    · intro _
      rfl
  | ok selected =>
    constructor
    · intro h other hother
      cases hother
      exact Except.ok.inj (congrArg Prod.fst h)
    · intro h
      exact congrArg (Except.ok ·, store) (h selected rfl)

theorem pages_projected {collection : Collection} {reading : Reading} {query : Query} {store : Store}
    (hmany : ∀ join, reading = .joined join → join.flattenToOne = false) :
    (reading = .plain → ∀ cursor, collection.ProjectsPage reading query store cursor)
      ∧
    ((∀ selected, reading.select store collection.name query = .ok selected → query.SortsProjected selected) →
      ∀ cursor, collection.ProjectsPage reading query store cursor)
      ∧
    (reading ≠ .plain → (∀ cursor, collection.ProjectsPage reading query store cursor) →
      ∀ selected, reading.select store collection.name query = .ok selected →
        selected.length < 2 ^ 63 → query.SortsProjected selected) := by
  refine ⟨?_, ?_, ?_⟩
  · intro hplain cursor
    rw [projectsPage_iff]
    intro selected _
    apply Reading.serve_projected
    exact (Reading.arrange_projected_iff hmany).mpr (.inl hplain)
  · intro hsorts cursor
    rw [projectsPage_iff]
    intro selected hselected
    apply Reading.serve_projected
    exact (Reading.arrange_projected_iff hmany).mpr (.inr (hsorts selected hselected))
  · intro hother hpages selected hselected hheld
    have hfits : selected.length ≤ Word.signedLimit := by
      unfold Word.signedLimit
      omega
    have harrange := Reading.arrange_projected_of_serve collection.config.limits hfits
      fun cursor => projectsPage_iff.mp (hpages cursor) selected hselected
    exact ((Reading.arrange_projected_iff hmany).mp harrange).resolve_left hother

end

theorem pages_projected_kept_key :
    let post (id day : Int32) : Document := [("_id", .int32 id), ("day", .int32 day), ("text", .string "a")]
    let join : Join := {
      source := "d", localField := "_id", foreignField := "post", target := "notes", flattenToOne := false
    }
    let store : Store := ⟨[("c", [post 1 1, post 2 2])], Store.firstId⟩
    let query : Query := {
      projection := .native [("day", .int32 1), ("notes", .int32 1)]
      order := ⟨[("day", .native (.int32 (-1)))]⟩
    }
    join.flattenToOne = false
      ∧
    ∀ cursor, ProjectsPage { name := "c" } (.joined join) query store cursor := by
  intro post join store query
  have hmany : ∀ other, Reading.joined join = .joined other → other.flattenToOne = false := by
    intro other hsame
    cases hsame
    rfl
  have hselect : (Reading.joined join).select store "c" query
      = .ok [post 1 1 ++ [("notes", .array [])], post 2 2 ++ [("notes", .array [])]] := by
    cbv
  refine ⟨rfl, (pages_projected hmany).2.1 ?_⟩
  intro selected hselected
  rw [hselect] at hselected
  cases hselected
  apply Query.sortsProjected_of_sortValue
  intro row hrow key hkey
  cases List.mem_singleton.mp hkey
  simp only [List.mem_cons, List.not_mem_nil, or_false] at hrow
  rcases hrow with rfl | rfl
  · rfl
  · rfl

theorem not_projectsPage_of_dropped_key :
    let post (id day : Int32) (tags : Value) : Document :=
      [("_id", .int32 id), ("tags", tags), ("day", .int32 day)]
    let store : Store :=
      ⟨[("c", [post 1 1 (.array [.string "a"]), post 2 2 (.array [.string "b"])])], Store.firstId⟩
    let query : Query := {
      projection := .native [("tags", .int32 1)]
      order := ⟨[("day", .native (.int32 (-1)))]⟩
    }
    ¬ ProjectsPage { name := "c" } (.unwound "tags") query store { size := 1 } := by
  intro post store query hprojects
  have hselect : (Reading.unwound "tags").select store "c" query
      = .ok [post 1 1 (.string "a"), post 2 2 (.string "b")] := by
    rfl
  have hserve := projectsPage_iff.mp hprojects _ hselect
  have hitems : ((Reading.unwound "tags").serve query
      (Cursor.normalized { size := 1 } (Collection.config { name := "c" }).limits)
      [post 1 1 (.string "a"), post 2 2 (.string "b")]).items
      = [[("_id", .int32 1), ("tags", .string "a")]] := by
    rfl
  rw [hserve] at hitems
  cases hitems

end Collection
end DocQuery
