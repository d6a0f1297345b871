import DocQuery.Proofs.Pagination.Reading
import DocQuery.Proofs.Projection.Including

/-!
This module contains what fields are returned where a query lists the names of those it wants. Nothing else comes
back, unless the id is all that is listed: then the list names nothing to keep, and every document comes back
whole.
-/

namespace DocQuery

namespace Document

theorem mem_names_set_iff {document : Document} {path : Path} {value : Value} {name : String} :
    name ∈ Fields.names (document.set path value) ↔ name ∈ Fields.names document ∨ name = path.head := by
  rcases path with ⟨head, tail⟩
  cases tail with
  | nil | cons => exact Fields.mem_names_insert_iff

theorem mem_names_copyPath {source target : Document} {path : Path} {name : String}
    (h : name ∈ Fields.names (copyPath source target path)) :
    name ∈ Fields.names target ∨ name = path.head := by
  unfold copyPath at h
  split at h
  · exact mem_names_set_iff.mp h
  · exact .inl h

theorem mem_names_foldl_copyPath {source target : Document} {paths : List Path} {name : String}
    (h : name ∈ Fields.names (paths.foldl (copyPath source) target)) :
    name ∈ Fields.names target ∨ ∃ path ∈ paths, name = path.head := by
  induction paths generalizing target with
  | nil => exact .inl h
  | cons path rest ih =>
    rcases ih h with htarget | ⟨other, hother, heq⟩
    · rcases mem_names_copyPath htarget with htarget | heq
      · exact .inl htarget
      · exact .inr ⟨path, List.mem_cons_self, heq⟩
    · exact .inr ⟨other, List.mem_cons_of_mem path hother, heq⟩

def ShowsListed (names : List String) (document : Document) : Prop :=
  ∀ field ∈ Fields.names document, field = "_id" ∨ ∃ name ∈ names, field = (Path.ofString name).head

theorem ShowsListed.of_nil {document : Document} (h : document.ShowsListed []) (names : List String) :
    document.ShowsListed names := by
  intro field hfield
  rcases h field hfield with hid | ⟨name, hname, -⟩
  · exact .inl hid
  · cases hname

theorem ShowsListed.nil_of_forall {document : Document} {names : List String}
    (h : document.ShowsListed names) (hnames : ∀ name ∈ names, name = "_id") : document.ShowsListed [] := by
  intro field hfield
  rcases h field hfield with hid | ⟨name, hname, heq⟩
  · exact .inl hid
  · have hhead : (Path.ofString "_id").head = "_id" := by decide
    rw [hnames name hname, hhead] at heq
    exact .inl heq

theorem showsListed_only (document projection : Document) :
    (document.only projection).ShowsListed (Fields.names projection) := by
  intro field hfield
  rw [only_eq_foldl] at hfield
  rcases mem_names_foldl_copyPath hfield with hnone | ⟨path, hpath, rfl⟩
  · cases hnone
  · have hhead : (Path.ofString "_id").head = "_id" := by decide
    unfold keptPaths at hpath
    rcases List.mem_append.mp hpath with hid | hkept
    · split at hid
      · rw [List.mem_singleton.mp hid]
        exact .inl hhead
      · cases hid
    · obtain ⟨entry, hentry, rfl⟩ := List.mem_map.mp hkept
      exact .inr ⟨entry.1, List.mem_map_of_mem (List.mem_filter.mp hentry).1, rfl⟩

end Document

namespace Projection

theorem mem_names_including_iff {names : List String} {name : String} :
    name ∈ Fields.names (including names) ↔ name ∈ names := by
  unfold including Fields.ofList
  rw [Fields.mem_names_merge_iff]
  simp [Fields.names]

theorem isSet_of_mem_including {names : List String} {entry : String × Value}
    (h : entry ∈ including names) : entry.2.isSet = true := by
  obtain ⟨name, -, rfl⟩ := List.mem_map.mp (Fields.mem_ofList h)
  rfl

theorem isInclusion_including_iff {names : List String} :
    Document.isInclusion (including names) = true ↔ ∃ name ∈ names, name ≠ "_id" := by
  unfold Document.isInclusion
  rw [List.any_eq_true]
  constructor
  · rintro ⟨entry, hentry, hkept⟩
    rw [Bool.and_eq_true, decide_eq_true_eq] at hkept
    exact ⟨entry.1, mem_names_including_iff.mp (List.mem_map_of_mem hentry), hkept.1⟩
  · rintro ⟨name, hname, hne⟩
    obtain ⟨entry, hentry, rfl⟩ := List.mem_map.mp (mem_names_including_iff.mpr hname)
    exact ⟨entry, hentry, by simp [hne, isSet_of_mem_including hentry]⟩

theorem project_including_of_forall {names : List String} (h : ∀ name ∈ names, name = "_id")
    (document : Document) : document.project (including names) = document := by
  have hexclusion : Document.isInclusion (including names) = false := by
    rw [Bool.eq_false_iff, ne_eq, isInclusion_including_iff]
    rintro ⟨name, hname, hne⟩
    exact hne (h name hname)
  have hcleared : (including names).filter (fun field => !field.2.isSet) = [] := by
    rw [List.filter_eq_nil_iff]
    intro entry hentry
    simp [isSet_of_mem_including hentry]
  unfold Document.project Document.without
  rw [hexclusion, hcleared]
  rfl

theorem showsListed_project_including {names : List String} (h : ∃ name ∈ names, name ≠ "_id")
    (document : Document) : (document.project (including names)).ShowsListed names := by
  unfold Document.project
  rw [if_pos (isInclusion_including_iff.mpr h)]
  intro field hfield
  rcases document.showsListed_only _ field hfield with hid | ⟨name, hname, heq⟩
  · exact .inl hid
  · exact .inr ⟨name, mem_names_including_iff.mp hname, heq⟩

theorem compile?_ofString {s : String} (hwild : Text.trim s ≠ "*") (hnames : Text.entries s ≠ []) :
    (ofString s).compile? = some (including (Text.entries s)) := by
  unfold ofString
  rw [if_neg hwild]
  unfold compile?
  dsimp only
  split
  · next hnil =>
    obtain ⟨name, hname⟩ := List.exists_mem_of_ne_nil _ hnames
    have hmem := mem_names_including_iff.mpr hname
    rw [hnil] at hmem
    cases hmem
  · rfl

end Projection

inductive Retrieval where
  | upTo (limit : UInt64)
  | paged (cursor : Cursor)

namespace Retrieval

def cut {α : Type} (limits : Limits) (count : Nat) (rows : List α) : Retrieval → List α
  | upTo limit => rows.take (limits.clampLimit limit).toNat
  | paged cursor =>
    let cursor := cursor.normalized limits
    let total := if cursor.computeTotal then some (UInt64.ofNat count) else none
    (rows.drop (cursor.offset total).toNat).take cursor.size.toNat

theorem cut_map {α β : Type} (retrieval : Retrieval) (limits : Limits) (count : Nat) (f : α → β)
    (rows : List α) :
    retrieval.cut limits count (rows.map f) = (retrieval.cut limits count rows).map f := by
  cases retrieval with
  | upTo limit => exact List.map_take.symm
  | paged cursor => simp [cut]

end Retrieval

namespace Collection

def retrieve {m : Type → Type} [Monad m] [MonadStore m] (collection : Collection) (query : Query) :
    Retrieval → m (List Document)
  | .upTo limit => collection.read query limit
  | .paged cursor => do return (← collection.page query cursor).items

variable (collection : Collection) (query : Query) (retrieval : Retrieval) (store : Store)

section

variable [Pattern.Engine]

theorem retrieve_eq :
    (collection.retrieve query retrieval : StoreM (List Document)) store
      =
    ((fun selected =>
        (retrieval.cut collection.config.limits selected.length (query.sortRows selected)).map query.projectRow)
      <$> store.aggregate [Stage.filter query.predicate] collection.name, store) := by
  cases retrieval with
  | upTo limit =>
    refine (Store.send_find store _ _ _).trans ?_
    rw [Store.find_eq]
    congr 2
    funext selected
    rw [← Retrieval.cut_map]
    rfl
  | paged cursor =>
    refine (Store.bind_pure_of_read Page.items (collection.page_eq query cursor store)).trans ?_
    rw [Functor.map_map]
    congr 2
    funext selected
    rw [← Retrieval.cut_map]
    rfl

/--
Do all the documents that are read show nothing but the id and what some names list?
-/
def RetrievesListed (names : List String) : Prop :=
  ∀ documents, (collection.retrieve query retrieval : StoreM (List Document)) store = (.ok documents, store) →
    ∀ document ∈ documents, document.ShowsListed names

theorem retrievesListed_iff (names : List String) :
    collection.RetrievesListed query retrieval store names
      ↔
    ∀ selected, store.aggregate [Stage.filter query.predicate] collection.name = .ok selected →
      ∀ row ∈ retrieval.cut collection.config.limits selected.length (query.sortRows selected),
        (query.projectRow row).ShowsListed names := by
  unfold RetrievesListed
  rw [retrieve_eq]
  cases store.aggregate [Stage.filter query.predicate] collection.name with
  | error failure =>
    constructor
    · intro _ selected hselected
      cases hselected
    · intro _ documents hdocuments
      cases hdocuments
  | ok selected =>
    constructor
    · intro h other hother
      cases hother
      exact List.forall_mem_map.mp (h _ rfl)
    · intro h documents hdocuments
      cases hdocuments
      exact List.forall_mem_map.mpr (h selected rfl)

theorem retrievesListed_ofString_iff {s : String} (hwild : Text.trim s ≠ "*") (hnames : Text.entries s ≠ []) :
    collection.RetrievesListed { query with projection := .ofString s } retrieval store (Text.entries s)
      ↔
    (∃ name ∈ Text.entries s, name ≠ "_id")
      ∨ collection.RetrievesListed { query with projection := .all } retrieval store [] := by
  have hproject : Query.projectRow { query with projection := .ofString s }
      = fun row => row.project (Projection.including (Text.entries s)) := by
    unfold Query.projectRow Query.projection?
    dsimp only
    rw [Projection.compile?_ofString hwild hnames]
  rw [retrievesListed_iff, retrievesListed_iff, hproject]
  by_cases hother : ∃ name ∈ Text.entries s, name ≠ "_id"
  · rw [iff_true_intro hother, true_or, iff_true]
    intro selected _ row _
    exact Projection.showsListed_project_including hother row
  · have hids : ∀ name ∈ Text.entries s, name = "_id" := by
      intro name hname
      by_contra hne
      exact hother ⟨name, hname, hne⟩
    -- the whole document comes back, so that the list may as well be empty
    have hrow : ∀ row : Document,
        (row.project (Projection.including (Text.entries s))).ShowsListed (Text.entries s)
          ↔ row.ShowsListed [] := by
      intro row
      rw [Projection.project_including_of_forall hids]
      exact ⟨fun h => h.nil_of_forall hids, fun h => h.of_nil _⟩
    rw [or_iff_right hother]
    simp only [hrow]
    rfl

end

theorem retrievesListed_ofString_iff_dotted :
    let s : String := " _id，title, meta.views ,,"
    let store : Store :=
      ⟨[("c", [[("_id", .int32 1), ("body", .string "b"), ("meta", .document [("views", .int32 3)])]])],
        Store.firstId⟩
    Text.trim s ≠ "*"
      ∧
    Text.entries s ≠ []
      ∧
    ∀ retrieval,
      RetrievesListed { name := "c" } { projection := .ofString s } retrieval store (Text.entries s) := by
  intro s store
  have hentries : Text.entries s = ["_id", "title", "meta.views"] := by decide
  have hwild : Text.trim s ≠ "*" := by decide
  have hnames : Text.entries s ≠ [] := by
    rw [hentries]
    exact List.cons_ne_nil _ _
  refine ⟨hwild, hnames, ?_⟩
  intro retrieval
  apply (retrievesListed_ofString_iff { name := "c" } {} retrieval store hwild hnames).mpr
  rw [hentries]
  exact .inl ⟨"title", by simp, by decide⟩

theorem not_retrievesListed_of_id :
    let store : Store := ⟨[("c", [[("_id", .int32 1), ("secret", .string "x")]])], Store.firstId⟩
    ¬RetrievesListed { name := "c" } { projection := .ofString "_id" } (.upTo 0) store
      (Text.entries "_id") := by
  intro store hlisted
  have hread : (retrieve { name := "c" } { projection := .ofString "_id" } (.upTo 0) :
      StoreM (List Document)) store
      = (.ok [[("_id", .int32 1), ("secret", .string "x")]], store) := by
    rfl
  have hshown := hlisted _ hread _ List.mem_cons_self
  revert hshown
  unfold Document.ShowsListed
  decide

end Collection
end DocQuery
