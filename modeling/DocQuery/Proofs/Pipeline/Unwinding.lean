import DocQuery.Proofs.Pagination.Partition
import DocQuery.Proofs.Path.Writing
import DocQuery.Proofs.Predicate.Evaluation

/-!
This module contains what unwinding an array makes of documents: one row for each element, which is found where
the array was, between the other fields of the document as they were.
-/

namespace DocQuery

theorem Fields.getElem?_insert_eq_some_iff {α : Type} {key name : String} (h : name ≠ key) (fields : Fields α)
    (value other : α) (index : Nat) :
    (insert fields key value)[index]? = some (name, other) ↔ fields[index]? = some (name, other) := by
  induction fields generalizing index with
  | nil =>
    cases index with
    | zero => simp [insert, Ne.symm h]
    | succ index => simp [insert]
  | cons field rest ih =>
    obtain ⟨first, old⟩ := field
    rw [insert]
    split
    · next hfirst =>
      cases index with
      | zero => simp [hfirst, Ne.symm h]
      | succ index => rfl
    · cases index with
      | zero => rfl
      | succ index => exact ih index

namespace Document

theorem set_eq_insert (document : Document) (path : Path) (value : Value) :
    ∃ written, document.set path value = Fields.insert document path.head written := by
  unfold set
  cases path.tail with
  | nil => exact ⟨value, rfl⟩
  | cons => exact ⟨_, rfl⟩

structure Row (document : Document) (path : Path) (item : Value) (row : Document) : Prop where
  found : row.lookup? path = some item
  names_eq : Fields.names row = Fields.names document
  kept (index : Nat) (name : String) (value : Value) (h : name ≠ path.head) :
    row[index]? = some (name, value) ↔ document[index]? = some (name, value)

theorem row_set {document : Document} {path : Path} {value : Value} (h : document.lookup? path = some value)
    (item : Value) : document.Row path item (document.set path item) := by
  obtain ⟨written, hset⟩ := document.set_eq_insert path item
  constructor
  · apply lookup?_set
  · obtain ⟨top, hget, _⟩ := Option.bind_eq_some_iff.mp h
    have hmem : path.head ∈ Fields.names document := by
      rw [← Fields.contains_iff, Fields.contains, hget]
      rfl
    rw [hset, Fields.names_insert, if_pos hmem]
  · intro index name value hname
    rw [hset]
    apply Fields.getElem?_insert_eq_some_iff
    exact hname

/--
The rows that a document is unwound into.
-/
structure Unwinds (path : Path) (document : Document) (rows : List Document) : Prop where
  none (h : document.lookup? path = none ∨ document.lookup? path = some .null) : rows = []
  single {value : Value} (h : document.lookup? path = some value) (hnull : value ≠ .null)
    (harray : ∀ items, value ≠ .array items) : rows = [document]
  each {items : List Value} (h : document.lookup? path = some (.array items)) :
    List.Forall₂ (document.Row path) items rows

theorem unwinds_unwindRows (path : Path) (document : Document) :
    document.Unwinds path (Stage.unwindRows path false document) := by
  constructor
  case none =>
    intro h
    unfold Stage.unwindRows
    cases h with
    | inl hnone => rw [hnone]; rfl
    | inr hnull => rw [hnull]; rfl
  case single =>
    intro value h hnull harray
    unfold Stage.unwindRows
    rw [h]
    cases value with
    | null => exact absurd rfl hnull
    | array items => exact absurd rfl (harray items)
    | _ => rfl
  case each =>
    intro items h
    have hrows : Stage.unwindRows path false document = items.map (document.set path) := by
      unfold Stage.unwindRows
      rw [h]
      -- an empty array makes no rows, like a missing value
      cases items with
      | nil | cons => rfl
    rw [hrows, List.forall₂_map_right_iff, List.forall₂_same]
    intro item _
    exact row_set h item

end Document

namespace Stage

inductive UnwindsOnly (field : String) : Value → Prop where
  | text : UnwindsOnly field (.string (fieldRef field))
  | options {options : Document} (hpath : Fields.get? options "path" = some (.string (fieldRef field)))
      (hkeep : Fields.get? options "preserveNullAndEmptyArrays" ≠ some (.bool true)) :
      UnwindsOnly field (.document options)

theorem readUnwind_of_unwindsOnly {field : String} {spec : Value} (h : UnwindsOnly field spec) :
    readUnwind spec = .ok (.ofString field, false) := by
  rw [← readUnwind_fieldRef]
  cases h with
  | text => rfl
  | options hpath hkeep =>
    unfold readUnwind
    simp only [hpath]
    split
    · next preserve hpreserve =>
      cases preserve with
      | true => exact absurd hpreserve hkeep
      | false => rfl
    · rfl

theorem run_of_unwindsOnly [Pattern.Engine] {field : String} {spec : Value} (h : UnwindsOnly field spec)
    (more : Document) (collections : Collections) (documents : List Document) :
    run collections documents (("$unwind", spec) :: more)
      =
    .ok (documents.flatMap (unwindRows (.ofString field) false)) := by
  unfold run
  simp only [readUnwind_of_unwindsOnly h]
  rfl

end Stage

namespace Reading

theorem select_unwound_of_no_predicate [Pattern.Engine] {query : Query} (h : query.predicate = [])
    (field : String) (store : Store) (collection : String) :
    (unwound field).select store collection query
      =
    .ok ((store.documents collection).flatMap (Stage.unwindRows (.ofString field) false)) := by
  have hall : ∀ rows : List Document, Predicate.select [] rows = .ok rows := by
    intro rows
    have hfilter := @Predicate.select_eq_filter _ [] rows (fun _ => true) fun _ _ => rfl
    rw [hfilter, List.filter_true]
  unfold select head Store.aggregate
  dsimp only
  rw [Pipeline.run_cons, Stage.run_unwind, Outcome.ok_bind, Pipeline.run_singleton, h, Stage.run_filter, hall]

end Reading

namespace Collection

theorem unwinding_faithful [Pattern.Engine] (field : String) (documents : List Document) :
    ∃ rows : List (List Document),
      List.Forall₂ (Document.Unwinds (.ofString field)) documents rows
        ∧
      (∀ spec, Stage.UnwindsOnly field spec → ∀ more collections,
        Stage.run collections documents (("$unwind", spec) :: more) = .ok rows.flatten)
        ∧
      ∀ (collection : Collection) (store : Store) (query : Query) (cursor : Cursor),
        store.documents collection.name = documents → query.predicate = [] → cursor.computeTotal = true →
        (rows.map List.length).sum ≤ Word.signedLimit →
          ∃ page, (collection.pageUnwound field query cursor : StoreM (Page Document)) store = (.ok page, store)
            ∧ page.total.map UInt64.toNat = some (rows.map List.length).sum := by
  refine ⟨documents.map (Stage.unwindRows (.ofString field) false), ?_, ?_, ?_⟩
  · rw [List.forall₂_map_right_iff, List.forall₂_same]
    intro document _
    apply Document.unwinds_unwindRows
  · intro spec hspec more collections
    rw [Stage.run_of_unwindsOnly hspec, List.flatMap_def]
  · intro collection store query cursor hdocuments hquery hcounted hfits
    have hpage := collection.pageBy_eq (.unwound field) query cursor store
    rw [Reading.select_unwound_of_no_predicate hquery, hdocuments, List.flatMap_def] at hpage
    refine ⟨_, hpage, ?_⟩
    rw [← List.length_flatten] at hfits ⊢
    rw [Reading.total_serve, Option.map_some, Reading.toNat_count _ hfits]
    exact hcounted

theorem unwinding_faithful_indexed :
    let documents : List Document :=
      [[("_id", .string "1"), ("a", .array [.document [("b", .array [.string "x", .null])], .string "z"]),
          ("n", .bool true)],
        [("_id", .string "2"), ("a", .array [.string "b"])],
        [("_id", .string "3"), ("a", .array [.document [("b", .null)]])],
        [("_id", .string "4"), ("a", .document [("0", .document [("b", .string "y")])])]]
    let unwound : List Document :=
      [[("_id", .string "1"), ("a", .document [("0", .document [("b", .string "x")])]), ("n", .bool true)],
        [("_id", .string "1"), ("a", .document [("0", .document [("b", .null)])]), ("n", .bool true)],
        [("_id", .string "4"), ("a", .document [("0", .document [("b", .string "y")])])]]
    let store : Store := ⟨[("c", documents)], Store.firstId⟩
    Stage.run [] documents (Stage.unwind "a.0.b") = .ok unwound
      ∧
    store.documents "c" = documents ∧ ({} : Query).predicate = []
      ∧
    ∃ page,
      (Collection.pageUnwound { name := "c" } "a.0.b" {} {} : StoreM (Page Document)) store = (.ok page, store)
        ∧ page.total.map UInt64.toNat = some 3 := by
  intro documents unwound store
  have hunwound : Stage.run [] documents (Stage.unwind "a.0.b") = .ok unwound := by rfl
  have hdocuments : store.documents "c" = documents := by rfl
  obtain ⟨rows, _, hrun, hpage⟩ := unwinding_faithful "a.0.b" documents
  have hflatten : unwound = rows.flatten := by
    rw [← Except.ok.injEq, ← hunwound]
    exact hrun _ .text [] []
  have hsum : (rows.map List.length).sum = 3 := by
    rw [← List.length_flatten, ← hflatten]
    rfl
  rw [hsum] at hpage
  exact ⟨hunwound, hdocuments, rfl, hpage { name := "c" } store {} {} hdocuments rfl rfl (by decide)⟩

end Collection
end DocQuery
