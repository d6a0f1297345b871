import DocQuery.Collection
import DocQuery.Proofs.Store.Staging

/-!
This module contains what a refused insertion leaves behind. No document of any collection changes, but a
collection that did not exist does so afterwards, so that everything stays as it was only where it existed.
-/

namespace DocQuery

namespace Store

section

variable [Pattern.Engine]

/--
Whoever asks for the collections of a store and for their documents cannot tell it from another one.
-/
structure Unchanged (store after : Store) : Prop where
  listed (name : Option String) : after.listCollections name = store.listCollections name
  found (name : String) :
    ((Database.hasCollection name : StoreM Bool) after).1
      =
    ((Database.hasCollection name : StoreM Bool) store).1
  documents (name : String) : after.documents name = store.documents name

theorem hasCollection_eq (store : Store) (name : String) :
    (Database.hasCollection name : StoreM Bool) store
      =
    (.ok ((store.listCollections (some name)).any (· == name)), store) := rfl

omit [Pattern.Engine] in
theorem mem_listCollections_iff {store : Store} {name : String} :
    name ∈ store.listCollections (some name) ↔ Fields.contains store.collections name = true := by
  unfold listCollections
  rw [List.mem_filter, Fields.contains_iff]
  simp

theorem unchanged_of_collections_eq {store after : Store} (h : after.collections = store.collections) :
    store.Unchanged after := by
  have hlisted : ∀ name, after.listCollections name = store.listCollections name := by
    intro name
    unfold listCollections
    rw [h]
  constructor
  · exact hlisted
  · intro name
    rw [hasCollection_eq, hasCollection_eq, hlisted]
  · intro name
    unfold Store.documents
    rw [h]

end

theorem put_documents_of_contains {store : Store} {collection : String}
    (h : Fields.contains store.collections collection = true) :
    store.put collection (store.documents collection) = store := by
  rcases Option.isSome_iff_exists.mp h with ⟨documents, hget⟩
  unfold put
  rw [documents_of_get? hget, Fields.insert_of_get? hget]

theorem put_documents_of_not_contains {store : Store} {collection : String}
    (h : ¬Fields.contains store.collections collection = true) :
    (store.put collection (store.documents collection)).collections
      =
    store.collections ++ [(collection, [])] := by
  have hnot : collection ∉ Fields.names store.collections := fun hmem => h ((Fields.contains_iff _ _).mpr hmem)
  have hget := (Fields.get?_eq_none_iff store.collections collection).mpr hnot
  unfold put Store.documents Collections.documents
  rw [hget]
  exact Fields.insert_of_not_mem _ hnot

section

variable {store after : Store} {document : Document} {documents : List Document} {collection : String}
  {failure : Failure}

theorem collections_of_insertMany_error
    (hfail : store.insertMany documents collection = (.error failure, after)) :
    after.collections = (store.put collection (store.documents collection)).collections := by
  rcases stage_of_insertMany_error (congrArg Prod.fst hfail) with ⟨nextId, hstage⟩
  rw [insertMany_of_stage_error hstage] at hfail
  cases hfail
  rfl

theorem insertMany_of_insertOne_error (hfail : store.insertOne document collection = (.error failure, after)) :
    store.insertMany [document] collection = (.error failure, after) := by
  rw [insertMany_singleton, hfail]
  rfl

theorem contains_of_insertOne_error (hfail : store.insertOne document collection = (.error failure, after)) :
    Fields.contains store.collections collection = true := by
  by_contra hnot
  have hnone : Fields.get? store.collections collection = none := by simpa [Fields.contains] using hnot
  have hdocuments : store.documents collection = [] := by
    unfold Store.documents Collections.documents
    rw [hnone]
    rfl
  have hunique : checkUnique [] (document.ensureId store.nextId).2.1 collection = .ok () := rfl
  unfold insertOne at hfail
  rw [hdocuments] at hfail
  dsimp only at hfail
  rw [hunique] at hfail
  cases hfail

theorem unchanged_of_insertMany_error_iff [Pattern.Engine]
    (hfail : store.insertMany documents collection = (.error failure, after)) :
    store.Unchanged after ↔ Fields.contains store.collections collection = true := by
  have hafter := collections_of_insertMany_error hfail
  constructor
  · intro hunchanged
    rw [← mem_listCollections_iff, ← hunchanged.listed, mem_listCollections_iff, hafter, Fields.contains]
    unfold put
    rw [Fields.get?_insert_self]
    rfl
  · intro hcontains
    apply unchanged_of_collections_eq
    rw [hafter, put_documents_of_contains hcontains]

end

theorem refused_insert_unchanged_iff [Pattern.Engine] (store : Store) (collection : String) :
    (∀ document failure after,
      (send (.insertOne document collection) : StoreM Value) store = (.error failure, after) →
        store.Unchanged after)
      ∧
    ∀ documents failure after,
      (send (.insertMany documents collection) : StoreM (List Value)) store = (.error failure, after) →
        (∀ name, after.documents name = store.documents name)
          ∧
        (store.Unchanged after ↔ Fields.contains store.collections collection = true)
          ∧
        (¬Fields.contains store.collections collection = true →
          after.collections = store.collections ++ [(collection, [])]) := by
  constructor
  · intro document failure after hfail
    rw [send_eq] at hfail
    apply (unchanged_of_insertMany_error_iff (insertMany_of_insertOne_error hfail)).mpr
    exact contains_of_insertOne_error hfail
  · intro documents failure after hfail
    rw [send_eq] at hfail
    refine ⟨documents_of_insertMany_error hfail, unchanged_of_insertMany_error_iff hfail, ?_⟩
    intro hnot
    rw [collections_of_insertMany_error hfail, put_documents_of_not_contains hnot]

theorem refused_insert_unchanged_iff_third :
    let store : Store := ⟨[("c", [[("_id", .int32 7)]])], firstId⟩
    let batch : List Document := [[("_id", .int32 1)], [("a", .null)], [("_id", .double 7)]]
    ∃ after, (send (.insertMany batch "c") : StoreM (List Value)) store
        = (.error (.invalidDocument (.duplicateId (.double 7) "c")), after)
      ∧ Fields.contains store.collections "c" = true
      ∧ store.Unchanged after := by
  intro store batch
  have hfail : (send (.insertMany batch "c") : StoreM (List Value)) store
      = (.error (.invalidDocument (.duplicateId (.double 7) "c")), ⟨store.collections, firstId.next⟩) := by
    rfl
  have hcontains : Fields.contains store.collections "c" = true := by
    rfl
  refine ⟨_, hfail, hcontains, ?_⟩
  exact ((refused_insert_unchanged_iff store "c").2 batch _ _ hfail).2.1.mpr hcontains

theorem not_unchanged_of_new_collection :
    ¬ ∀ (store : Store) (documents : List Document) (collection : String) (failure : Failure) (after : Store),
      (send (.insertMany documents collection) : StoreM (List Value)) store = (.error failure, after) →
        store.Unchanged after := by
  intro hlaw
  have hunchanged := hlaw empty [[("_id", .int32 1)], [("_id", .int32 1)]] "c" _ _ rfl
  have hfound := hunchanged.found "c"
  cases hfound

end Store
end DocQuery
