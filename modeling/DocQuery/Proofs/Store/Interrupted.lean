import DocQuery.Proofs.Store.Run

/-!
This module contains what an update leaves behind when it fails on a document. The documents in front of that
one have been updated already and stay so, so that nothing changes only where none of them was to change.
-/

namespace DocQuery
namespace Store

section

variable [Pattern.Engine]

def reached (predicate update : Document) (documents : List Document) : List Document :=
  documents.takeWhile fun document => (patch? predicate update document).isOk

def spared (predicate update : Document) (documents : List Document) : List Document :=
  documents.dropWhile fun document => (patch? predicate update document).isOk

def patched (predicate update document : Document) : Document :=
  match patch? predicate update document with
  | .ok (some patched) => patched
  | _ => document

end

section

variable [Pattern.Engine] {predicate update document : Document} {rest : List Document}

theorem reached_cons_of_ok {result : Option Document}
    (hok : patch? predicate update document = .ok result) :
    reached predicate update (document :: rest) = document :: reached predicate update rest := by
  unfold reached
  rw [List.takeWhile_cons, hok]
  rfl

theorem reached_cons_of_error {failure : Failure}
    (hfail : patch? predicate update document = .error failure) :
    reached predicate update (document :: rest) = [] := by
  unfold reached
  rw [List.takeWhile_cons, hfail]
  rfl

theorem spared_cons_of_ok {result : Option Document}
    (hok : patch? predicate update document = .ok result) :
    spared predicate update (document :: rest) = spared predicate update rest := by
  unfold spared
  rw [List.dropWhile_cons, hok]
  rfl

theorem spared_cons_of_error {failure : Failure}
    (hfail : patch? predicate update document = .error failure) :
    spared predicate update (document :: rest) = document :: rest := by
  unfold spared
  rw [List.dropWhile_cons, hfail]
  rfl

theorem snd_updateDocuments_cons {result : Option Document}
    (hok : patch? predicate update document = .ok result) :
    (updateDocuments predicate update (document :: rest)).2
      =
    patched predicate update document :: (updateDocuments predicate update rest).2 := by
  rw [updateDocuments, patched, hok]
  cases result with
  | none | some => rfl

theorem updateDocuments_cons_error_iff {result : Option Document} {failure : Failure}
    (hok : patch? predicate update document = .ok result) :
    (updateDocuments predicate update (document :: rest)).1 = .error failure
      ↔
    (updateDocuments predicate update rest).1 = .error failure := by
  rw [updateDocuments, hok]
  cases result with
  | none => rfl
  | some =>
    -- the document that changes is only counted where no later one fails
    exact Outcome.map_eq_error_iff

end

section

variable [Pattern.Engine]

theorem reached_append_spared (predicate update : Document) (documents : List Document) :
    reached predicate update documents ++ spared predicate update documents = documents :=
  List.takeWhile_append_dropWhile

theorem snd_updateDocuments (predicate update : Document) (documents : List Document) :
    (updateDocuments predicate update documents).2
      =
    (reached predicate update documents).map (patched predicate update)
      ++ spared predicate update documents := by
  induction documents with
  | nil => rfl
  | cons document rest ih =>
    cases hpatch : patch? predicate update document with
    | error failure =>
      rw [reached_cons_of_error hpatch, spared_cons_of_error hpatch, updateDocuments, hpatch]
      rfl
    | ok result =>
      rw [reached_cons_of_ok hpatch, spared_cons_of_ok hpatch, snd_updateDocuments_cons hpatch, ih]
      rfl

theorem spared_of_updateDocuments_error {predicate update : Document} {documents : List Document}
    {failure : Failure} (hfail : (updateDocuments predicate update documents).1 = .error failure) :
    ∃ failing rest, spared predicate update documents = failing :: rest
      ∧ patch? predicate update failing = .error failure := by
  induction documents with
  | nil => cases hfail
  | cons document rest ih =>
    cases hpatch : patch? predicate update document with
    | error other =>
      rw [updateDocuments, hpatch] at hfail
      cases hfail
      exact ⟨document, rest, spared_cons_of_error hpatch, hpatch⟩
    | ok result =>
      rw [spared_cons_of_ok hpatch]
      exact ih ((updateDocuments_cons_error_iff hpatch).mp hfail)

theorem snd_updateDocuments_eq_self_iff (predicate update : Document) (documents : List Document) :
    (updateDocuments predicate update documents).2 = documents
      ↔
    ∀ document ∈ reached predicate update documents, patched predicate update document = document := by
  have hcancel := @List.append_left_inj _
    ((reached predicate update documents).map (patched predicate update))
    (reached predicate update documents) (spared predicate update documents)
  rw [reached_append_spared] at hcancel
  have hmap := @List.map_inj_left _ _ (reached predicate update documents) (patched predicate update) id
  rw [List.map_id] at hmap
  rw [snd_updateDocuments, hcancel]
  exact hmap

theorem failed_update_keeps_iff {store : Store} {predicate update : Document} {collection : String}
    {failure : Failure} (hfail : (store.updateMany predicate update collection).1 = .error failure) :
    (∃ failing rest, spared predicate update (store.documents collection) = failing :: rest
      ∧ patch? predicate update failing = .error failure)
      ∧
    (store.updateMany predicate update collection).2.documents collection
      =
    (reached predicate update (store.documents collection)).map (patched predicate update)
      ++ spared predicate update (store.documents collection)
      ∧
    ((∀ name, (store.updateMany predicate update collection).2.documents name = store.documents name)
      ↔
    ∀ document ∈ reached predicate update (store.documents collection),
      patched predicate update document = document) := by
  cases hget : Fields.get? store.collections collection with
  | none =>
    unfold updateMany at hfail
    rw [hget] at hfail
    cases hfail
  | some documents =>
    rw [updateMany_of_get? hget] at hfail ⊢
    rw [documents_of_get? hget]
    refine ⟨?_, ?_, ?_⟩
    · apply spared_of_updateDocuments_error
      exact Outcome.map_eq_error_iff.mp hfail
    · rw [documents_put, if_pos rfl, snd_updateDocuments]
    · rw [← snd_updateDocuments_eq_self_iff]
      constructor
      · intro hkept
        have hkept := hkept collection
        rw [documents_put, if_pos rfl, documents_of_get? hget] at hkept
        exact hkept
      -- the other collections are not touched
      · intro hkept name
        rw [hkept, ← documents_of_get? hget, documents_put_self]

end

theorem failed_update_keeps_unchanged :
    let store : Store := ⟨[("c", [[("_id", .int32 1), ("n", .int64 5)], [("_id", .int32 2), ("n", .string "x")],
      [("_id", .int32 3)]])], firstId⟩
    let update : Document := [("$inc", .document [("n", .int32 0)])]
    (store.updateMany [] update "c").1
        = .error (.invalidDocument (.notNumbers "$inc" (.int32 0) (.string "x")))
      ∧
    reached [] update (store.documents "c") = [[("_id", .int32 1), ("n", .int64 5)]]
      ∧
    ∀ name, (store.updateMany [] update "c").2.documents name = store.documents name := by
  intro store update
  have hfail : (store.updateMany [] update "c").1
      = .error (.invalidDocument (.notNumbers "$inc" (.int32 0) (.string "x"))) := rfl
  have hreached : reached [] update (store.documents "c") = [[("_id", .int32 1), ("n", .int64 5)]] := rfl
  refine ⟨hfail, hreached, (failed_update_keeps_iff hfail).2.2.mpr ?_⟩
  rw [hreached]
  exact List.forall_mem_singleton.mpr rfl

theorem not_kept_of_later_failure :
    ¬ ∀ (store : Store) (predicate update : Document) (collection : String) (failure : Failure),
      (store.updateMany predicate update collection).1 = .error failure →
        ∀ name, (store.updateMany predicate update collection).2.documents name = store.documents name := by
  intro hlaw
  have hkept := hlaw
    ⟨[("c", [[("_id", .int32 1), ("n", .int32 1)], [("_id", .int32 2), ("n", .string "x")]])], firstId⟩
    [] [("$inc", .document [("n", .int32 1)])] "c" _ rfl "c"
  cases hkept

end Store
end DocQuery
