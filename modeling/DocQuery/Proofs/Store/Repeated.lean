import DocQuery.Proofs.Store.Interrupted
import DocQuery.Proofs.Store.Picked
import DocQuery.Proofs.Store.Staging
import DocQuery.Proofs.Value.Reflexive

/-!
This module contains what happens where an update is issued a second time. If the update settles each document
that it changes, then nothing changes any more, whatever documents the predicate selects by then. To set the
fields of a patch is such an update.
-/

namespace DocQuery
namespace Document

/--
An update settles documents where what it makes of one is left as it is by the same update.
-/
def Settles (update : Document) : Prop :=
  ∀ ⦃document updated : Document⦄, document.update update = .ok updated → updated.update update = .ok updated

def writes (patch : Document) : List (Path × Value) :=
  patch.map fun field => (.ofString field.1, field.2)

theorem updateFields_set_eq_ok_iff {document updated patch : Document} :
    updateFields "$set" document patch = .ok updated
      ↔
    "_id" ∉ Fields.names patch ∧ document.setAll patch.writes = updated := by
  induction patch generalizing document with
  | nil => simp [updateFields, Fields.names, writes, setAll]
  | cons field rest ih =>
    rw [updateFields]
    by_cases hid : field.1 = "_id"
    · simp [updateField, hid, Fields.names, bind, Except.bind]
    · have hstep : updateField "$set" document field.1 field.2 = .ok (document.set (.ofString field.1) field.2) := by
        simp [updateField, hid]
      rw [hstep, Outcome.ok_bind, ih]
      simp [Fields.names, Ne.symm hid, writes, setAll]

theorem update_set_eq_ok_iff {document updated patch : Document} :
    document.update [("$set", .document patch)] = .ok updated
      ↔
    "_id" ∉ Fields.names patch ∧ document.setAll patch.writes = updated := by
  rw [← updateFields_set_eq_ok_iff]
  unfold update update
  cases updateFields "$set" document patch with
  | error | ok => rfl

theorem settles_set (patch : Document) : Settles [("$set", .document patch)] := by
  intro document updated hok
  rw [update_set_eq_ok_iff] at hok ⊢
  obtain ⟨hid, rfl⟩ := hok
  refine ⟨hid, ?_⟩
  apply setAll_setAll

theorem isFreeOfNaN_update_set {document updated patch : Document} (h : document.isFreeOfNaN = true)
    (hpatch : patch.isFreeOfNaN = true) (hok : document.update [("$set", .document patch)] = .ok updated) :
    updated.isFreeOfNaN = true := by
  obtain ⟨_, rfl⟩ := update_set_eq_ok_iff.mp hok
  apply isFreeOfNaN_setAll
  · exact h
  · rw [writes, List.forall_mem_map]
    exact Value.fieldsFreeOfNaN_iff.mp hpatch

end Document

namespace Store

section

variable [Pattern.Engine] {predicate update document : Document}

theorem patched_eq_or_update (predicate update document : Document) :
    patched predicate update document = document
      ∨
    document.update update = .ok (patched predicate update document) := by
  unfold patched
  split
  · next hpatch =>
    apply Or.inr
    exact update_of_patch? hpatch
  · apply Or.inl
    rfl

theorem not_same_of_patch? {patched : Document}
    (hok : patch? predicate update document = .ok (some patched)) : patched.same document = false := by
  obtain ⟨met, _, hok⟩ := Outcome.bind_eq_ok_iff.mp hok
  cases met with
  | false => cases hok
  | true =>
    obtain ⟨updated, _, hok⟩ := Outcome.bind_eq_ok_iff.mp hok
    split at hok
    · cases hok
    · next hsame =>
      cases hok
      simpa using hsame

theorem eq_of_patch?_patched {again : Document} (h : update.Settles)
    (hagain : patch? predicate update (patched predicate update document) = .ok (some again)) :
    again = patched predicate update document ∧ again.same again = false := by
  have hupdate := update_of_patch? hagain
  have hsame := not_same_of_patch? hagain
  cases hpatch : patch? predicate update document with
  | error failure => simp [patched, hpatch] at hagain
  | ok result =>
    cases result with
    | none => simp [patched, hpatch] at hagain
    | some next =>
      have hnext : patched predicate update document = next := by simp [patched, hpatch]
      rw [hnext] at hupdate hsame ⊢
      rw [h (update_of_patch? hpatch)] at hupdate
      cases hupdate
      exact ⟨rfl, hsame⟩

theorem patched_patched (h : update.Settles) (predicate document : Document) :
    patched predicate update (patched predicate update document) = patched predicate update document := by
  generalize hagain : patch? predicate update (patched predicate update document) = outcome
  rw [patched, hagain]
  split
  · exact (eq_of_patch?_patched h hagain).1
  · rfl

theorem snd_updateDocuments_again (h : update.Settles) (predicate : Document) (documents : List Document) :
    (updateDocuments predicate update (updateDocuments predicate update documents).2).2
      =
    (updateDocuments predicate update documents).2 := by
  induction documents with
  | nil => rfl
  | cons document rest ih =>
    cases hpatch : patch? predicate update document with
    | error failure =>
      -- the update stops at this document again
      simp only [updateDocuments, hpatch]
    | ok =>
      rw [snd_updateDocuments_cons hpatch]
      cases hagain : patch? predicate update (patched predicate update document) with
      | error failure => simp only [updateDocuments, hagain]
      | ok => rw [snd_updateDocuments_cons hagain, patched_patched h, ih]

theorem snd_updateDocuments_of_ok {documents : List Document} {count : Nat}
    (hok : (updateDocuments predicate update documents).1 = .ok count) :
    (updateDocuments predicate update documents).2 = documents.map (patched predicate update) := by
  induction documents generalizing count with
  | nil => rfl
  | cons document rest ih =>
    cases hpatch : patch? predicate update document with
    | error failure => simp [updateDocuments, hpatch] at hok
    | ok =>
      rw [snd_updateDocuments_cons hpatch, List.map_cons]
      cases hrest : (updateDocuments predicate update rest).1 with
      | error failure =>
        rw [(updateDocuments_cons_error_iff hpatch).mpr hrest] at hok
        cases hok
      | ok => rw [ih hrest]

theorem count_eq_zero {documents : List Document} {count : Nat}
    (h : ∀ document ∈ documents, ∀ again, patch? predicate update document ≠ .ok (some again))
    (hok : (updateDocuments predicate update documents).1 = .ok count) : count = 0 := by
  induction documents generalizing count with
  | nil =>
    cases hok
    rfl
  | cons document rest ih =>
    rw [List.forall_mem_cons] at h
    rw [updateDocuments] at hok
    split at hok
    · cases hok
    · exact ih h.2 hok
    · next again hpatch => exact absurd hpatch (h.1 again)

end

variable [Pattern.Engine]

theorem updateMany_again {update : Document} (h : update.Settles) (store : Store) (predicate : Document)
    (collection : String) :
    ((store.updateMany predicate update collection).2.updateMany predicate update collection).2
      =
    (store.updateMany predicate update collection).2 := by
  cases hget : Fields.get? store.collections collection with
  | none => simp [updateMany, hget]
  | some documents =>
    rw [updateMany_of_get? hget]
    dsimp only
    rw [updateMany_of_get? (Fields.get?_insert_self _ _ _), snd_updateDocuments_again h]
    unfold put
    rw [Fields.insert_insert]

theorem count_updateMany_again {update : Document} (h : update.Settles) {store : Store} {predicate : Document}
    {collection : String} {count again : UInt64}
    (hsame : ∀ document ∈ store.documents collection,
      (patched predicate update document).same (patched predicate update document) = true)
    (hok : (store.updateMany predicate update collection).1 = .ok count)
    (hagain : ((store.updateMany predicate update collection).2.updateMany predicate update collection).1
      = .ok again) : again = 0 := by
  cases hget : Fields.get? store.collections collection with
  | none =>
    simp only [updateMany, hget, Except.ok.injEq] at hagain
    rw [hagain]
  | some documents =>
    rw [documents_of_get? hget] at hsame
    rw [updateMany_of_get? hget] at hok hagain
    dsimp only at hagain
    rw [updateMany_of_get? (Fields.get?_insert_self _ _ _)] at hagain
    obtain ⟨changed, hchanged, _⟩ := Outcome.map_eq_ok_iff.mp hok
    obtain ⟨left, hleft, rfl⟩ := Outcome.map_eq_ok_iff.mp hagain
    rw [snd_updateDocuments_of_ok hchanged] at hleft
    have hzero : left = 0 := by
      apply count_eq_zero _ hleft
      rw [List.forall_mem_map]
      intro document hmem next hnext
      obtain ⟨rfl, hdiffers⟩ := eq_of_patch?_patched h hnext
      rw [hsame document hmem] at hdiffers
      cases hdiffers
    rw [hzero]
    rfl

theorem isFreeOfNaN_patched {patch document : Document} (predicate : Document) (h : document.isFreeOfNaN = true)
    (hpatch : patch.isFreeOfNaN = true) :
    (patched predicate [("$set", .document patch)] document).isFreeOfNaN = true := by
  cases patched_eq_or_update predicate [("$set", .document patch)] document with
  | inl hkept =>
    rw [hkept]
    exact h
  | inr hupdate =>
    apply Document.isFreeOfNaN_update_set
    · exact h
    · exact hpatch
    · exact hupdate

end Store

namespace Collection

theorem edit_again [Pattern.Engine] (collection : Collection) (selector : Selector) (patch : Document)
    (store : Store) :
    let edit : StoreM UInt64 := collection.edit selector patch
    (edit (edit store).2).2 = (edit store).2
      ∧
    ∀ count again, (edit store).1 = .ok count → (edit (edit store).2).1 = .ok again →
      patch.isFreeOfNaN = true →
      (∀ document ∈ store.documents collection.name, document.isFreeOfNaN = true) →
        again = 0 := by
  intro edit
  have hedit : ∀ store : Store, edit store
      = store.updateMany selector.compile [("$set", .document patch)] collection.name := fun _ => rfl
  simp only [hedit]
  constructor
  · apply Store.updateMany_again
    apply Document.settles_set
  · intro count again hok hagain hpatch hdocuments
    apply Store.count_updateMany_again (Document.settles_set patch) _ hok hagain
    intro document hmem
    apply Document.same_self
    apply Store.isFreeOfNaN_patched
    · exact hdocuments document hmem
    · exact hpatch

theorem edit_again_overlapping :
    let patch : Document := [("stats.top", .int32 7), ("n", .string "x"), ("stats", .document [("low", .null)]),
      ("stats.hits.day", .int32 1)]
    let edited : Document := [("_id", .int32 1),
      ("stats", .document [("low", .null), ("hits", .document [("day", .int32 1)])]), ("n", .string "x")]
    let other : Document := [("_id", .int32 2), ("hidden", .bool true)]
    let store : Store :=
      ⟨[("c", [[("_id", .int32 1), ("stats", .document [("hits", .int32 1)])], other])], Store.firstId⟩
    let after : Store := ⟨[("c", [edited, other])], Store.firstId⟩
    let selector : Selector := .matching (.fields [("hidden", .all [(.ne, .bool true)])])
    let edit : StoreM UInt64 := Collection.edit { name := "c" } selector patch
    edit store = (.ok 1, after)
      ∧
    patch.isFreeOfNaN = true
      ∧
    (∀ document ∈ store.documents "c", document.isFreeOfNaN = true)
      ∧
    (edit after).2 = after
      ∧
    ∃ again, (edit after).1 = .ok again ∧ again = 0 := by
  intro patch edited other store after selector edit
  have hedit : edit store = (.ok 1, after) := by rfl
  have hpatch : patch.isFreeOfNaN = true := by rfl
  have hdocuments : ∀ document ∈ store.documents "c", document.isFreeOfNaN = true := by
    simp only [store, Store.documents, Collections.documents]
    decide
  have hagain : (edit after).1 = .ok 0 := by
    have hsend : ∀ store, edit store = store.updateMany selector.compile [("$set", .document patch)] "c" :=
      fun _ => rfl
    have hget : Fields.get? after.collections "c" = some [edited, other] := by rfl
    have hmet : Predicate.holds edited selector.compile = .ok true := by rfl
    have hunmet : Predicate.holds other selector.compile = .ok false := by rfl
    have hupdate : edited.update [("$set", .document patch)] = .ok edited := by rfl
    have hsame : edited.same edited = true := by rfl
    rw [hsend, Store.updateMany_of_get? hget]
    simp only [Store.updateDocuments, Store.patch?_of_met hmet hupdate, hsame, Store.patch?_of_unmet hunmet]
    rfl
  obtain ⟨hkept, hcount⟩ := edit_again { name := "c" } selector patch store
  change (edit (edit store).2).2 = (edit store).2 at hkept
  change ∀ count again, (edit store).1 = .ok count → (edit (edit store).2).1 = .ok again → _ at hcount
  rw [hedit] at hkept hcount
  refine ⟨hedit, hpatch, hdocuments, hkept, 0, hagain, ?_⟩
  exact hcount 1 0 rfl hagain hpatch hdocuments

end Collection
end DocQuery
