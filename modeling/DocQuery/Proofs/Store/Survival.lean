import DocQuery.Collection
import DocQuery.Proofs.Store.Run
import DocQuery.Proofs.Update.Field
import Mathlib.Data.List.Forall2

/-!
This module contains when the ids of documents survive updates. An update may not name the id, but it may
name a path that leads into it, and then the id is what the operators below it make of it.
-/

namespace DocQuery
namespace Document

def leavesId (ops : Document) (id : Value) : Prop :=
  update [("_id", id)] (aimedAt "_id" ops) = .ok [("_id", id)]

theorem id?_update_iff {document updated ops : Document} {id : Value} (hid : document.id? = some id)
    (hok : document.update ops = .ok updated) : updated.id? = some id ↔ ops.leavesId id := by
  have hupdate := @restrict_update "_id" _ _ _ hok
  rw [Fields.restrict_eq_singleton_iff.mpr hid] at hupdate
  unfold leavesId
  rw [hupdate, Except.ok.injEq]
  exact Fields.restrict_eq_singleton_iff.symm

def UpdatedBy (ops before after : Document) : Prop := after = before ∨ before.update ops = .ok after

end Document

namespace Store

theorem forall₂_updatedBy_self (ops : Document) (documents : List Document) :
    List.Forall₂ (Document.UpdatedBy ops) documents documents := by
  apply List.forall₂_same.mpr
  intro document _
  exact Or.inl rfl

theorem forall₂_updateDocuments [Pattern.Engine] (predicate ops : Document) (documents : List Document) :
    List.Forall₂ (Document.UpdatedBy ops) documents (updateDocuments predicate ops documents).2 := by
  induction documents with
  | nil => exact .nil
  | cons document rest ih =>
    unfold updateDocuments
    split
    · apply forall₂_updatedBy_self
    · exact .cons (Or.inl rfl) ih
    · next patched hpatch => exact .cons (Or.inr (update_of_patch? hpatch)) ih

theorem forall₂_updateMany [Pattern.Engine] (store : Store) (predicate ops : Document)
    (collection name : String) :
    List.Forall₂ (Document.UpdatedBy ops)
      (store.documents name) ((store.updateMany predicate ops collection).2.documents name) := by
  unfold updateMany
  split
  · apply forall₂_updatedBy_self
  · next documents hget =>
    dsimp only
    rw [documents_put]
    split
    · next hname =>
      rw [← hname, documents_of_get? hget]
      apply forall₂_updateDocuments
    · apply forall₂_updatedBy_self

end Store

namespace Collection

section

variable [Pattern.Engine]

inductive Updates (collection : Collection) : StoreM UInt64 → Document → Prop where
  | edit (selector : Selector) (patch : Document) :
    Updates collection (collection.edit selector patch) [("$set", .document patch)]
  | increase (selector : Selector) (field : String) (value : Value) :
    Updates collection (collection.increase selector field value)
      [("$inc", .document [(field, value)])]
  | multiply (selector : Selector) (field : String) (value : Value) :
    Updates collection (collection.multiply selector field value)
      [("$mul", .document [(field, value)])]
  | updateMany (predicate ops : Document) :
    Updates collection (send (.updateMany predicate ops collection.name)) ops

theorem Updates.eq_send {collection : Collection} {call : StoreM UInt64} {ops : Document}
    (h : collection.Updates call ops) :
    ∃ predicate, call = send (.updateMany predicate ops collection.name) := by
  cases h with
  | edit selector | increase selector | multiply selector => exact ⟨selector.compile, rfl⟩
  | updateMany predicate => exact ⟨predicate, rfl⟩

theorem id_survives_iff (ops : Document) :
    (∀ (document updated : Document) (id : Value), document.id? = some id →
      document.update ops = .ok updated → (updated.id? = some id ↔ ops.leavesId id))
      ∧
    ∀ (collection : Collection) (call : StoreM UInt64), collection.Updates call ops →
      ∀ (store : Store) (name : String),
        List.Forall₂
          (fun before after => ∀ id, before.id? = some id →
            after = before ∨ (after.id? = some id ↔ ops.leavesId id))
          (store.documents name) ((call store).2.documents name) := by
  constructor
  · intro document updated id hid hok
    exact Document.id?_update_iff hid hok
  · intro collection call hcall store name
    rcases hcall.eq_send with ⟨predicate, hsend⟩
    rw [hsend, Store.send_eq]
    apply (store.forall₂_updateMany predicate ops collection.name name).imp
    intro before after hafter id hid
    apply hafter.imp_right
    exact Document.id?_update_iff hid

end

theorem id_survives_same_write :
    let ops : Document := [("$set", .document [("_id.x", .int32 1), ("a", .int32 2)])]
    let id : Value := .document [("x", .int32 1)]
    let store : Store := ⟨[("c", [[("_id", id), ("a", .int32 1)]])], Store.firstId⟩
    ops.leavesId id
      ∧
    Document.id? [("_id", id), ("a", .int32 2)] = some id
      ∧
    ∃ after : Document, after.id? = some id ∧
      ((edit { name := "c" } .all [("_id.x", .int32 1), ("a", .int32 2)] : StoreM UInt64) store).2.documents
        "c" = [after] := by
  intro ops id store
  have hleaves : ops.leavesId id := rfl
  have hupdate : Document.update [("_id", id), ("a", .int32 1)] ops
      = .ok [("_id", id), ("a", .int32 2)] := rfl
  refine ⟨hleaves, ((id_survives_iff ops).1 _ _ _ rfl hupdate).mpr hleaves, ?_⟩
  have hcall := (id_survives_iff ops).2 { name := "c" } _
    (.edit .all [("_id.x", .int32 1), ("a", .int32 2)]) store "c"
  rcases List.forall₂_cons_left_iff.mp hcall with ⟨after, rest, hafter, hrest, hdocuments⟩
  rw [List.forall₂_nil_left_iff.mp hrest] at hdocuments
  refine ⟨after, ?_, hdocuments⟩
  cases hafter id rfl with
  | inl hsame =>
    rw [hsame]
    rfl
  | inr hiff => exact hiff.mpr hleaves

theorem not_immutable_of_inner_path :
    ¬ ∀ (document updated ops : Document) (id : Value), document.id? = some id →
      document.update ops = .ok updated → updated.id? = some id := by
  intro hlaw
  have hid := hlaw [("_id", .int32 1)] _ [("$set", .document [("_id.x", .int32 2)])] _ rfl rfl
  cases hid

end Collection
end DocQuery
