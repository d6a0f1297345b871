import DocQuery.Proofs.Collation.Equality
import DocQuery.Proofs.Store.Run
import DocQuery.Proofs.Update.Identity

/-!
This module contains the proof that ids stay unique: whatever calls a store has answered, every document
has an id, and no two documents of a collection share one.
-/

namespace DocQuery

theorem Document.id?_ensureId (document : Document) (nextId : ObjectId) :
    (document.ensureId nextId).1.id? = some (document.ensureId nextId).2.1 := by
  unfold Document.ensureId
  split
  · next hid => exact hid
  · apply Fields.get?_insert_self

namespace Store

def keys (documents : List Document) : List (Option Value) := documents.map (·.id?)

theorem keys_append (first second : List Document) : keys (first ++ second) = keys first ++ keys second :=
  List.map_append

theorem keys_singleton (document : Document) : keys [document] = [document.id?] := rfl

structure Distinct (keys : List (Option Value)) : Prop where
  present : none ∉ keys
  apart : keys.Pairwise fun first second => ∀ a ∈ first, ∀ b ∈ second, a.equals b = false

namespace Distinct

theorem nil : Distinct [] := by
  constructor
  · simp
  · exact List.Pairwise.nil

theorem sublist {keys kept : List (Option Value)} (h : Distinct keys) (hs : kept.Sublist keys) :
    Distinct kept := by
  constructor
  · intro hnone
    exact h.present (hs.subset hnone)
  · exact h.apart.sublist hs

theorem append_singleton {keys : List (Option Value)} {id : Value} (h : Distinct keys)
    (hfresh : ∀ a, some a ∈ keys → a.equals id = false) : Distinct (keys ++ [some id]) := by
  constructor
  · simp [h.present]
  · rw [List.pairwise_append]
    refine ⟨h.apart, List.pairwise_singleton _ _, ?_⟩
    intro first hfirst second hsecond a ha b hb
    rw [List.mem_singleton.mp hsecond, Option.mem_some_iff] at hb
    rw [← hb]
    apply hfresh
    rw [← Option.mem_def.mp ha]
    exact hfirst

theorem equals_of_ne {keys : List (Option Value)} (h : Distinct keys) {i j : Nat} {a b : Value}
    (hi : keys[i]? = some (some a)) (hj : keys[j]? = some (some b)) (hne : i ≠ j) :
    a.equals b = false := by
  have hlater : ∀ {i j : Nat} {a b : Value}, keys[i]? = some (some a) → keys[j]? = some (some b) →
      i < j → a.equals b = false := by
    intro i j a b hi hj hlt
    rcases List.getElem?_eq_some_iff.mp hi with ⟨hil, hi⟩
    rcases List.getElem?_eq_some_iff.mp hj with ⟨hjl, hj⟩
    exact List.pairwise_iff_getElem.mp h.apart i j hil hjl hlt a hi b hj
  cases Nat.lt_or_gt_of_ne hne with
  | inl hlt => exact hlater hi hj hlt
  | inr hgt =>
    rw [Value.equals_comm]
    exact hlater hj hi hgt

end Distinct

theorem equals_of_checkUnique {documents : List Document} {id a : Value} {collection : String}
    (hok : checkUnique documents id collection = .ok ()) (ha : some a ∈ keys documents) :
    a.equals id = false := by
  rcases List.mem_map.mp ha with ⟨document, hmem, hid⟩
  have hno := checkUnique_eq_ok_iff.mp hok document hmem
  unfold Document.hasId at hno
  rw [← Document.id?, hid] at hno
  exact (Bool.or_eq_false_iff.mp hno).1

theorem distinct_stage {existing documents staged result : List Document} {collection : String}
    {nextId next : ObjectId} {ids resultIds : List Value} (h : Distinct (keys (existing ++ staged)))
    (hok : stage existing collection nextId staged ids documents = (.ok (result, resultIds), next)) :
    Distinct (keys (existing ++ result)) := by
  induction documents generalizing staged ids nextId with
  | nil =>
    cases hok
    exact h
  | cons document rest ih =>
    rcases stage_cons_ok hok with ⟨hexisting, hstaged, hrest⟩
    apply ih _ hrest
    -- the id is checked against the stored documents and against those staged before
    rw [← List.append_assoc, keys_append, keys_singleton, Document.id?_ensureId]
    apply h.append_singleton
    intro a ha
    rw [keys_append, List.mem_append] at ha
    cases ha with
    | inl ha => exact equals_of_checkUnique hexisting ha
    | inr ha => exact equals_of_checkUnique hstaged ha

variable [Pattern.Engine]

theorem id?_patch {predicate update document patched : Document} (h : update.sparesId)
    (hok : patch? predicate update document = .ok (some patched)) : patched.id? = document.id? :=
  Document.id?_update h (update_of_patch? hok)

theorem keys_updateDocuments {update : Document} (h : update.sparesId) (predicate : Document)
    (documents : List Document) :
    keys (updateDocuments predicate update documents).2 = keys documents := by
  induction documents with
  | nil => rfl
  | cons document rest ih =>
    unfold keys at ih ⊢
    unfold updateDocuments
    split
    · rfl
    · rw [List.map_cons, List.map_cons, ih]
    · next patched hpatch =>
      rw [List.map_cons, List.map_cons, ih, id?_patch h hpatch]

theorem sublist_divide {predicate : Document} {documents selected others : List Document}
    (hok : divide predicate documents = .ok (selected, others)) : others.Sublist documents := by
  induction documents generalizing selected others with
  | nil =>
    cases hok
    exact List.Sublist.slnil
  | cons document rest ih =>
    rcases Outcome.bind_eq_ok_iff.mp hok with ⟨met, _, hok⟩
    rcases Outcome.bind_eq_ok_iff.mp hok with ⟨⟨restSelected, restOthers⟩, hrest, hok⟩
    have hsublist := ih hrest
    cases met with
    | true =>
      cases hok
      exact hsublist.cons document
    | false =>
      cases hok
      exact hsublist.cons_cons document

end Store

def Request.sparesId (α : Type) : Request α → Prop
  | .updateMany _ update _ => update.sparesId
  | _ => True

namespace Store

theorem kept_distinct [Pattern.Engine] : Kept Request.sparesId fun documents => Distinct
    (keys documents) where
  nil := Distinct.nil
  staged h hok := by
    apply distinct_stage _ hok
    rw [List.append_nil]
    exact h
  updated predicate update collection ha h := by
    rw [keys_updateDocuments ha]
    exact h
  divided h hok := by
    apply h.sublist
    exact (sublist_divide hok).map _

theorem Reachable.ids_unique [Pattern.Engine] {store : Store} (h : store.Reachable Request.sparesId)
    {collection : String} {documents : List Document} (hmem : (collection, documents) ∈ store.collections) :
    (∀ document ∈ documents, ∃ id, document.id? = some id)
      ∧
    ∀ (i j : Nat) (first second : Document) (a b : Value), i ≠ j →
      documents[i]? = some first → documents[j]? = some second →
      first.id? = some a → second.id? = some b →
        a.equals b = false ∧ b.equals a = false := by
  have hdistinct : Distinct (keys documents) := h.each kept_distinct _ hmem
  constructor
  · intro document hdocument
    rw [← Option.ne_none_iff_exists']
    intro hnone
    apply hdistinct.present
    rw [← hnone]
    exact List.mem_map_of_mem hdocument
  · intro i j first second a b hne hi hj ha hb
    have hi : (keys documents)[i]? = some (some a) := by
      rw [keys, List.getElem?_map, hi, Option.map_some, ha]
    have hj : (keys documents)[j]? = some (some b) := by
      rw [keys, List.getElem?_map, hj, Option.map_some, hb]
    exact ⟨hdistinct.equals_of_ne hi hj hne, hdistinct.equals_of_ne hj hi hne.symm⟩

theorem Reachable.ids_unique_after_refusal :
    ∃ store : Store, store.Reachable Request.sparesId
      ∧
    store.collections
      =
    [("c", [[("_id", .int32 1), ("a", .bool true)], [("a", .bool true), ("_id", .objectId firstId)]])]
      ∧
    (Value.int32 1).equals (.objectId firstId) = false
      ∧
    (Value.objectId firstId).equals (.int32 1) = false := by
  have hbuilt : Reachable Request.sparesId ⟨[("c", [[("_id", .int32 1)]])], firstId⟩ :=
    @Reachable.built _ _ [("c", [[("_id", .int32 1)]])] _ rfl
  have hgiven := hbuilt.answered (.insertOne [("a", .null)] "c") trivial
  have hrefused := hgiven.answered (.insertOne [("_id", .double 1)] "c") trivial
  have hspares : Document.sparesId [("$set", .document [("a", .bool true)])] := by
    simp only [Document.sparesId, List.mem_singleton, Prod.mk.injEq, Value.document.injEq, and_imp]
    rintro _ _ _ rfl
    decide
  have hupdated := hrefused.answered
    (.updateMany [] [("$set", .document [("a", .bool true)])] "c") hspares
  have hunique := hupdated.ids_unique List.mem_cons_self
  exact ⟨_, hupdated, rfl, hunique.2 0 1 _ _ _ _ (by decide) rfl rfl rfl rfl⟩

end Store
end DocQuery
