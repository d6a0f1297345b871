import DocQuery.Collection
import DocQuery.Proofs.Collation.Equality
import DocQuery.Proofs.Predicate.Evaluation
import DocQuery.Proofs.Store.Run

/-!
This module contains what the id that an insert returns is good for: it selects the inserted document, and
none of the others of its collection.
-/

namespace DocQuery

def Document.withId (document : Document) (id : Value) : Document := Fields.insert document "_id" id

theorem Document.fst_ensureId (document : Document) (nextId : ObjectId) :
    (document.ensureId nextId).1 = document.withId (document.ensureId nextId).2.1 := by
  unfold Document.ensureId
  split
  · next hid => exact (Fields.insert_of_get? hid).symm
  · rfl

theorem Document.resolve?_id (document : Document) :
    document.resolve? (.ofString "_id") = Fields.get? document "_id" := by
  have hpath : Path.ofString "_id" = ⟨"_id", []⟩ := by decide
  rw [hpath]
  unfold resolve? resolveAt? lookup?
  cases Fields.get? document "_id" with
  | none => rfl
  | some id => rfl

theorem Predicate.holds_id [Pattern.Engine] (document : Document) {id : Value} (h : isLiteral id = true) :
    holds document [("_id", id)] = .ok (document.hasId id) := by
  rw [holds_literal document (by decide) h, Document.resolve?_id]
  rfl

theorem Document.hasId_withId (document : Document) {id : Value} (h : id.holdsNumbers = true) :
    (document.withId id).hasId id = true := by
  unfold hasId withId
  rw [Fields.get?_insert_self]
  unfold meetsLiteral Value.meets
  dsimp only
  rw [Value.equals_self id h]
  rfl

def Value.isKey : Value → Bool
  | .string _ | .int32 _ | .int64 _ | .double _ | .objectId _ => true
  | _ => false

theorem Selector.ofValue_of_isKey {id : Value} (h : id.isKey = true) : Selector.ofValue id = .byId id := by
  cases id with
  | string | int32 | int64 | double | objectId => rfl
  | _ => cases h

theorem Predicate.isLiteral_of_isKey {id : Value} (h : id.isKey = true) : isLiteral id = true := by
  cases id with
  | string | int32 | int64 | double | objectId => rfl
  | _ => cases h

namespace Store

theorem divide_eq_filter [Pattern.Engine] {predicate : Document} {documents : List Document}
    {met : Document → Bool}
    (h : ∀ document ∈ documents, Predicate.holds document predicate = .ok (met document)) :
    divide predicate documents = .ok (documents.filter met, documents.filter (!met ·)) := by
  induction documents with
  | nil => rfl
  | cons document rest ih =>
    rw [List.forall_mem_cons] at h
    rw [divide, h.1, ih h.2, List.filter_cons, List.filter_cons]
    cases met document with
    | true => rfl
    | false => rfl

theorem insertOne_eq_ok {store after : Store} {document : Document} {collection : String} {id : Value}
    (hok : store.insertOne document collection = (.ok id, after)) :
    (∀ other ∈ store.documents collection, other.hasId id = false)
      ∧
    ∃ nextId, after
      =
    { store with nextId }.put collection (store.documents collection ++ [document.withId id]) := by
  unfold insertOne at hok
  dsimp only at hok
  split at hok
  · next hunique =>
    cases hok
    rw [← Document.fst_ensureId]
    exact ⟨checkUnique_eq_ok_iff.mp hunique, _, rfl⟩
  · cases hok

end Store

namespace Collection

section

variable [Pattern.Engine] {store : Store} {collection : Collection} {selector : Selector}
  {met : Document → Bool}

theorem count_eq_length_filter
    (h : ∀ document ∈ store.documents collection.name,
      Predicate.holds document selector.compile = .ok (met document)) :
    (collection.count selector : StoreM UInt64) store
      =
    (.ok (UInt64.ofNat ((store.documents collection.name).filter met).length), store) := by
  have hcount : store.countDocuments selector.compile collection.name
      = .ok (UInt64.ofNat ((store.documents collection.name).filter met).length) := by
    unfold Store.countDocuments
    rw [Predicate.select_eq_filter h]
    rfl
  rw [count, Store.send_eq, Store.answer, hcount]

theorem first?_eq_head?_filter
    (h : ∀ document ∈ store.documents collection.name,
      Predicate.holds document selector.compile = .ok (met document)) :
    (collection.first? (.ofSelector selector) : StoreM (Option Document)) store
      =
    (.ok ((store.documents collection.name).filter met).head?, store) := by
  have hfind : store.find selector.compile { limit := some 1 } collection.name
      = .ok (((store.documents collection.name).filter met).take 1) := by
    unfold Store.find
    rw [Predicate.select_eq_filter h]
    rfl
  have hsend : (send (.find selector.compile { limit := some 1 } collection.name) : StoreM _) store
      = (.ok (((store.documents collection.name).filter met).take 1), store) := by
    rw [Store.send_eq, Store.answer, hfind]
  have hhead : (((store.documents collection.name).filter met).take 1).head?
      = ((store.documents collection.name).filter met).head? := by
    rw [List.head?_take, if_neg Nat.one_ne_zero]
  rw [← hhead]
  exact Store.bind_of_ok hsend

theorem delete_eq_filter {documents : List Document}
    (hget : Fields.get? store.collections collection.name = some documents)
    (h : ∀ document ∈ documents, Predicate.holds document selector.compile = .ok (met document)) :
    (collection.delete selector : StoreM UInt64) store
      =
    (.ok (UInt64.ofNat (documents.filter met).length),
      store.put collection.name (documents.filter (!met ·))) := by
  rw [delete, Store.send_eq, Store.answer]
  unfold Store.deleteMany
  rw [hget]
  dsimp only
  rw [Store.divide_eq_filter h]

end

section

variable [Pattern.Engine]

/--
A selector is about the last document of a collection and about no other one.
-/
structure Addresses (collection : Collection) (store : Store) (selector : Selector)
    (document : Document) (others : List Document) : Prop where
  stored : store.documents collection.name = others ++ [document]
  matched : Predicate.holds document selector.compile = .ok true
  unmatched : ∀ other ∈ others, Predicate.holds other selector.compile = .ok false
  counted : (collection.count selector : StoreM UInt64) store = (.ok 1, store)
  found : (collection.first? (.ofSelector selector) : StoreM (Option Document)) store
    = (.ok (some document), store)
  deleted : (collection.delete selector : StoreM UInt64) store
    = (.ok 1, store.put collection.name others)

theorem addresses_of_hasId {collection : Collection} {store : Store} {id : Value} {document : Document}
    {others : List Document} (hliteral : Predicate.isLiteral id = true)
    (hget : Fields.get? store.collections collection.name = some (others ++ [document]))
    (hmatched : document.hasId id = true) (hunmatched : ∀ other ∈ others, other.hasId id = false) :
    Addresses collection store (.byId id) document others := by
  have hholds : ∀ (documents : List Document), ∀ other ∈ documents,
      Predicate.holds other (Selector.byId id).compile = .ok (other.hasId id) := by
    intro _ other _
    exact Predicate.holds_id other hliteral
  have hstored := Store.documents_of_get? hget
  have hselected : (others ++ [document]).filter (·.hasId id) = [document] := by
    rw [List.filter_append, List.filter_eq_nil_iff.mpr]
    · simp [hmatched]
    · simpa using hunmatched
  have hothers : (others ++ [document]).filter (!·.hasId id) = others := by
    rw [List.filter_append, List.filter_eq_self.mpr]
    · simp [hmatched]
    · simpa using hunmatched
  constructor
  · exact hstored
  · rw [hholds [document] document List.mem_cons_self, hmatched]
  · intro other hother
    rw [hholds others other hother, hunmatched other hother]
  · rw [count_eq_length_filter (hholds _), hstored, hselected]
    rfl
  · rw [first?_eq_head?_filter (hholds _), hstored, hselected]
    rfl
  · rw [delete_eq_filter hget (hholds _), hselected, hothers]
    rfl

theorem insert_addresses {collection : Collection} {store after : Store} {document : Document} {id : Value}
    {selector : Selector} (hok : (collection.insert document : StoreM Value) store = (.ok id, after))
    (hnumbers : id.holdsNumbers = true)
    (hselector : selector = .byId id ∧ Predicate.isLiteral id = true
      ∨ selector = .ofValue id ∧ id.isKey = true) :
    Addresses collection after selector (document.withId id) (store.documents collection.name) := by
  rw [insert, Store.send_eq, Store.answer] at hok
  rcases Store.insertOne_eq_ok hok with ⟨hunmatched, nextId, hafter⟩
  -- either way the predicate asks for an id that equals `id`
  have hbyId : selector = .byId id ∧ Predicate.isLiteral id = true := by
    cases hselector with
    | inl h => exact h
    | inr h =>
      rw [h.1, Selector.ofValue_of_isKey h.2]
      exact ⟨rfl, Predicate.isLiteral_of_isKey h.2⟩
  rw [hbyId.1, hafter]
  apply addresses_of_hasId hbyId.2
  · apply Fields.get?_insert_self
  · exact Document.hasId_withId document hnumbers
  · exact hunmatched

end

theorem insert_addresses_string :
    ∃ after : Store,
      (insert { name := "c" } [("_id", .string "x")] : StoreM Value)
          ⟨[("c", [[("_id", .int32 7)]])], Store.firstId⟩
        =
      (.ok (.string "x"), after)
        ∧
      Addresses { name := "c" } after (.ofValue (.string "x")) [("_id", .string "x")]
        [[("_id", .int32 7)]] := by
  have haddresses := fun after hok => @insert_addresses _ { name := "c" }
    ⟨[("c", [[("_id", .int32 7)]])], Store.firstId⟩ after [("_id", .string "x")] (.string "x")
    (.ofValue (.string "x")) hok rfl (Or.inr ⟨rfl, rfl⟩)
  exact ⟨_, rfl, haddresses _ rfl⟩

theorem not_addresses_of_document :
    ¬ ∀ (collection : Collection) (store after : Store) (document : Document) (id : Value),
      store.Reachable (fun _ _ => True) →
      (collection.insert document : StoreM Value) store = (.ok id, after) →
        Addresses collection after (.ofValue id) (document.withId id) (store.documents collection.name) := by
  intro hlaw
  have hbuilt : Store.Reachable (fun _ _ => True) ⟨[("c", [[("_id", .int32 7)]])], Store.firstId⟩ :=
    @Store.Reachable.built _ _ [("c", [[("_id", .int32 7)]])] _ rfl
  have haddresses := hlaw { name := "c" } _ _ [("_id", .document [("a", .int32 1)])] _ hbuilt rfl
  have hcounted : (.ok 1 : Outcome UInt64) = .ok 0 := congrArg Prod.fst haddresses.counted.symm
  cases hcounted

end Collection
end DocQuery
