import DocQuery.Proofs.Outcome
import DocQuery.Store

/-!
This module contains the stores that a builder and any calls after it lead to, and how a property of the
documents of one collection is carried through such runs.
-/

namespace DocQuery
namespace Store

theorem send_eq [Pattern.Engine] {α : Type} (request : Request α) (store : Store) :
    (send request : StoreM α) store = store.answer request := rfl

theorem bind_of_ok {α β : Type} {first : StoreM α} {next : α → StoreM β} {store after : Store} {value : α}
    (h : first store = (.ok value, after)) : (first >>= next) store = next value after := by
  have hbind : (first >>= next) store = ExceptT.bindCont next (first store).1 (first store).2 := rfl
  rw [hbind, h]
  rfl

theorem bind_of_error {α β : Type} {first : StoreM α} {next : α → StoreM β} {store after : Store}
    {failure : Failure} (h : first store = (.error failure, after)) :
    (first >>= next) store = (.error failure, after) := by
  have hbind : (first >>= next) store = ExceptT.bindCont next (first store).1 (first store).2 := rfl
  rw [hbind, h]
  rfl

theorem documents_of_get? {store : Store} {collection : String} {documents : List Document}
    (hget : Fields.get? store.collections collection = some documents) :
    store.documents collection = documents := by
  unfold Store.documents Collections.documents
  rw [hget]
  rfl

theorem documents_put (store : Store) (collection name : String) (documents : List Document) :
    (store.put collection documents).documents name
      =
    if collection = name then documents else store.documents name := by
  unfold Store.documents Collections.documents put
  dsimp only
  rw [Fields.get?_insert]
  split <;> rfl

section

variable [Pattern.Engine]

theorem updateMany_of_get? {store : Store} {collection : String} {documents : List Document}
    (hget : Fields.get? store.collections collection = some documents) (predicate update : Document) :
    store.updateMany predicate update collection
      =
    ((updateDocuments predicate update documents).1.map UInt64.ofNat,
      store.put collection (updateDocuments predicate update documents).2) := by
  unfold updateMany
  rw [hget]

omit [Pattern.Engine] in
theorem documents_put_self (store : Store) (collection name : String) :
    (store.put collection (store.documents collection)).documents name = store.documents name := by
  rw [documents_put]
  split
  · next hname => rw [hname]
  · rfl

theorem update_of_patch? {predicate update document patched : Document}
    (hok : patch? predicate update document = .ok (some patched)) :
    document.update update = .ok patched := by
  rcases Outcome.bind_eq_ok_iff.mp hok with ⟨met, _, hok⟩
  cases met with
  | false => cases hok
  | true =>
    rcases Outcome.bind_eq_ok_iff.mp hok with ⟨updated, hupdate, hok⟩
    split at hok
    · cases hok
    · cases hok
      exact hupdate

def gather (calls : List (String × List Document)) : Collections :=
  calls.foldl (fun collections call => seed collections call.1 call.2) []

/--
The stores that are built and then answer allowed requests, whether the answers are failures or not.
-/
inductive Reachable (Allowed : ∀ α : Type, Request α → Prop) : Store → Prop where
  | built {calls store} (h : seeded (gather calls) = .ok store) : Reachable Allowed store
  | answered {α store} (request : Request α) (ha : Allowed α request) (h : Reachable Allowed store) :
    Reachable Allowed (store.answer request).2

def Each (P : List Document → Prop) (store : Store) : Prop :=
  ∀ entry ∈ store.collections, P entry.2

/--
A property of the documents of a collection that no allowed request breaks.
-/
structure Kept (Allowed : ∀ α : Type, Request α → Prop) (P : List Document → Prop) : Prop where
  nil : P []
  staged {existing documents staged : List Document} {collection : String} {nextId next : ObjectId}
    {ids : List Value} (h : P existing)
    (hok : stage existing collection nextId [] [] documents = (.ok (staged, ids), next)) :
    P (existing ++ staged)
  updated {documents : List Document} (predicate update : Document) (collection : String)
    (ha : Allowed UInt64 (.updateMany predicate update collection)) (h : P documents) :
    P (updateDocuments predicate update documents).2
  divided {predicate : Document} {documents selected others : List Document} (h : P documents)
    (hok : divide predicate documents = .ok (selected, others)) : P others

end

theorem checkUnique_eq_ok_iff {documents : List Document} {id : Value} {collection : String} :
    checkUnique documents id collection = .ok () ↔ ∀ document ∈ documents, document.hasId id = false := by
  unfold checkUnique
  split
  · next hany => simpa using hany
  · next hany => simpa using hany

theorem stage_cons_ok {existing staged rest : List Document} {document : Document} {collection : String}
    {nextId next : ObjectId} {ids : List Value} {result : List Document × List Value}
    (hok : stage existing collection nextId staged ids (document :: rest) = (.ok result, next)) :
    checkUnique existing (document.ensureId nextId).2.1 collection = .ok ()
      ∧
    checkUnique staged (document.ensureId nextId).2.1 collection = .ok ()
      ∧
    stage existing collection (document.ensureId nextId).2.2 (staged ++ [(document.ensureId nextId).1])
      (ids ++ [(document.ensureId nextId).2.1]) rest = (.ok result, next) := by
  unfold stage at hok
  dsimp only at hok
  split at hok
  · next hexisting hstaged => exact ⟨hexisting, hstaged, hok⟩
  · cases hok
  · cases hok

theorem insertMany_singleton (store : Store) (document : Document) (collection : String) :
    store.insertMany [document] collection
      =
    ((store.insertOne document collection).1.map ([·]), (store.insertOne document collection).2) := by
  have hstaged : checkUnique [] (document.ensureId store.nextId).2.1 collection = .ok () := rfl
  unfold insertOne insertMany stage
  dsimp only
  rw [hstaged]
  cases checkUnique (store.documents collection) (document.ensureId store.nextId).2.1 collection with
  | error => rfl
  | ok => rfl

variable [Pattern.Engine] {Allowed : ∀ α : Type, Request α → Prop} {P : List Document → Prop} {store : Store}

theorem Each.documents (h : store.Each P) (hp : Kept Allowed P) (collection : String) :
    P (store.documents collection) := by
  unfold Store.documents Collections.documents
  cases hget : Fields.get? store.collections collection with
  | none => exact hp.nil
  | some documents => exact h _ (Fields.mem_of_get? hget)

omit [Pattern.Engine] in
theorem Each.put (h : store.Each P) {documents : List Document} (hd : P documents)
    (collection : String) (nextId : ObjectId) :
    Each P ({ store with nextId }.put collection documents) := by
  intro entry hmem
  cases Fields.mem_insert hmem with
  | inl hmem => exact h entry hmem
  | inr heq =>
    rw [heq]
    exact hd

theorem Each.insertMany (h : store.Each P) (hp : Kept Allowed P) (documents : List Document)
    (collection : String) : Each P (store.insertMany documents collection).2 := by
  have hexisting := h.documents hp collection
  unfold Store.insertMany
  dsimp only
  split
  · next hok => exact h.put (hp.staged hexisting hok) collection _
  · exact h.put hexisting collection _

theorem Each.updateMany (h : store.Each P) (hp : Kept Allowed P) (predicate update : Document)
    (collection : String) (ha : Allowed UInt64 (.updateMany predicate update collection)) :
    Each P (store.updateMany predicate update collection).2 := by
  unfold Store.updateMany
  split
  · exact h
  · next hget =>
    apply h.put
    apply hp.updated predicate update collection ha
    exact h _ (Fields.mem_of_get? hget)

theorem Each.deleteMany (h : store.Each P) (hp : Kept Allowed P) (predicate : Document)
    (collection : String) : Each P (store.deleteMany predicate collection).2 := by
  unfold Store.deleteMany
  split
  · exact h
  · next hget =>
    split
    · next hok =>
      apply h.put
      exact hp.divided (h _ (Fields.mem_of_get? hget)) hok
    · exact h

theorem Each.createCollection (h : store.Each P) (hp : Kept Allowed P) (name : String) :
    Each P (store.createCollection name).2 := by
  unfold Store.createCollection
  split
  · exact h
  · exact h.put hp.nil name _

theorem Each.answer {α : Type} (h : store.Each P) (hp : Kept Allowed P) (request : Request α)
    (ha : Allowed α request) : Each P (store.answer request).2 := by
  cases request with
  | insertOne document collection =>
    have hmany := h.insertMany hp [document] collection
    rw [insertMany_singleton] at hmany
    exact hmany
  | insertMany documents collection => exact h.insertMany hp documents collection
  | updateMany predicate update collection => exact h.updateMany hp predicate update collection ha
  | deleteMany predicate collection => exact h.deleteMany hp predicate collection
  | createCollection name => exact h.createCollection hp name
  -- reads leave the store as it is
  | countDocuments | aggregate | find | listCollections | shutdown => exact h

theorem seedIds_each {collections seeded : Collections} {nextId next : ObjectId} (hp : Kept Allowed P)
    (hok : seedIds nextId collections = .ok (seeded, next)) : ∀ entry ∈ seeded, P entry.2 := by
  induction collections generalizing nextId seeded with
  | nil =>
    cases hok
    simp
  | cons collection rest ih =>
    unfold seedIds at hok
    split at hok
    · next hstage =>
      rcases Outcome.bind_eq_ok_iff.mp hok with ⟨⟨seededRest, _⟩, hrest, hpure⟩
      cases hpure
      rw [List.forall_mem_cons]
      exact ⟨hp.staged hp.nil hstage, ih hrest⟩
    · cases hok

theorem Reachable.each (h : store.Reachable Allowed) (hp : Kept Allowed P) : store.Each P := by
  induction h with
  | built hbuilt =>
    rcases Outcome.bind_eq_ok_iff.mp hbuilt with ⟨⟨collections, _⟩, hseeded, hpure⟩
    cases hpure
    exact seedIds_each hp hseeded
  -- a run goes on by one request, which preserves what is kept
  | answered request ha _ ih => exact ih.answer hp request ha

end Store
end DocQuery
