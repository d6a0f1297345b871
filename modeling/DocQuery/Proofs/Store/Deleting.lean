import DocQuery.Proofs.Predicate.Evaluation
import DocQuery.Proofs.Store.Staging
import Mathlib.Data.List.Basic

/-!
This module contains the division of a collection that a deletion makes: into the documents that were found before
it, which are gone, and the others, which keep their order. It is the same division as the one that removes the
found documents from their positions, one after the other.
-/

namespace DocQuery

section

variable {α : Type}

def removeEach (positions : List Nat) (items : List α) : List α :=
  positions.foldr (fun position left => left.eraseIdx position) items

theorem removeEach_map_succ (positions : List Nat) (item : α) (rest : List α) :
    removeEach (positions.map (· + 1)) (item :: rest) = item :: removeEach positions rest := by
  induction positions with
  | nil => rfl
  | cons position positions ih =>
    simp only [removeEach, List.map_cons, List.foldr_cons] at ih ⊢
    rw [ih, List.eraseIdx_cons_succ]

theorem removeEach_findIdxs (met : α → Bool) (items : List α) :
    removeEach (items.findIdxs met) items = items.filter (!met ·) := by
  induction items with
  | nil => rfl
  | cons item rest ih =>
    -- the positions in the rest are one higher, and they are removed before the first item is
    rw [List.findIdxs_cons, List.findIdxs_start]
    cases hmet : met item with
    | true =>
      rw [if_pos rfl, removeEach, List.foldr_cons, ← removeEach, removeEach_map_succ, ih]
      simp [hmet]
    | false =>
      rw [if_neg Bool.false_ne_true, removeEach_map_succ, ih]
      simp [hmet]

end

def Document.isSelectedBy [Pattern.Engine] (document predicate : Document) : Bool :=
  match Predicate.holds document predicate with
  | .ok met => met
  | .error _ => false

namespace Store

theorem holds_of_divide [Pattern.Engine] {predicate : Document} {documents : List Document}
    {result : List Document × List Document} (hok : divide predicate documents = .ok result) :
    ∀ document ∈ documents, Predicate.holds document predicate = .ok (document.isSelectedBy predicate) := by
  induction documents generalizing result with
  | nil => simp
  | cons document rest ih =>
    obtain ⟨met, hmet, hok⟩ := Outcome.bind_eq_ok_iff.mp hok
    obtain ⟨_, hrest, _⟩ := Outcome.bind_eq_ok_iff.mp hok
    rw [List.forall_mem_cons]
    constructor
    · rw [Document.isSelectedBy, hmet]
    · exact ih hrest

structure Deletes [Pattern.Engine] (store : Store) (predicate : Document) (collection : String)
    (count : UInt64) (after : Store) : Prop where
  found : store.find predicate {} collection
    = .ok ((store.documents collection).filter (·.isSelectedBy predicate))
  count_eq : count = UInt64.ofNat ((store.documents collection).filter (·.isSelectedBy predicate)).length
  left : after.documents collection = (store.documents collection).filter (!·.isSelectedBy predicate)
  removed : after.documents collection
    = removeEach ((store.documents collection).findIdxs (·.isSelectedBy predicate)) (store.documents collection)
  counted_after : after.countDocuments predicate collection = .ok 0
  again : after.deleteMany predicate collection = (.ok 0, after)

section

variable [Pattern.Engine] {store after : Store} {predicate : Document} {collection : String} {count : UInt64}

theorem holds_of_left
    (h : ∀ document ∈ store.documents collection,
      Predicate.holds document predicate = .ok (document.isSelectedBy predicate))
    (hleft : after.documents collection = (store.documents collection).filter (!·.isSelectedBy predicate)) :
    ∀ document ∈ after.documents collection, Predicate.holds document predicate = .ok false := by
  intro document hmem
  rw [hleft, List.mem_filter, Bool.not_eq_true'] at hmem
  rw [h document hmem.1, hmem.2]

theorem deletes_of_left
    (h : ∀ document ∈ store.documents collection,
      Predicate.holds document predicate = .ok (document.isSelectedBy predicate))
    (hcount : count = UInt64.ofNat ((store.documents collection).filter (·.isSelectedBy predicate)).length)
    (hleft : after.documents collection = (store.documents collection).filter (!·.isSelectedBy predicate))
    (hagain : after.deleteMany predicate collection = (.ok 0, after)) :
    Deletes store predicate collection count after := by
  constructor
  · unfold find
    rw [Predicate.select_eq_filter h]
    rfl
  · exact hcount
  · exact hleft
  · rw [removeEach_findIdxs, hleft]
  · unfold countDocuments
    rw [Predicate.select_eq_filter (holds_of_left h hleft)]
    simp [bind, Except.bind]
    rfl
  · exact hagain

theorem deletes_of_get?_none (hget : Fields.get? store.collections collection = none) :
    Deletes store predicate collection 0 store := by
  have hdocuments : store.documents collection = [] := by simp [Store.documents, Collections.documents, hget]
  apply deletes_of_left
  · simp [hdocuments]
  · simp [hdocuments]
  · simp [hdocuments]
  · simp [deleteMany, hget]

theorem deletes_of_get? {documents : List Document} {result : List Document × List Document}
    (hget : Fields.get? store.collections collection = some documents) (hok : divide predicate documents = .ok result) :
    Deletes store predicate collection (UInt64.ofNat result.1.length) (store.put collection result.2) := by
  have hholds := holds_of_divide hok
  rw [divide_eq_filter hholds, Except.ok.injEq] at hok
  subst hok
  rw [← documents_of_get? hget] at hholds ⊢
  have hleft : (store.put collection ((store.documents collection).filter (!·.isSelectedBy predicate))).documents
      collection = (store.documents collection).filter (!·.isSelectedBy predicate) := by
    rw [documents_put, if_pos rfl]
  apply deletes_of_left hholds rfl hleft
  have hunmet := holds_of_left hholds hleft
  rw [hleft] at hunmet
  have hdivided := @divide_eq_filter _ predicate _ (fun _ => false) hunmet
  unfold deleteMany put
  rw [Fields.get?_insert_self]
  simp [hdivided, Fields.insert_insert]

end

theorem deletion_divides [Pattern.Engine] (store : Store) (predicate : Document) (collection : String) :
    (∀ count after, store.deleteMany predicate collection = (.ok count, after) →
      Deletes store predicate collection count after)
      ∧
    (∀ failure after, store.deleteMany predicate collection = (.error failure, after) → after = store)
      ∧
    ∀ name, name ≠ collection →
      Fields.get? (store.deleteMany predicate collection).2.collections name
        =
      Fields.get? store.collections name := by
  cases hget : Fields.get? store.collections collection with
  | none =>
    have hdelete : store.deleteMany predicate collection = (.ok 0, store) := by simp [deleteMany, hget]
    rw [hdelete]
    refine ⟨?_, by simp, by simp⟩
    rintro _ _ ⟨⟩
    apply deletes_of_get?_none
    exact hget
  | some documents =>
    -- the predicate is evaluated on every document before any of them is removed
    cases hdivide : divide predicate documents with
    | error failure =>
      have hdelete : store.deleteMany predicate collection = (.error failure, store) := by
        simp [deleteMany, hget, hdivide]
      rw [hdelete]
      refine ⟨by simp, ?_, by simp⟩
      rintro _ _ ⟨⟩
      rfl
    | ok result =>
      have hdelete : store.deleteMany predicate collection
          = (.ok (UInt64.ofNat result.1.length), store.put collection result.2) := by
        simp [deleteMany, hget, hdivide]
      rw [hdelete]
      refine ⟨?_, by simp, ?_⟩
      · rintro _ _ ⟨⟩
        apply deletes_of_get?
        · exact hget
        · exact hdivide
      · intro name hname
        apply Fields.get?_insert_of_ne
        exact hname.symm

theorem deletion_divides_ends :
    let store : Store :=
      ⟨[("c", [[("_id", .int32 1), ("n", .int32 5)], [("_id", .int32 2)], [("_id", .int32 3), ("n", .string "x")],
          [("_id", .int32 4), ("n", .array [.null, .int64 5])], [("_id", .int32 5), ("n", .int32 5)]]),
        ("d", [[("_id", .int32 1), ("n", .int32 5)]])],
        firstId⟩
    let after : Store :=
      ⟨[("c", [[("_id", .int32 2)], [("_id", .int32 3), ("n", .string "x")]]),
        ("d", [[("_id", .int32 1), ("n", .int32 5)]])],
        firstId⟩
    let failing : Document := [("_id", .document [("$near", .null)])]
    store.deleteMany [("n", .int32 5)] "c" = (.ok 3, after)
      ∧
    Deletes store [("n", .int32 5)] "c" 3 after
      ∧
    Fields.get? after.collections "d" = Fields.get? store.collections "d"
      ∧
    ∃ failure kept, store.deleteMany failing "c" = (.error failure, kept) ∧ kept = store := by
  intro store after failing
  have hdelete : store.deleteMany [("n", .int32 5)] "c" = (.ok 3, after) := by rfl
  obtain ⟨hdeletes, _, hothers⟩ := deletion_divides store [("n", .int32 5)] "c"
  have hother := hothers "d" (by decide)
  rw [hdelete] at hother
  refine ⟨hdelete, hdeletes 3 after hdelete, hother, ?_⟩
  obtain ⟨failure, hfail⟩ : ∃ failure, store.deleteMany failing "c" = (.error failure, store) := ⟨_, rfl⟩
  exact ⟨failure, store, hfail, (deletion_divides store failing "c").2.1 failure store hfail⟩

end Store
end DocQuery
