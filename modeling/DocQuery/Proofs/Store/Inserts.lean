import DocQuery.Collection
import DocQuery.Proofs.Store.Staging

/-!
This module contains the proof that all ways of inserting documents agree: at once, one by one, batch by
batch, and into a store that is about to be built.
-/

namespace DocQuery

theorem flatten_chunks {α : Type} (size : Nat) (items : List α) : (chunks size items).flatten = items := by
  fun_induction chunks size items with
  | case1 => rfl
  | case2 first rest ih => rw [List.flatten_cons, ih, List.cons_append, List.take_append_drop]

theorem flatten_take_chunks {α : Type} (size k : Nat) (items : List α) :
    ((chunks size items).take k).flatten = items.take (k * (size + 1)) := by
  induction k generalizing items with
  | zero => simp
  | succ k ih =>
    cases items with
    | nil => simp [chunks]
    | cons first rest =>
      have hlength : (k + 1) * (size + 1) = size + k * (size + 1) + 1 := by
        rw [Nat.succ_mul]
        omega
      rw [chunks, List.take_succ_cons, List.flatten_cons, ih, hlength, List.take_succ_cons, List.take_add]
      rfl

namespace Store

section

variable {α β : Type} {item : α} {result : β} {failure : Failure} {store after : Store}

theorem mapM_cons_of_ok (f : α → StoreM β) (hok : f item store = (.ok result, after)) (rest : List α) :
    ((item :: rest).mapM f) store
      =
    (((rest.mapM f) after).1.map (result :: ·), ((rest.mapM f) after).2) := by
  rw [List.mapM_cons, bind_of_ok hok]
  rcases hrest : (rest.mapM f) after with ⟨_ | _, _⟩
  · rw [bind_of_error hrest]
    rfl
  · rw [bind_of_ok hrest]
    rfl

theorem mapM_cons_of_error (f : α → StoreM β) (hfail : f item store = (.error failure, after))
    (rest : List α) : ((item :: rest).mapM f) store = (.error failure, after) := by
  rw [List.mapM_cons, bind_of_error hfail]

end

def insertPieces [Pattern.Engine] (collection : String) (pieces : List (List Document)) :
    StoreM (List (List Value)) :=
  pieces.mapM fun piece => send (.insertMany piece collection)

section

variable [Pattern.Engine] {collection : String} {piece : List Document} {ids : List Value} {failure : Failure}
  {store after : Store}

theorem insertPieces_cons_of_ok (hok : store.insertMany piece collection = (.ok ids, after))
    (rest : List (List Document)) :
    insertPieces collection (piece :: rest) store
      =
    ((insertPieces collection rest after).1.map (ids :: ·), (insertPieces collection rest after).2) := by
  have hsend : (send (.insertMany piece collection) : StoreM (List Value)) store = (.ok ids, after) := hok
  exact mapM_cons_of_ok (fun piece => send (.insertMany piece collection)) hsend rest

theorem insertPieces_cons_of_error (hfail : store.insertMany piece collection = (.error failure, after))
    (rest : List (List Document)) :
    insertPieces collection (piece :: rest) store = (.error failure, after) := by
  have hsend : (send (.insertMany piece collection) : StoreM (List Value)) store = (.error failure, after) :=
    hfail
  exact mapM_cons_of_error (fun piece => send (.insertMany piece collection)) hsend rest

end

theorem insertMany_nil (store : Store) (collection : String) :
    store.insertMany [] collection = (.ok [], store.put collection (store.documents collection)) := by
  have hstage : stage (store.documents collection) collection store.nextId [] [] []
      = (.ok ([], []), store.nextId) := rfl
  rw [insertMany_of_stage_ok hstage, List.append_nil]

section

variable [Pattern.Engine]

theorem insertPieces_eq_insertMany (collection : String) (pieces : List (List Document)) (store : Store) :
    (insertPieces collection pieces store).1.map List.flatten = (store.insertMany pieces.flatten collection).1
      ∧
    ∀ ids, (insertPieces collection pieces store).1 = .ok ids →
      ∀ name, (insertPieces collection pieces store).2.documents name
        = (store.insertMany pieces.flatten collection).2.documents name := by
  induction pieces generalizing store with
  | nil =>
    refine ⟨rfl, fun ids hok name => ?_⟩
    rw [List.flatten_nil, insertMany_nil, documents_put_self]
    rfl
  | cons piece rest ih =>
    rw [List.flatten_cons]
    rcases hpiece : store.insertMany piece collection with ⟨failure | ids, after⟩
    · have happend := insertMany_append_of_error rest.flatten (congrArg Prod.fst hpiece)
      rw [insertPieces_cons_of_error hpiece, happend]
      exact ⟨rfl, nofun⟩
    · have happend := insertMany_append_of_ok rest.flatten hpiece
      rw [insertPieces_cons_of_ok hpiece, happend.1, ← (ih after).1]
      rcases hrest : insertPieces collection rest after with ⟨failure | moreIds, last⟩
      · exact ⟨rfl, nofun⟩
      · refine ⟨rfl, fun _ _ name => ?_⟩
        have hih := ih after
        rw [hrest] at hih
        rw [happend.2 _ hih.1.symm]
        exact hih.2 moreIds rfl name

theorem insertPieces_eq_error {collection : String} {pieces : List (List Document)} {failure : Failure}
    {store after : Store} (hfail : insertPieces collection pieces store = (.error failure, after)) :
    ∃ k ids before, insertPieces collection (pieces.take k) store = (.ok ids, before)
      ∧ (insertPieces collection (pieces.take (k + 1)) store).1 = .error failure
      ∧ ∀ name, after.documents name = before.documents name := by
  induction pieces generalizing store with
  | nil => cases hfail
  | cons piece rest ih =>
    rcases hpiece : store.insertMany piece collection with ⟨other | ids, next⟩
    · rw [insertPieces_cons_of_error hpiece] at hfail
      cases hfail
      refine ⟨0, [], store, rfl, ?_, documents_of_insertMany_error hpiece⟩
      rw [List.take_succ_cons, insertPieces_cons_of_error hpiece]
    · rw [insertPieces_cons_of_ok hpiece] at hfail
      rcases hrest : insertPieces collection rest next with ⟨other | moreIds, last⟩
      · rw [hrest] at hfail
        cases hfail
        rcases ih hrest with ⟨k, moreIds, before, hok, herror, hdocuments⟩
        refine ⟨k + 1, ids :: moreIds, before, ?_, ?_, hdocuments⟩
        · rw [List.take_succ_cons, insertPieces_cons_of_ok hpiece, hok]
          rfl
        · rw [List.take_succ_cons, insertPieces_cons_of_ok hpiece, herror]
          rfl
      · rw [hrest] at hfail
        cases hfail

theorem mapM_insert_eq_insertPieces (collection : Collection) (documents : List Document) (store : Store) :
    (documents.mapM collection.insert : StoreM (List Value)) store
      =
    ((insertPieces collection.name (documents.map ([·])) store).1.map List.flatten,
      (insertPieces collection.name (documents.map ([·])) store).2) := by
  induction documents generalizing store with
  | nil => rfl
  | cons document rest ih =>
    have hsingleton := insertMany_singleton store document collection.name
    rw [List.map_cons]
    rcases hone : store.insertOne document collection.name with ⟨failure | id, after⟩
    · have hinsert : (collection.insert document : StoreM Value) store = (.error failure, after) := hone
      rw [hone] at hsingleton
      rw [mapM_cons_of_error collection.insert hinsert, insertPieces_cons_of_error hsingleton]
      rfl
    · have hinsert : (collection.insert document : StoreM Value) store = (.ok id, after) := hone
      rw [hone] at hsingleton
      rw [mapM_cons_of_ok collection.insert hinsert, insertPieces_cons_of_ok hsingleton, ih]
      cases (insertPieces collection.name (rest.map ([·])) after).1 with
      | error | ok => rfl

theorem insertBatch_eq_insertPieces (collection : Collection) (documents : List Document) (store : Store) :
    (collection.insertBatch documents : StoreM (List Value)) store
      =
    let pieces := chunks (collection.config.batchSize.toNat - 1) documents
    ((insertPieces collection.name pieces store).1.map List.flatten,
      (insertPieces collection.name pieces store).2) := by
  unfold Collection.insertBatch
  rw [← insertPieces]
  rcases hrun : insertPieces collection.name
    (chunks (collection.config.batchSize.toNat - 1) documents) store with ⟨_ | _, _⟩
  · rw [bind_of_error hrun]
    dsimp only
    rw [hrun]
    rfl
  · rw [bind_of_ok hrun]
    dsimp only
    rw [hrun]
    rfl

end

theorem documents_gather (collection : String) (pieces : List (List Document)) :
    gather (pieces.map (collection, ·)) = [] ∧ pieces.flatten = []
      ∨
    gather (pieces.map (collection, ·)) = [(collection, pieces.flatten)] := by
  have hadded : ∀ (documents : List Document) (pieces : List (List Document)),
      (pieces.map (collection, ·)).foldl (fun collections call => seed collections call.1 call.2)
        [(collection, documents)] = [(collection, documents ++ pieces.flatten)] := by
    intro documents pieces
    induction pieces generalizing documents with
    | nil => simp
    | cons piece rest ih =>
      rw [List.map_cons, List.foldl_cons, List.flatten_cons, ← List.append_assoc, ← ih]
      simp [seed, Collections.documents, Fields.insert, Fields.get?]
  cases pieces with
  | nil => exact Or.inl ⟨rfl, rfl⟩
  | cons piece rest => exact Or.inr (hadded piece rest)

theorem seeded_eq_insertMany {store : Store} {collection : String} {pieces : List (List Document)}
    (hempty : store.documents collection = [])
    (hids : store.nextId = firstId ∨ ∀ document ∈ pieces.flatten, document.id?.isSome) :
    (seeded (gather (pieces.map (collection, ·)))).map (·.documents collection)
      =
    (store.insertMany pieces.flatten collection).1.map
      fun _ => (store.insertMany pieces.flatten collection).2.documents collection := by
  have hstage : (stage [] collection firstId [] [] pieces.flatten).1
      = (stage (store.documents collection) collection store.nextId [] [] pieces.flatten).1 := by
    rw [hempty]
    cases hids with
    | inl hfirst => rw [hfirst]
    | inr hids => exact fst_stage_of_ids [] [] collection firstId store.nextId [] hids
  cases documents_gather collection pieces with
  | inl hnone =>
    rw [hnone.1, hnone.2, insertMany_nil, hempty, documents_put, if_pos rfl]
    rfl
  | inr hgather =>
    rw [hgather]
    rcases hseed : stage [] collection firstId [] [] pieces.flatten with ⟨outcome, next⟩
    rcases hinsert : stage (store.documents collection) collection store.nextId [] [] pieces.flatten with
      ⟨_, nextId⟩
    rw [hseed, hinsert] at hstage
    cases hstage
    cases outcome with
    | error failure =>
      rw [insertMany_of_stage_error hinsert, seeded, seedIds, hseed]
      rfl
    | ok result =>
      rw [insertMany_of_stage_ok hinsert, seeded, seedIds, hseed, hempty, documents_put, if_pos rfl]
      simp [seedIds, Except.map, Store.documents, Collections.documents, Fields.get?, bind, Except.bind, pure,
        Except.pure]

def Holds (after store : Store) (collection : String) (documents : List Document) : Prop :=
  ∀ name, after.documents name = (store.put collection documents).documents name

theorem holds_of_insertMany_ok {store after : Store} {documents : List Document} {collection : String}
    {ids : List Value} (hok : store.insertMany documents collection = (.ok ids, after)) :
    after.Holds store collection (store.documents collection ++ documents.zipWith Document.withId ids) := by
  intro name
  rw [documents_put]
  exact documents_of_insertMany_ok hok name

theorem holds_of_insertMany_error {store after : Store} {documents : List Document} {collection : String}
    {failure : Failure} (hfail : store.insertMany documents collection = (.error failure, after)) :
    after.Holds store collection (store.documents collection) := by
  intro name
  rw [documents_put_self]
  exact documents_of_insertMany_error hfail name

theorem holds_of_insertPieces [Pattern.Engine] {store : Store} {pieces : List (List Document)}
    {collection : String}
    {ids : List Value} (hok : (store.insertMany pieces.flatten collection).1 = .ok ids) :
    (insertPieces collection pieces store).2.Holds store collection
      (store.documents collection ++ pieces.flatten.zipWith Document.withId ids) := by
  have hpieces := insertPieces_eq_insertMany collection pieces store
  rcases hmany : store.insertMany pieces.flatten collection with ⟨outcome, after⟩
  rw [hmany] at hok hpieces
  cases hok
  rcases Outcome.map_eq_ok_iff.mp hpieces.1 with ⟨pieceIds, hpieceIds, _⟩
  intro name
  rw [hpieces.2 pieceIds hpieceIds]
  exact holds_of_insertMany_ok hmany name

theorem insertPieces_chunks_refused [Pattern.Engine] {store : Store} {documents : List Document}
    {collection : String}
    {failure : Failure} (size : Nat) (hfail : (store.insertMany documents collection).1 = .error failure) :
    ∃ (k : Nat) (ids : List Value),
      (store.insertMany (documents.take (k * (size + 1))) collection).1 = .ok ids
        ∧ (store.insertMany (documents.take ((k + 1) * (size + 1))) collection).1 = .error failure
        ∧ (insertPieces collection (chunks size documents) store).2.Holds store collection
          (store.documents collection
            ++ (documents.take (k * (size + 1))).zipWith Document.withId ids) := by
  have hall := insertPieces_eq_insertMany collection (chunks size documents) store
  rw [flatten_chunks, hfail, Outcome.map_eq_error_iff] at hall
  rcases insertPieces_eq_error (Prod.ext hall.1 rfl) with ⟨k, ids, before, hok, herror, hbefore⟩
  have hinserted := insertPieces_eq_insertMany collection ((chunks size documents).take k) store
  have hrefused := insertPieces_eq_insertMany collection ((chunks size documents).take (k + 1)) store
  have hholds := @holds_of_insertPieces _ store ((chunks size documents).take k) collection ids.flatten
  rw [flatten_take_chunks, hok] at hinserted hholds
  rw [flatten_take_chunks, herror] at hrefused
  refine ⟨k, ids.flatten, hinserted.1.symm, hrefused.1.symm, fun name => ?_⟩
  rw [hbefore]
  exact hholds hinserted.1.symm name

end Store

namespace Collection

/--
All ways of inserting documents into a collection come to the same: at once, one by one, batch by batch, and
with the collection that is seeded.
-/
structure InsertsAgree [Pattern.Engine] (collection : Collection) (store : Store)
    (documents : List Document) : Prop where
  each : ((documents.mapM collection.insert : StoreM (List Value)) store).1
    = (store.insertMany documents collection.name).1
  batch : ((collection.insertBatch documents : StoreM (List Value)) store).1
    = (store.insertMany documents collection.name).1
  accepted {ids : List Value} (hok : (store.insertMany documents collection.name).1 = .ok ids) :
    List.Forall₂ Document.takesId documents ids
      ∧
    ∀ after ∈ [(store.insertMany documents collection.name).2,
        ((documents.mapM collection.insert : StoreM (List Value)) store).2,
        ((collection.insertBatch documents : StoreM (List Value)) store).2],
      after.Holds store collection.name
        (store.documents collection.name ++ documents.zipWith Document.withId ids)
  refused {failure : Failure} (hfail : (store.insertMany documents collection.name).1 = .error failure) :
    (store.insertMany documents collection.name).2.Holds store collection.name
        (store.documents collection.name)
      ∧
    ∃ (k : Nat) (ids : List Value),
      let size := Max.max collection.config.batchSize.toNat 1
      (store.insertMany (documents.take (k * size)) collection.name).1 = .ok ids
        ∧ (store.insertMany (documents.take ((k + 1) * size)) collection.name).1 = .error failure
        ∧ ((collection.insertBatch documents : StoreM (List Value)) store).2.Holds store collection.name
          (store.documents collection.name
            ++ (documents.take (k * size)).zipWith Document.withId ids)
  seeded (pieces : List (List Document)) (hpieces : pieces.flatten = documents)
    (hempty : store.documents collection.name = [])
    (hids : store.nextId = Store.firstId ∨ ∀ document ∈ documents, document.id?.isSome) :
    (Store.seeded (Store.gather (pieces.map (collection.name, ·)))).map (·.documents collection.name)
      =
    (store.insertMany documents collection.name).1.map
      fun _ => (store.insertMany documents collection.name).2.documents collection.name

theorem inserts_agree [Pattern.Engine] (collection : Collection) (store : Store) (documents : List Document) :
    InsertsAgree collection store documents := by
  have hsingletons : (documents.map ([·])).flatten = documents := by
    rw [← List.flatMap_def, List.flatMap_singleton']
  have hbatches := flatten_chunks (collection.config.batchSize.toNat - 1) documents
  have heach := Store.insertPieces_eq_insertMany collection.name (documents.map ([·])) store
  have hbatch := Store.insertPieces_eq_insertMany collection.name
    (chunks (collection.config.batchSize.toNat - 1) documents) store
  -- one by one and in batches, the pieces are those of one list
  rw [hsingletons] at heach
  rw [hbatches] at hbatch
  constructor
  case each =>
    rw [Store.mapM_insert_eq_insertPieces]
    exact heach.1
  case batch =>
    rw [Store.insertBatch_eq_insertPieces]
    exact hbatch.1
  case accepted =>
    intro ids hok
    have heach := @Store.holds_of_insertPieces _ store (documents.map ([·])) collection.name ids
    have hbatch := @Store.holds_of_insertPieces _ store
      (chunks (collection.config.batchSize.toNat - 1) documents) collection.name ids
    rw [hsingletons] at heach
    rw [hbatches] at hbatch
    rw [Store.mapM_insert_eq_insertPieces, Store.insertBatch_eq_insertPieces]
    rw [List.forall_mem_cons, List.forall_mem_cons, List.forall_mem_singleton]
    refine ⟨?_, ?_, heach hok, hbatch hok⟩
    · exact Store.takesId_of_insertMany (Prod.ext hok rfl)
    · exact Store.holds_of_insertMany_ok (Prod.ext hok rfl)
  case refused =>
    intro failure hfail
    have hsize : collection.config.batchSize.toNat - 1 + 1 = Max.max collection.config.batchSize.toNat 1 := by
      omega
    have hrefused := Store.insertPieces_chunks_refused (collection.config.batchSize.toNat - 1) hfail
    rw [hsize] at hrefused
    rw [Store.insertBatch_eq_insertPieces]
    exact ⟨Store.holds_of_insertMany_error (Prod.ext hfail rfl), hrefused⟩
  case seeded =>
    intro pieces hpieces hempty hids
    subst hpieces
    exact Store.seeded_eq_insertMany hempty hids

end Collection
end DocQuery
