import DocQuery.Proofs.Store.Addressing
import DocQuery.Proofs.Update.Identity

/-!
This module contains the insertion of several documents at once: what it makes of the documents, and that it
may be cut into insertions of the pieces of the list.
-/

namespace DocQuery

namespace Fields

theorem insert_insert {α : Type} (fields : Fields α) (key : String) (first second : α) :
    insert (insert fields key first) key second = insert fields key second := by
  induction fields with
  | nil => simp [insert]
  | cons field rest ih =>
    rw [insert, insert]
    split
    · next hk => rw [insert, if_pos hk]
    · next hk => rw [insert, if_neg hk, ih]

end Fields

namespace Document

def takesId (document : Document) (id : Value) : Prop := ∀ given, document.id? = some given → id = given

theorem ensureId_of_id? {document : Document} {id : Value} (hid : document.id? = some id)
    (nextId : ObjectId) : document.ensureId nextId = (document, id, nextId) := by
  unfold ensureId
  rw [← id?, hid]

theorem takesId_ensureId (document : Document) (nextId : ObjectId) :
    document.takesId (document.ensureId nextId).2.1 := by
  intro given hgiven
  rw [ensureId_of_id? hgiven]

end Document

namespace Store

theorem checkUnique_append (first second : List Document) (id : Value) (collection : String) :
    checkUnique (first ++ second) id collection
      =
    (checkUnique first id collection >>= fun _ => checkUnique second id collection) := by
  unfold checkUnique
  rw [List.any_append]
  cases first.any (·.hasId id) with
  | true => rfl
  | false => rfl

theorem stage_cons (existing staged rest : List Document) (document : Document) (collection : String)
    (nextId : ObjectId) (ids : List Value) :
    stage existing collection nextId staged ids (document :: rest)
      =
    match checkUnique (existing ++ staged) (document.ensureId nextId).2.1 collection with
    | .ok () => stage existing collection (document.ensureId nextId).2.2
        (staged ++ [(document.ensureId nextId).1]) (ids ++ [(document.ensureId nextId).2.1]) rest
    | .error failure => (.error failure, (document.ensureId nextId).2.2) := by
  rw [stage, checkUnique_append]
  dsimp only
  cases checkUnique existing (document.ensureId nextId).2.1 collection with
  | error => rfl
  | ok =>
    cases checkUnique staged (document.ensureId nextId).2.1 collection with
    | error | ok => rfl

theorem stage_append (existing staged first second : List Document) (collection : String)
    (nextId : ObjectId) (ids : List Value) :
    stage existing collection nextId staged ids (first ++ second)
      =
    match stage existing collection nextId staged ids first with
    | (.ok (staged, ids), nextId) => stage existing collection nextId staged ids second
    | (.error failure, nextId) => (.error failure, nextId) := by
  induction first generalizing staged ids nextId with
  | nil => rfl
  | cons document rest ih =>
    rw [List.cons_append, stage_cons, stage_cons]
    cases checkUnique (existing ++ staged) (document.ensureId nextId).2.1 collection with
    | error => rfl
    | ok => exact ih _ _ _

theorem stage_of_staged (existing staged later documents : List Document) (collection : String)
    (nextId : ObjectId) (ids laterIds : List Value) :
    stage existing collection nextId (staged ++ later) (ids ++ laterIds) documents
      =
    ((stage (existing ++ staged) collection nextId later laterIds documents).1.map
        fun (more, moreIds) => (staged ++ more, ids ++ moreIds),
      (stage (existing ++ staged) collection nextId later laterIds documents).2) := by
  induction documents generalizing later laterIds nextId with
  | nil => rfl
  | cons document rest ih =>
    rw [stage_cons, stage_cons, ← List.append_assoc existing staged later]
    cases checkUnique (existing ++ staged ++ later) (document.ensureId nextId).2.1 collection with
    | error => rfl
    | ok =>
      dsimp only
      rw [List.append_assoc, List.append_assoc]
      exact ih _ _ _

theorem stage_eq_ok {existing documents staged result : List Document} {collection : String}
    {nextId next : ObjectId} {ids resultIds : List Value}
    (hok : stage existing collection nextId staged ids documents = (.ok (result, resultIds), next)) :
    ∃ newIds, resultIds = ids ++ newIds
      ∧ result = staged ++ documents.zipWith Document.withId newIds
      ∧ List.Forall₂ Document.takesId documents newIds := by
  induction documents generalizing staged ids nextId with
  | nil =>
    cases hok
    exact ⟨[], by simp, by simp, .nil⟩
  | cons document rest ih =>
    rw [stage_cons] at hok
    split at hok
    · rcases ih hok with ⟨newIds, rfl, rfl, htakes⟩
      refine ⟨(document.ensureId nextId).2.1 :: newIds, by simp, ?_, .cons ?_ htakes⟩
      · rw [List.zipWith_cons_cons, ← Document.fst_ensureId]
        simp
      · exact Document.takesId_ensureId document nextId
    · cases hok

theorem fst_stage_of_ids (existing staged : List Document) {documents : List Document} (collection : String)
    (nextId otherId : ObjectId) (ids : List Value) (h : ∀ document ∈ documents, document.id?.isSome) :
    (stage existing collection nextId staged ids documents).1
      =
    (stage existing collection otherId staged ids documents).1 := by
  induction documents generalizing staged ids nextId otherId with
  | nil => rfl
  | cons document rest ih =>
    rw [List.forall_mem_cons] at h
    rcases Option.isSome_iff_exists.mp h.1 with ⟨id, hid⟩
    rw [stage_cons, stage_cons, Document.ensureId_of_id? hid, Document.ensureId_of_id? hid]
    cases checkUnique (existing ++ staged) id collection with
    | error => rfl
    | ok => exact ih _ _ _ _ h.2

section

variable {store after : Store} {documents first staged : List Document} {collection : String}
  {nextId : ObjectId} {ids : List Value} {failure : Failure}

theorem insertMany_of_stage_ok
    (hok : stage (store.documents collection) collection store.nextId [] [] documents
      = (.ok (staged, ids), nextId)) :
    store.insertMany documents collection
      =
    (.ok ids, { store with nextId }.put collection (store.documents collection ++ staged)) := by
  unfold insertMany
  dsimp only
  rw [hok]

theorem insertMany_of_stage_error
    (hfail : stage (store.documents collection) collection store.nextId [] [] documents
      = (.error failure, nextId)) :
    store.insertMany documents collection
      =
    (.error failure, { store with nextId }.put collection (store.documents collection)) := by
  unfold insertMany
  dsimp only
  rw [hfail]

theorem stage_of_insertMany_ok (hok : store.insertMany documents collection = (.ok ids, after)) :
    ∃ staged nextId, stage (store.documents collection) collection store.nextId [] [] documents
        = (.ok (staged, ids), nextId)
      ∧ after = { store with nextId }.put collection (store.documents collection ++ staged) := by
  unfold insertMany at hok
  dsimp only at hok
  split at hok
  · next hstage =>
    cases hok
    exact ⟨_, _, hstage, rfl⟩
  · cases hok

theorem stage_of_insertMany_error (hfail : (store.insertMany documents collection).1 = .error failure) :
    ∃ nextId, stage (store.documents collection) collection store.nextId [] [] documents
      = (.error failure, nextId) := by
  unfold insertMany at hfail
  dsimp only at hfail
  split at hfail
  · cases hfail
  · next hstage =>
    cases hfail
    exact ⟨_, hstage⟩

theorem documents_of_insertMany_ok (hok : store.insertMany documents collection = (.ok ids, after))
    (name : String) :
    after.documents name
      =
    if collection = name then
      store.documents collection ++ documents.zipWith Document.withId ids
    else
      store.documents name := by
  rcases stage_of_insertMany_ok hok with ⟨staged, nextId, hstage, rfl⟩
  rcases stage_eq_ok hstage with ⟨_, rfl, rfl, _⟩
  rw [documents_put]
  rfl

theorem documents_of_insertMany_error
    (hfail : store.insertMany documents collection = (.error failure, after)) (name : String) :
    after.documents name = store.documents name := by
  rcases stage_of_insertMany_error (congrArg Prod.fst hfail) with ⟨nextId, hstage⟩
  rw [insertMany_of_stage_error hstage] at hfail
  cases hfail
  exact documents_put_self { store with nextId } collection name

theorem takesId_of_insertMany (hok : store.insertMany documents collection = (.ok ids, after)) :
    List.Forall₂ Document.takesId documents ids := by
  rcases stage_of_insertMany_ok hok with ⟨staged, nextId, hstage, _⟩
  rcases stage_eq_ok hstage with ⟨_, rfl, _, htakes⟩
  exact htakes

theorem insertMany_append_of_error (second : List Document)
    (hfail : (store.insertMany first collection).1 = .error failure) :
    (store.insertMany (first ++ second) collection).1 = .error failure := by
  rcases stage_of_insertMany_error hfail with ⟨nextId, hstage⟩
  have happend := stage_append (store.documents collection) [] first second collection store.nextId []
  rw [hstage] at happend
  rw [insertMany_of_stage_error happend]

theorem insertMany_append_of_ok (second : List Document)
    (hok : store.insertMany first collection = (.ok ids, after)) :
    (store.insertMany (first ++ second) collection).1
        = (after.insertMany second collection).1.map (ids ++ ·)
      ∧
    ∀ moreIds, (after.insertMany second collection).1 = .ok moreIds →
      (store.insertMany (first ++ second) collection).2 = (after.insertMany second collection).2 := by
  rcases stage_of_insertMany_ok hok with ⟨staged, nextId, hstage, rfl⟩
  have happend := stage_append (store.documents collection) [] first second collection store.nextId []
  have hstaged := stage_of_staged (store.documents collection) staged [] second collection nextId ids []
  rw [hstage] at happend
  rw [List.append_nil, List.append_nil] at hstaged
  dsimp only at happend
  rw [hstaged] at happend
  -- the second list is staged on top of the documents that the first one has left in the store
  have hafter : ({ store with nextId }.put collection (store.documents collection ++ staged)).documents
      collection = store.documents collection ++ staged := by
    rw [documents_put, if_pos rfl]
  rcases hsecond : stage (store.documents collection ++ staged) collection nextId [] [] second with
    ⟨_ | ⟨more, moreIds⟩, next⟩
  · rw [hsecond] at happend
    rw [← hafter] at hsecond
    rw [insertMany_of_stage_error happend, insertMany_of_stage_error hsecond]
    exact ⟨rfl, nofun⟩
  · rw [hsecond] at happend
    rw [← hafter] at hsecond
    rw [insertMany_of_stage_ok happend, insertMany_of_stage_ok hsecond, hafter]
    refine ⟨rfl, fun _ _ => ?_⟩
    unfold put
    dsimp only
    rw [Fields.insert_insert, List.append_assoc]

end

end Store
end DocQuery
