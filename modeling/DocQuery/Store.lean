import DocQuery.Pattern.Standard
import DocQuery.Pipeline.Run
import DocQuery.Request
import DocQuery.Update

/-!
This module contains a document store that keeps its collections in memory, with the documents of each in
the order in which they were inserted.
-/

namespace DocQuery

structure Store where
  collections : Collections
  nextId : ObjectId

namespace Store

def firstId : ObjectId := ⟨0x6a5f3c9d8e71b2a4d0000001⟩

def empty : Store := ⟨[], firstId⟩

instance : Inhabited Store := ⟨empty⟩

def documents (store : Store) (collection : String) : List Document :=
  store.collections.documents collection

def put (store : Store) (collection : String) (documents : List Document) : Store :=
  { store with collections := Fields.insert store.collections collection documents }

end Store

def ObjectId.next (id : ObjectId) : ObjectId := ⟨id.bits + 1⟩

def Document.ensureId (document : Document) (nextId : ObjectId) : Document × Value × ObjectId :=
  match Fields.get? document "_id" with
  | some id => (document, id, nextId)
  | none => (Fields.insert document "_id" (.objectId nextId), .objectId nextId, nextId.next)

def Document.hasId (document : Document) (id : Value) : Bool :=
  meetsLiteral (Fields.get? document "_id") id

namespace Store

def checkUnique (documents : List Document) (id : Value) (collection : String) : Outcome Unit :=
  if documents.any (·.hasId id) then
    .error (.invalidDocument (.duplicateId id collection))
  else
    .ok ()

def stage (existing : List Document) (collection : String) (nextId : ObjectId) (staged : List Document)
    (ids : List Value) : List Document → Outcome (List Document × List Value) × ObjectId
  | [] => (.ok (staged, ids), nextId)
  | document :: rest =>
    let (document, id, nextId) := document.ensureId nextId
    match checkUnique existing id collection, checkUnique staged id collection with
    | .ok (), .ok () =>
      stage existing collection nextId (staged ++ [document]) (ids ++ [id]) rest
    -- the supply of ids moves on even where an id is refused
    | .error failure, _ => (.error failure, nextId)
    | .ok (), .error failure => (.error failure, nextId)

def insertMany (store : Store) (documents : List Document) (collection : String) :
    Outcome (List Value) × Store :=
  let existing := store.documents collection
  match stage existing collection store.nextId [] [] documents with
  | (.ok (staged, ids), nextId) =>
    (.ok ids, { store with nextId }.put collection (existing ++ staged))
  -- the collection exists from now on
  | (.error failure, nextId) => (.error failure, { store with nextId }.put collection existing)

def insertOne (store : Store) (document : Document) (collection : String) : Outcome Value × Store :=
  let existing := store.documents collection
  let (document, id, nextId) := document.ensureId store.nextId
  match checkUnique existing id collection with
  | .ok () => (.ok id, { store with nextId }.put collection (existing ++ [document]))
  | .error failure => (.error failure, { store with nextId }.put collection existing)

variable [Pattern.Engine]

def patch? (predicate update document : Document) : Outcome (Option Document) := do
  if ← Predicate.holds document predicate then
    let patched ← document.update update
    return if patched.same document then none else some patched
  else
    return none

def updateDocuments (predicate update : Document) : List Document → Outcome Nat × List Document
  | [] => (.ok 0, [])
  | document :: rest =>
    match patch? predicate update document with
    -- the documents in front of this one stay updated
    | .error failure => (.error failure, document :: rest)
    | .ok none =>
      let (count, rest) := updateDocuments predicate update rest
      (count, document :: rest)
    | .ok (some patched) =>
      let (count, rest) := updateDocuments predicate update rest
      (count.map (· + 1), patched :: rest)

def updateMany (store : Store) (predicate update : Document) (collection : String) :
    Outcome UInt64 × Store :=
  match Fields.get? store.collections collection with
  | none => (.ok 0, store)
  | some documents =>
    let (count, documents) := updateDocuments predicate update documents
    (count.map UInt64.ofNat, store.put collection documents)

def divide (predicate : Document) : List Document → Outcome (List Document × List Document)
  | [] => .ok ([], [])
  | document :: rest => do
    let met ← Predicate.holds document predicate
    let (selected, others) ← divide predicate rest
    return if met then (document :: selected, others) else (selected, document :: others)

def deleteMany (store : Store) (predicate : Document) (collection : String) : Outcome UInt64 × Store :=
  match Fields.get? store.collections collection with
  | none => (.ok 0, store)
  | some documents =>
    match divide predicate documents with
    | .ok (selected, others) =>
      (.ok (UInt64.ofNat selected.length), store.put collection others)
    | .error failure => (.error failure, store)

def countDocuments (store : Store) (predicate : Document) (collection : String) : Outcome UInt64 := do
  let selected ← Predicate.select predicate (store.documents collection)
  return UInt64.ofNat selected.length

def aggregate (store : Store) (pipeline : Pipeline) (collection : String) : Outcome (List Document) :=
  pipeline.run store.collections (store.documents collection)

def arrange (options : FindOptions) (documents : List Document) : List Document :=
  let sorted :=
    match options.sort with
    | some sort => sortDocuments sort documents
    | none => documents
  let skipped := sorted.drop (options.skip.getD 0).toNat
  let limited :=
    match options.limit with
    | some limit => skipped.take limit.toNat
    | none => skipped
  match options.projection with
  | some projection => limited.map (·.project projection)
  | none => limited

def find (store : Store) (predicate : Document) (options : FindOptions) (collection : String) :
    Outcome (List Document) := do
  return arrange options (← Predicate.select predicate (store.documents collection))

def listCollections (store : Store) (name : Option String) : List String :=
  (Fields.names store.collections).filter fun existing => name.all (· == existing)

def createCollection (store : Store) (name : String) : Outcome Unit × Store :=
  if Fields.contains store.collections name then
    (.error (.backend (.collectionExists name)), store)
  else
    (.ok (), store.put name [])

def answer {α : Type} (store : Store) : Request α → Outcome α × Store
  | .insertOne document collection => store.insertOne document collection
  | .insertMany documents collection => store.insertMany documents collection
  | .updateMany predicate update collection => store.updateMany predicate update collection
  | .deleteMany predicate collection => store.deleteMany predicate collection
  | .countDocuments predicate collection => (store.countDocuments predicate collection, store)
  | .aggregate pipeline collection => (store.aggregate pipeline collection, store)
  | .find predicate options collection => (store.find predicate options collection, store)
  | .listCollections name => (.ok (store.listCollections name), store)
  | .createCollection name => store.createCollection name
  | .shutdown => (.ok (), store)

def seed (collections : Collections) (collection : String) (documents : List Document) : Collections :=
  Fields.insert collections collection (collections.documents collection ++ documents)

def seedIds (nextId : ObjectId) : Collections → Outcome (Collections × ObjectId)
  | [] => .ok ([], nextId)
  | (collection, documents) :: rest => do
    match stage [] collection nextId [] [] documents with
    | (.ok (staged, _), nextId) =>
      let (rest, nextId) ← seedIds nextId rest
      return ((collection, staged) :: rest, nextId)
    | (.error failure, _) => throw failure

def seeded (collections : Collections) : Outcome Store := do
  let (collections, nextId) ← seedIds firstId collections
  return ⟨collections, nextId⟩

end Store

abbrev StoreM : Type → Type := ExceptT Failure (StateM Store)

instance [Pattern.Engine] : MonadStore StoreM where
  send request := fun store => store.answer request

end DocQuery
