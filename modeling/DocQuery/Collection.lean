import DocQuery.Config
import DocQuery.Join
import DocQuery.Query
import DocQuery.Request

/-!
This module contains the operations on one collection: inserting, updating, deleting and plain reads. Each
of them sends the requests that the collection's store has to answer.
-/

namespace DocQuery

structure Collection where
  name : String
  config : Config := {}

def chunks {α : Type} (size : Nat) (items : List α) : List (List α) :=
  match items with
  | [] => []
  -- pieces of `size + 1` items
  | first :: rest => (first :: rest.take size) :: chunks size (rest.drop size)
termination_by items.length
decreasing_by
  simp only [List.length_drop, List.length_cons]
  omega

namespace Collection

variable {m : Type → Type} [Monad m] [MonadStore m]

def insert (collection : Collection) (document : Document) : m Value :=
  send (.insertOne document collection.name)

def insertBatch (collection : Collection) (documents : List Document) : m (List Value) := do
  let ids ← (chunks (collection.config.batchSize.toNat - 1) documents).mapM fun batch =>
    send (.insertMany batch collection.name)
  return ids.flatten

def update (collection : Collection) (selector : Selector) (update : Document) : m UInt64 :=
  send (.updateMany selector.compile update collection.name)

def edit (collection : Collection) (selector : Selector) (patch : Document) : m UInt64 :=
  collection.update selector [("$set", .document patch)]

def increase (collection : Collection) (selector : Selector) (field : String) (value : Value) :
    m UInt64 :=
  collection.update selector [("$inc", .document [(field, value)])]

def multiply (collection : Collection) (selector : Selector) (field : String) (value : Value) :
    m UInt64 :=
  collection.update selector [("$mul", .document [(field, value)])]

def delete (collection : Collection) (selector : Selector) : m UInt64 :=
  send (.deleteMany selector.compile collection.name)

def clear (collection : Collection) : m UInt64 :=
  send (.deleteMany [] collection.name)

def count (collection : Collection) (selector : Selector) : m UInt64 :=
  send (.countDocuments selector.compile collection.name)

def first? (collection : Collection) (query : Query) : m (Option Document) := do
  let options : FindOptions :=
    { projection := query.projection?, sort := query.order?, limit := some 1 }
  return (← send (.find query.predicate options collection.name)).head?

def read (collection : Collection) (query : Query) (limit : UInt64) : m (List Document) :=
  let limit := collection.config.limits.clampLimit limit
  let options : FindOptions :=
    { projection := query.projection?, sort := query.order?, limit := some limit }
  send (.find query.predicate options collection.name)

def readUnwound (collection : Collection) (field : String) (query : Query) (limit : UInt64) :
    m (List Document) :=
  let limit := collection.config.limits.clampLimit limit
  let pipeline :=
    [Stage.unwind field, Stage.filter query.predicate]
      ++ (query.projection?.map Stage.project).toList
      ++ (query.order?.map Stage.sort).toList
      ++ [Stage.limit limit]
  send (.aggregate pipeline collection.name)

end Collection

inductive Holding where
  | owned
  | borrowed
  | shared (last : Bool)
deriving DecidableEq

namespace Database

variable {m : Type → Type} [Monad m] [MonadStore m]

def hasCollection [MonadExceptOf Failure m] (name : String) : m Bool :=
  tryCatch
    (do return (← send (.listCollections (some name))).any (· == name))
    (fun (_ : Failure) => return false)

def ensureCollection [MonadExceptOf Failure m] (name : String) : m Bool := do
  if ← hasCollection name then
    return true
  else
    tryCatch
      (do
        send (.createCollection name)
        return true)
      (fun (_ : Failure) => return false)

def close : Holding → m Unit
  | .owned => send .shutdown
  | .shared true => send .shutdown
  | .borrowed => return ()
  | .shared false => return ()

end Database
end DocQuery
