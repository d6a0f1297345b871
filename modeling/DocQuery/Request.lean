import DocQuery.Failure
import DocQuery.Pipeline.Stage

/-!
This module contains the calls that a document store answers.
-/

namespace DocQuery

structure FindOptions where
  projection : Option Document := none
  sort : Option Document := none
  skip : Option UInt64 := none
  limit : Option UInt64 := none

inductive Request : Type → Type where
  | insertOne (document : Document) (collection : String) : Request Value
  | insertMany (documents : List Document) (collection : String) : Request (List Value)
  | updateMany (predicate update : Document) (collection : String) : Request UInt64
  | deleteMany (predicate : Document) (collection : String) : Request UInt64
  | countDocuments (predicate : Document) (collection : String) : Request UInt64
  | aggregate (pipeline : Pipeline) (collection : String) : Request (List Document)
  | find (predicate : Document) (options : FindOptions) (collection : String) : Request (List Document)
  | listCollections (name : Option String) : Request (List String)
  | createCollection (name : String) : Request Unit
  | shutdown : Request Unit

class MonadStore (m : Type → Type) where
  send {α : Type} : Request α → m α

export MonadStore (send)

end DocQuery
