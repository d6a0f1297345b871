import DocQuery.Pipeline.Stage

/-!
This module contains joins with another collection: the stage that attaches the matching documents, and
the reshaping of rows that are to hold one of them.
-/

namespace DocQuery

structure Join where
  source : String
  localField : String
  foreignField : String
  target : String
  flattenToOne : Bool := true
deriving DecidableEq

namespace Join

def oneToMany (join : Join) : Join := { join with flattenToOne := false }

def stage (join : Join) : Document :=
  [("$lookup", .document [
    ("from", .string join.source),
    ("localField", .string join.localField),
    ("foreignField", .string join.foreignField),
    ("as", .string join.target)])]

def flatten (row : Document) (target : String) : Document :=
  match Fields.get? row target with
  | none => row
  | some .null => row
  | some (.array (first :: _)) => Fields.insert row target first
  -- an empty list, or anything else that is no list of joined documents
  | some _ => Fields.insert row target (.document [])

def reshape (join : Join) (rows : List Document) : List Document :=
  if join.flattenToOne then rows.map (flatten · join.target) else rows

end Join
end DocQuery
