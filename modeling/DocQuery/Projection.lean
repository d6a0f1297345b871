import DocQuery.Path
import DocQuery.Text.Blank

/-!
This module contains projections: which fields a read returns, how that is written for a store, and what a
store makes of it.
-/

namespace DocQuery

inductive Projection where
  | all
  | names (list : String)
  | native (projection : Document)

namespace Projection

instance : Inhabited Projection := ⟨all⟩

def ofString (s : String) : Projection := if Text.trim s = "*" then all else names s

def including (fields : List String) : Document :=
  .ofList (fields.map (·, .int32 1))

def ofNames (fields : List String) : Projection := native (including fields)

def compile? : Projection → Option Document
  | all => none
  | names list =>
    match including (Text.entries list) with
    -- a list without any name returns all fields
    | [] => none
    | projection => some projection
  | native [] => none
  | native projection => some projection

end Projection

namespace Document

def isInclusion (projection : Document) : Bool :=
  projection.any fun (field, flag) => field ≠ "_id" && flag.isSet

def without (document : Document) (projection : Document) : Document :=
  (projection.filter fun field => !field.2.isSet).foldl (fun kept field => Fields.erase kept field.1)
    document

def copyAt (source : Document) (target : Document) (field : String) : Document :=
  match source.lookup? (.ofString field) with
  | some value => target.set (.ofString field) value
  | none => target

def only (document : Document) (projection : Document) : Document :=
  let keepsId := (Fields.get? projection "_id").all (·.isSet)
  let id : Document :=
    match Fields.get? document "_id" with
    | some id => if keepsId then [("_id", id)] else []
    | none => []
  let paths := projection.filter fun (field, flag) => field ≠ "_id" && flag.isSet
  paths.foldl (fun kept field => copyAt document kept field.1) id

def project (document : Document) (projection : Document) : Document :=
  if isInclusion projection then only document projection else without document projection

end Document
end DocQuery
