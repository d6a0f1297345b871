import DocQuery.Collection

/-!
This module contains reads that condense a collection: distinct values, sums, extrema, groups and random
samples.
-/

namespace DocQuery

inductive Sample where
  | one (document : Option Document)
  | many (documents : List Document)

namespace Sample

def toList : Sample → List Document
  | one document => document.toList
  | many documents => documents

end Sample

def Value.orZero : Option Value → Value
  | some value => if value.isTruthy then value else .int32 0
  | none => .int32 0

def Value.groupText : Value → String
  | .string s => s
  | .double x => if Double.isWhole x then Double.wholeText x else Double.text x
  | .null => "null"
  | .undefined => "null"
  | .objectId id => id.hex
  | value => value.text

namespace Collection

variable {m : Type → Type} [Monad m] [MonadStore m]

def valueField : String := "value"

def countField : String := "total"

def group (collection : Collection) (selector : Selector) (spec : Document) : m (List Document) :=
  send (.aggregate [Stage.filter selector.compile, Stage.group spec] collection.name)

def accumulate (collection : Collection) (selector : Selector) (op field : String) :
    m (Option Value) := do
  let accumulator : Value := .document [(op, .string (fieldRef field))]
  let rows ← collection.group selector [("_id", .null), (valueField, accumulator)]
  return rows.head?.bind (Fields.get? · valueField)

def distinct (collection : Collection) (selector : Selector) (field : String) : m (List Value) := do
  match ← collection.accumulate selector "$addToSet" field with
  | some (.array values) => return values
  | _ => return []

def distinctCount (collection : Collection) (selector : Selector) (field : String) : m Nat := do
  return (← collection.distinct selector field).length

def sum? (collection : Collection) (selector : Selector) (field : String) : m (Option Value) := do
  return (← collection.accumulate selector "$sum" field).filter (·.isDefined)

def min? (collection : Collection) (selector : Selector) (field : String) : m (Option Value) := do
  return (← collection.accumulate selector "$min" field).filter (·.isDefined)

def max? (collection : Collection) (selector : Selector) (field : String) : m (Option Value) := do
  return (← collection.accumulate selector "$max" field).filter (·.isDefined)

def sum (collection : Collection) (selector : Selector) (field : String) : m Value := do
  return .orZero (← collection.sum? selector field)

def min (collection : Collection) (selector : Selector) (field : String) : m Value := do
  return .orZero (← collection.min? selector field)

def max (collection : Collection) (selector : Selector) (field : String) : m Value := do
  return .orZero (← collection.max? selector field)

def groupSum (collection : Collection) (selector : Selector) (field : String) (fields : List String) :
    m (List Document) := do
  let spec := Fields.merge [("_id", .string (fieldRef field))] <|
    fields.map fun name => (name, .document [("$sum", .string (fieldRef name))])
  let rows ← collection.group selector spec
  return rows.map (row field fields)
where
  row (field : String) (fields : List String) (group : Document) : Document :=
    let start : Document := [(field, (Fields.get? group "_id").getD .null)]
    (fields.foldl
      (fun (state : Document × Document) name =>
        -- each entry is taken out of the group once
        (Fields.insert state.1 name ((Fields.get? state.2 name).getD .null),
          Fields.erase state.2 name))
      (start, Fields.erase group "_id")).1

def groupCount (collection : Collection) (selector : Selector) (field : String) : m Document := do
  let spec := [("_id", .string (fieldRef field)), (countField, .document [("$sum", .int32 1)])]
  let rows ← collection.group selector spec
  return .ofList (rows.map (entry field))
where
  entry (field : String) (group : Document) : String × Value :=
    let value := ((Fields.get? group "_id").map (·.groupText)).getD "null"
    (field ++ "_" ++ value, (Fields.get? group countField).getD (.int64 0))

def random (collection : Collection) (selector : Selector) (projection : Projection) (size : UInt64) :
    m Sample := do
  let size := Min.min size collection.config.limits.maxSize
  if size = 0 then
    return .many []
  else
    let pipeline :=
      [Stage.filter selector.compile]
        ++ (projection.compile?.map Stage.project).toList
        ++ [Stage.sample size]
    let rows ← send (.aggregate pipeline collection.name)
    return if size = 1 then .one rows.head? else .many rows

end Collection
end DocQuery
