import DocQuery.Pipeline.Group
import DocQuery.Pipeline.Stage
import DocQuery.Projection
import DocQuery.Sorting

/-!
This module contains the running of pipelines over lists of documents.
-/

namespace DocQuery

abbrev Collections : Type := Fields (List Document)

def Collections.documents (collections : Collections) (name : String) : List Document :=
  (Fields.get? collections name).getD []

namespace Stage

def readDocument (stage : String) : Value → Outcome Document
  | .document fields => .ok fields
  | got => .error (.backend (.stageNeedsDocument stage got))

def readCount (stage : String) (spec : Value) : Outcome Nat :=
  let ofInt (n : Int) : Outcome Nat :=
    if n < 0 then .error (.backend (.stageNegative stage)) else .ok n.toNat
  match spec with
  | .int32 n => ofInt n.toInt
  | .int64 n => ofInt n.toInt
  | .double x =>
    -- a double has to be whole
    if Double.isWhole x then
      ofInt (Word.clampInt (Double.truncate x)).toInt
    else
      .error (.backend (.stageNeedsInteger stage spec))
  | got => .error (.backend (.stageNeedsInteger stage got))

def readUnwind (spec : Value) : Outcome (Path × Bool) := do
  let (path, preserve) ← (
    match spec with
    | .string path => .ok (path, false)
    | .document options =>
      match Fields.get? options "path" with
      | some (.string path) =>
        let preserve :=
          match Fields.get? options "preserveNullAndEmptyArrays" with
          | some (.bool preserve) => preserve
          | _ => false
        .ok (path, preserve)
      | _ => .error (.backend .unwindNeedsPath)
    | got => .error (.backend (.invalidUnwind got)) : Outcome (String × Bool))
  match path.toList with
  | '$' :: field => return (.ofString (String.ofList field), preserve)
  | _ => throw (.backend (.unwindPathUnmarked path))

def unwindRows (path : Path) (preserve : Bool) (document : Document) : List Document :=
  match document.lookup? path with
  | some (.array (item :: rest)) => (item :: rest).map (document.set path)
  | some (.array []) | some .null | none => if preserve then [document] else []
  | some _ => [document]

def readJoinField (spec : Document) (field : String) : Outcome String :=
  match Fields.get? spec field with
  | some (.string s) => .ok s
  | _ => .error (.backend (.lookupNeedsText field))

def joinValues (document : Document) (localField : Path) : List Value :=
  match document.lookup? localField with
  | some (.array items) => items
  | some value => [value]
  | none => [.null]

def attach (foreign : List Document) (localField foreignField target : Path) (document : Document) :
    Document :=
  let values := joinValues document localField
  let joined := foreign.filter fun candidate =>
    values.any (meetsLiteral (candidate.lookup? foreignField) ·)
  document.set target (.array (joined.map .document))

def lookup (collections : Collections) (spec : Document) (documents : List Document) :
    Outcome (List Document) := do
  let source ← readJoinField spec "from"
  let localField ← readJoinField spec "localField"
  let foreignField ← readJoinField spec "foreignField"
  let target ← readJoinField spec "as"
  return documents.map
    (attach (collections.documents source) (.ofString localField) (.ofString foreignField)
      (.ofString target))

def countRows (spec : Value) (documents : List Document) : Outcome (List Document) :=
  match spec with
  | .string field =>
    match documents with
    | [] => .ok []
    | _ => .ok [[(field, .ofInt documents.length)]]
  | _ => .error (.backend .countNeedsName)

def shuffle : List Document → List Document
  | [] => []
  | [document] => [document]
  | first :: second :: rest => second :: (shuffle rest ++ [first])

def draw (size : Nat) (documents : List Document) : List Document := (shuffle documents).take size

def run [Pattern.Engine] (collections : Collections) (documents : List Document) (stage : Document) :
    Outcome (List Document) :=
  match stage with
  | [] => .error (.backend .emptyStage)
  | (name, spec) :: _ =>
    match name with
    | "$match" => do Predicate.select (← readDocument name spec) documents
    | "$unwind" => do
      let (path, preserve) ← readUnwind spec
      return documents.flatMap (unwindRows path preserve)
    | "$lookup" => do lookup collections (← readDocument name spec) documents
    | "$project" => do
      let projection ← readDocument name spec
      return documents.map (·.project projection)
    | "$sort" => return sortDocuments (← readDocument name spec) documents
    | "$skip" => return documents.drop (← readCount name spec)
    | "$limit" => return documents.take (← readCount name spec)
    | "$count" => countRows spec documents
    | "$group" => do groupDocuments (← readDocument name spec) documents
    | "$sample" => do
      let options ← readDocument name spec
      match Fields.get? options "size" with
      | some size => return draw (← readCount "$sample.size" size) documents
      | none => return []
    | _ => .error (.backend (.unsupportedStage name))

end Stage

def Pipeline.run [Pattern.Engine] (collections : Collections) :
    Pipeline → List Document → Outcome (List Document)
  | [], documents => .ok documents
  | stage :: rest, documents => do
    Pipeline.run collections rest (← Stage.run collections documents stage)

end DocQuery
