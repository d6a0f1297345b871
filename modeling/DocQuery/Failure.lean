import DocQuery.Value.Text

/-!
This module contains the ways in which a call can fail, and what each of them says.
-/

namespace DocQuery

inductive DocumentFault where
  | immutableId
  | updateNeedsFields (op : String)
  | unsupportedUpdate (op : String)
  | overflow (op : String)
  | notNumbers (op : String) (operand current : Value)
  | duplicateId (id : Value) (collection : String)
  | other (text : String)

inductive BackendFault where
  | clausesNeedArray (op : String)
  | clauseNotDocument (op : String) (got : Value)
  | membersNeedArray (op : String) (got : Value)
  | patternNotText (got : Value)
  | invalidPattern (message : String)
  | unknownOperator (op : String)
  | emptyStage
  | unsupportedStage (name : String)
  | stageNeedsDocument (name : String) (got : Value)
  | stageNeedsInteger (name : String) (got : Value)
  | stageNegative (name : String)
  | lookupNeedsText (field : String)
  | unwindNeedsPath
  | invalidUnwind (got : Value)
  | unwindPathUnmarked (path : String)
  | countNeedsName
  | groupNeedsAccumulator (field : String)
  | unsupportedAccumulator (op : String)
  | collectionExists (name : String)
  | other (text : String)

inductive Failure where
  | serialization (text : String)
  | initialization (text : String)
  | invalidDocument (fault : DocumentFault)
  | backend (fault : BackendFault)

def DocumentFault.message : DocumentFault → String
  | immutableId => "_id is immutable"
  | updateNeedsFields op => op ++ " needs a document of fields"
  | unsupportedUpdate op => "unsupported update operator " ++ op
  | overflow op => op ++ " overflowed a 64-bit integer"
  | notNumbers op operand current =>
    "cannot apply " ++ op ++ " with " ++ operand.text ++ " to " ++ current.text
  | duplicateId id collection => "duplicate _id " ++ id.text ++ " in collection " ++ collection
  | other text => text

def BackendFault.message : BackendFault → String
  | clausesNeedArray op => op ++ " needs an array"
  | clauseNotDocument op got => op ++ " entries must be documents, got " ++ got.text
  | membersNeedArray op got => op ++ " needs an array, got " ++ got.text
  | patternNotText got => "$regex needs a string pattern, got " ++ got.text
  | invalidPattern message => message
  | unknownOperator op => "unknown query operator " ++ op
  | emptyStage => "empty pipeline stage"
  | unsupportedStage name => "unsupported pipeline stage " ++ name
  | stageNeedsDocument name got => name ++ " needs a document, got " ++ got.text
  | stageNeedsInteger name got => name ++ " needs an integer, got " ++ got.text
  | stageNegative name => name ++ " must not be negative"
  | lookupNeedsText field => "$lookup needs a string " ++ field
  | unwindNeedsPath => "$unwind needs a path"
  | invalidUnwind got => "invalid $unwind " ++ got.text
  | unwindPathUnmarked path => "$unwind path must start with $, got " ++ path
  | countNeedsName => "$count needs a field name"
  | groupNeedsAccumulator field => "$group field " ++ field ++ " needs an accumulator"
  | unsupportedAccumulator op => "unsupported accumulator " ++ op
  | collectionExists name => "collection already exists: " ++ name
  | other text => text

def Failure.message : Failure → String
  | serialization text => "Serialization error: " ++ text
  | initialization text => "Initialization error: " ++ text
  | invalidDocument fault => "Invalid document: " ++ fault.message
  | backend fault => "Backend error: " ++ fault.message

abbrev Outcome (α : Type) : Type := Except Failure α

end DocQuery
