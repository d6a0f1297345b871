import DocQuery.Filter.Basic
import DocQuery.Text.Number

/-!
This module turns filters into predicate documents. It never fails: what cannot be
understood asks for nothing.
-/

namespace DocQuery

namespace Filter

def readToken (token : String) : Value :=
  match Text.readInt64? token with
  | some n => .int64 n
  | none =>
    match Text.readDecimal? token with
    | some x => if x.isFinite then .double x else .string token
    | none => .string token

def readMembers : Value → List Value
  | .array items => items
  | .string s => (Text.entries s).map readToken
  | .null => []
  | .undefined => []
  | value => [value]

def likePattern? (value : Value) : Option String :=
  if value.isTruthy then
    match value with
    | .string s => some s
    | value => some value.text
  else
    none

end Filter

def Operator.compile (operator : Operator) (value : Value) : Document :=
  match operator with
  | eq => [("$eq", value)]
  | ne => [("$ne", value)]
  | lt => [("$lt", value)]
  | lte => [("$lte", value)]
  | gt => [("$gt", value)]
  | gte => [("$gte", value)]
  | like =>
    match Filter.likePattern? value with
    | some pattern => [("$regex", .string pattern), ("$options", .string "i")]
    | none => []
  | isIn => [("$in", .array (Filter.readMembers value))]
  | notIn => [("$nin", .array (Filter.readMembers value))]
  | unknown _ => []

namespace Condition

def compilePairs (pairs : List (Operator × Value)) : Document :=
  -- of two pairs with one native operator the later counts
  pairs.foldl (fun merged pair => Fields.merge merged (pair.1.compile pair.2)) []

def compile? : Condition → Option Value
  | .equals value => some value
  | .between low high => some (.document [("$gte", low), ("$lte", high)])
  | .all pairs =>
    match compilePairs pairs with
    | [] => none
    | merged => some (.document merged)

end Condition

namespace Filter

def compileFields (conditions : List (String × Condition)) : Document :=
  .ofList <| conditions.filterMap fun (field, condition) =>
    condition.compile?.map (field, ·)

mutual

def compile : Filter → Document
  | .fields conditions => compileFields conditions
  | .logical conjunct alternatives =>
    compileConjunct conjunct ++
      match alternatives with
      | none => []
      | some [] => []
      | some (filter :: rest) =>
        [("$or", .array ((filter.compile :: compileAll rest).map .document))]
  | .any [] => []
  | .any (filter :: rest) =>
    [("$or", .array ((filter.compile :: compileAll rest).map .document))]

def compileConjunct : Option Filter → Document
  | none => []
  | some (.any []) => []
  -- filters side by side all have to hold here, and by themselves one of them
  | some (.any (filter :: rest)) =>
    [("$and", .array ((filter.compile :: compileAll rest).map .document))]
  | some filter => [("$and", .array [.document filter.compile])]

def compileAll : List Filter → List Document
  | [] => []
  | filter :: rest => filter.compile :: compileAll rest

end

end Filter

def Selector.compile : Selector → Document
  | .byId id => [("_id", id)]
  | .matching filter => filter.compile

end DocQuery
