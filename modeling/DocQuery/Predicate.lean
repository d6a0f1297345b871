import DocQuery.Collation
import DocQuery.Failure
import DocQuery.Path
import DocQuery.Pattern.Engine

/-!
This module contains the evaluation of predicate documents: fields with literals or operators, and the
connectives `$and`, `$or` and `$nor`. Clauses are looked at from left to right, and the first one that
does not hold ends the evaluation.
-/

namespace DocQuery

def isMarked (name : String) : Bool := name.toList.head? == some '$'

def Document.isOperators (document : Document) : Bool :=
  match document with
  | [] => false
  | (name, _) :: _ => isMarked name

namespace Predicate

variable [Pattern.Engine]

def searches (value? : Option Value) (pattern options : String) : Outcome Bool :=
  -- the engine is asked even where there is nothing to search
  match Pattern.Engine.compile (.ofString options) pattern with
  | .error message => .error (.backend (.invalidPattern message))
  | .ok isIn =>
    let found : Value → Bool
      | .string s => isIn s
      | _ => false
    .ok <|
      match value? with
      | some (.string s) => isIn s
      | some (.array items) => items.any found
      | _ => false

def isMember (op : String) (value? : Option Value) : Value → Outcome Bool
  | .array items => .ok (items.any (meetsLiteral value? ·))
  | got => .error (.backend (.membersNeedArray op got))

def compares (accept : Ordering → Bool) (value? : Option Value) (operand : Value) : Bool :=
  value?.any (·.compares accept operand)

def patternOptions (ops : Document) : String :=
  ((Fields.get? ops "$options").bind (·.asString?)).getD ""

def passes (value? : Option Value) (ops : Document) (op : String) (operand : Value) : Outcome Bool :=
  match op with
  | "$eq" => .ok (meetsLiteral value? operand)
  | "$ne" => .ok (!meetsLiteral value? operand)
  | "$gt" => .ok (compares (·.isGT) value? operand)
  | "$gte" => .ok (compares (·.isGE) value? operand)
  | "$lt" => .ok (compares (·.isLT) value? operand)
  | "$lte" => .ok (compares (·.isLE) value? operand)
  | "$in" => isMember op value? operand
  | "$nin" => (isMember op value? operand).map (!·)
  | "$exists" => .ok (value?.isSome == operand.isSet)
  | "$regex" =>
    match operand with
    | .string pattern => searches value? pattern (patternOptions ops)
    | .regex pattern options => searches value? pattern options
    | got => .error (.backend (.patternNotText got))
  | op => .error (.backend (.unknownOperator op))

def passesAll (value? : Option Value) (ops : Document) : List (String × Value) → Outcome Bool
  | [] => .ok true
  | (op, operand) :: rest =>
    -- the options belong to the pattern
    if op = "$options" then
      passesAll value? ops rest
    else do
      if ← passes value? ops op operand then
        passesAll value? ops rest
      else
        return false

def meetsCondition (value? : Option Value) (condition : Value) : Outcome Bool :=
  match condition with
  | .document ops =>
    if Document.isOperators ops then
      passesAll value? ops ops
    else
      .ok (meetsLiteral value? condition)
  | .regex pattern options => searches value? pattern options
  | literal => .ok (meetsLiteral value? literal)

def checkClauses (op : String) : List Value → Outcome Unit
  | [] => .ok ()
  | .document _ :: rest => checkClauses op rest
  | got :: _ => .error (.backend (.clauseNotDocument op got))

def isConnective (name : String) : Bool := name == "$and" || name == "$or" || name == "$nor"

mutual

def holds (document : Document) : List (String × Value) → Outcome Bool
  | [] => .ok true
  | (name, condition) :: rest => do
    if ← clauseHolds document name condition then
      holds document rest
    else
      return false

def clauseHolds (document : Document) (name : String) : Value → Outcome Bool
  | .array clauses =>
    match name with
    | "$and" => do
      checkClauses name clauses
      allHold document clauses
    | "$or" => do
      checkClauses name clauses
      anyHolds document clauses
    | "$nor" => do
      checkClauses name clauses
      return !(← anyHolds document clauses)
    | _ => meetsCondition (document.resolve? (.ofString name)) (.array clauses)
  | condition =>
    if isConnective name then
      .error (.backend (.clausesNeedArray name))
    else
      meetsCondition (document.resolve? (.ofString name)) condition

def allHold (document : Document) : List Value → Outcome Bool
  | [] => .ok true
  | .document clause :: rest => do
    if ← holds document clause then
      allHold document rest
    else
      return false
  | _ :: rest => allHold document rest

def anyHolds (document : Document) : List Value → Outcome Bool
  | [] => .ok false
  | .document clause :: rest => do
    if ← holds document clause then
      return true
    else
      anyHolds document rest
  | _ :: rest => anyHolds document rest

end

def select (predicate : Document) : List Document → Outcome (List Document)
  | [] => .ok []
  | document :: rest => do
    if ← holds document predicate then
      return document :: (← select predicate rest)
    else
      select predicate rest

end Predicate
end DocQuery
