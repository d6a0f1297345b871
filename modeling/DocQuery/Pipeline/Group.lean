import DocQuery.Collation
import DocQuery.Failure
import DocQuery.Path
import DocQuery.Predicate
import DocQuery.Word

/-!
This module contains the grouping of documents: expressions, accumulators, and the rows they yield.
-/

namespace DocQuery

mutual

def Document.evaluate (document : Document) : Value → Value
  | .string s =>
    match s.toList with
    | '$' :: path => (document.lookup? (.ofString (String.ofList path))).getD .null
    | _ => .string s
  | .document members => .document (Document.evaluateMembers document members)
  | literal => literal

def Document.evaluateMembers (document : Document) : List (String × Value) → List (String × Value)
  | [] => []
  | (name, value) :: rest =>
    (name, document.evaluate value) :: Document.evaluateMembers document rest

end

/--
A running sum that remembers which types of numbers went into it. Integers are added apart from doubles,
and stop at the ends of the 64-bit range.
-/
structure NumericSum where
  integer : Int64 := 0
  float : Float := 0
  isWide : Bool := false
  isDouble : Bool := false
  count : Nat := 0

namespace NumericSum

def add (sum : NumericSum) : Value → NumericSum
  | .int32 n =>
    { sum with integer := Word.clampInt (sum.integer.toInt + n.toInt), count := sum.count + 1 }
  | .int64 n =>
    { sum with
      integer := Word.clampInt (sum.integer.toInt + n.toInt), isWide := true, count := sum.count + 1 }
  | .double x => { sum with float := sum.float + x, isDouble := true, count := sum.count + 1 }
  | _ => sum

def ofValues (values : List Value) : NumericSum := values.foldl add {}

def toFloat (sum : NumericSum) : Float := Double.ofInt sum.integer.toInt + sum.float

def toValue (sum : NumericSum) : Value :=
  if sum.isDouble then
    .double sum.toFloat
  else if sum.isWide then
    .int64 sum.integer
  else
    .ofInt sum.integer.toInt

end NumericSum

inductive Accumulator where
  | sum
  | avg
  | min
  | max
  | addToSet
  | push
  | first
deriving DecidableEq

def extreme? (wanted : Ordering) (values : List Value) : Option Value :=
  (values.filter (·.isDefined)).foldl
    (fun best value =>
      match best with
      | none => some value
      | some old => if value.order old == wanted then some value else some old)
    none

def distinctValues (values : List Value) : List Value :=
  values.foldl
    (fun seen value => if seen.any (·.equals value) then seen else seen ++ [value]) []

namespace Accumulator

def ofName? : String → Option Accumulator
  | "$sum" => some sum
  | "$avg" => some avg
  | "$min" => some min
  | "$max" => some max
  | "$addToSet" => some addToSet
  | "$push" => some push
  | "$first" => some first
  | _ => none

def total (values : List Value) : Accumulator → Value
  | sum => (NumericSum.ofValues values).toValue
  | avg =>
    let sum := NumericSum.ofValues values
    if sum.count = 0 then .null else .double (sum.toFloat / Double.ofInt sum.count)
  | min => (extreme? .lt values).getD .null
  | max => (extreme? .gt values).getD .null
  | addToSet => .array (distinctValues values)
  | push => .array values
  | first => values.head?.getD .null

end Accumulator

structure GroupField where
  name : String
  accumulator : Accumulator
  expr : Value

namespace GroupField

def read (name : String) (spec : Value) : Outcome GroupField :=
  match spec with
  | .document ((op, expr) :: _) =>
    match Accumulator.ofName? op with
    | some accumulator => .ok ⟨name, accumulator, expr⟩
    | none => .error (.backend (.unsupportedAccumulator op))
  | _ => .error (.backend (.groupNeedsAccumulator name))

def readAll : List (String × Value) → Outcome (List GroupField)
  | [] => .ok []
  | (name, spec) :: rest =>
    if name = "_id" then
      readAll rest
    else do
      let field ← read name spec
      return field :: (← readAll rest)

def total (field : GroupField) (members : List Document) : Value :=
  field.accumulator.total (members.map (·.evaluate field.expr))

end GroupField

structure Group where
  key : Value
  members : List Document

namespace Group

def place (key : Value) (document : Document) : List Group → List Group
  | [] => [⟨key, [document]⟩]
  | group :: rest =>
    if group.key.equals key then
      ⟨group.key, group.members ++ [document]⟩ :: rest
    else
      group :: place key document rest

def ofDocuments (keyExpr : Value) (documents : List Document) : List Group :=
  documents.foldl (fun groups document => place (document.evaluate keyExpr) document groups) []

def row (fields : List GroupField) (group : Group) : Document :=
  Fields.merge [("_id", group.key)] (fields.map fun field => (field.name, field.total group.members))

end Group

def groupDocuments (spec : Document) (documents : List Document) : Outcome (List Document) := do
  let fields ← GroupField.readAll spec
  return (Group.ofDocuments ((Fields.get? spec "_id").getD .null) documents).map (Group.row fields)

end DocQuery
