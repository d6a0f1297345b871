import DocQuery.Filter.Operator
import DocQuery.Value.Text

/-!
This module contains filter trees, how they are built step by step, and how they are read from values.
-/

namespace DocQuery

inductive Condition where
  | equals (value : Value)
  | between (low high : Value)
  | all (pairs : List (Operator × Value))

inductive Filter where
  | fields (conditions : List (String × Condition))
  | logical (conjunct : Option Filter) (alternatives : Option (List Filter))
  | any (members : List Filter)

namespace Condition

def op (operator : Operator) (value : Value) : Condition := .all [(operator, value)]

def readOperator : List Value → Operator
  | [] => .unknown ""
  | .string token :: _ => .parse token
  | other :: _ => .unknown other.text

def itemAt (items : List Value) (i : Nat) : Value := items[i]?.getD .null

def readPair : Value → Operator × Value
  | .array items => (readOperator items, itemAt items 1)
  -- what is no list is an operator that nobody knows
  | other => (.unknown other.text, .null)

def ofValue : Value → Condition
  | .array [] => .all []
  | .array (.array pair :: rest) => .all ((.array pair :: rest).map readPair)
  | .array (.string token :: rest) =>
    if Text.sameUpToCase (Text.trim token) "between" then
      .between (itemAt rest 0) (itemAt rest 1)
    else
      .all [readPair (.array (.string token :: rest))]
  | .array items => .all [readPair (.array items)]
  | literal => .equals literal

end Condition

namespace Filter

def empty : Filter := .fields []

instance : Inhabited Filter := ⟨empty⟩

def conj (filter : Filter) : Filter := .logical (some filter) none

def disj (filters : List Filter) : Filter := .logical none (some filters)

def orElse (filters : List Filter) : Filter → Filter
  | .logical conjunct _ => .logical conjunct (some filters)
  | _ => .logical none (some filters)

def withCondition (field : String) (condition : Condition) : Filter → Filter
  | .fields conditions => .fields (Fields.insert conditions field condition)
  | filter => filter

def withPair (field : String) (operator : Operator) (value : Value) : Filter → Filter
  | .fields conditions =>
    let condition :=
      match Fields.get? conditions field with
      | some (.all pairs) => .all (pairs ++ [(operator, value)])
      -- a literal or a range gives way to the pair
      | _ => .all [(operator, value)]
    .fields (Fields.insert conditions field condition)
  | filter => filter

def withEquals (field : String) (value : Value) : Filter → Filter :=
  withCondition field (.equals value)

def withBetween (field : String) (low high : Value) : Filter → Filter :=
  withCondition field (.between low high)

def isEmpty : Filter → Bool
  | .fields conditions => conditions.isEmpty
  | .logical conjunct alternatives => conjunct.isNone && alternatives.isNone
  | .any members => members.isEmpty

mutual

/--
Read a filter. A document with a value under `and` or `or` is logical and its other fields do not count; any
other document holds conditions. A list is a list of filters, and any other value asks for nothing.
-/
def ofValue : Value → Filter
  | .document entries =>
    match readConjunct entries, readAlternatives entries with
    | none, none => .fields (entries.map fun entry => (entry.1, .ofValue entry.2))
    | conjunct, alternatives => .logical conjunct alternatives
  | .array items => .any (ofValues items)
  | _ => empty

def ofValues : List Value → List Filter
  | [] => []
  | item :: rest => ofValue item :: ofValues rest

def readConjunct : List (String × Value) → Option Filter
  | [] => none
  | (name, value) :: rest =>
    if name = "and" then
      if value.isDefined then some (ofValue value) else none
    else
      readConjunct rest

def readAlternatives : List (String × Value) → Option (List Filter)
  | [] => none
  | (name, .array items) :: rest => if name = "or" then some (ofValues items) else readAlternatives rest
  | (name, value) :: rest =>
    if name = "or" then
      if value.isDefined then some [ofValue value] else none
    else
      readAlternatives rest

end

def ofDocument (document : Document) : Filter := ofValue (.document document)

end Filter

inductive Selector where
  | byId (id : Value)
  | matching (filter : Filter)

namespace Selector

def all : Selector := .matching .empty

instance : Inhabited Selector := ⟨all⟩

def ofValue (value : Value) : Selector :=
  match value with
  | .string _ | .int32 _ | .int64 _ | .double _ | .objectId _ => .byId value
  | value => .matching (.ofValue value)

end Selector
end DocQuery
