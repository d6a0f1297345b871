import DocQuery.Value

/-!
This module contains the equality that tells whether a write changed a document: types count, the order
of fields does not, and a double that is not a number is never the same as anything.
-/

namespace DocQuery

namespace Fields

def insertSorted {α : Type} : Fields α → String → α → Fields α
  | [], key, value => [(key, value)]
  | (name, old) :: rest, key, value =>
    if key = name then
      (key, value) :: rest
    else if key < name then
      (key, value) :: (name, old) :: rest
    else
      (name, old) :: insertSorted rest key value

end Fields

mutual

def Value.sorted : Value → Value
  | .array items => .array (Value.sortedItems items)
  -- the order of fields does not count
  | .document fields => .document (Value.sortedFields fields)
  | .codeWithScope source scope => .codeWithScope source (Value.sortedFields scope)
  | value => value

def Value.sortedItems : List Value → List Value
  | [] => []
  | item :: rest => item.sorted :: Value.sortedItems rest

def Value.sortedFields : List (String × Value) → List (String × Value)
  | [] => []
  | (name, value) :: rest => Fields.insertSorted (Value.sortedFields rest) name value.sorted

end

mutual

def Value.identical : Value → Value → Bool
  | .null, .null => true
  | .undefined, .undefined => true
  | .bool a, .bool b => a == b
  | .int32 a, .int32 b => a == b
  | .int64 a, .int64 b => a == b
  | .double a, .double b => a == b
  | .string a, .string b => a == b
  | .array a, .array b => Value.identicalItems a b
  | .document a, .document b => Value.identicalFields a b
  | .dateTime a, .dateTime b => a == b
  | .objectId a, .objectId b => a == b
  | .regex p a, .regex q b => p == q && a == b
  | .binary s a, .binary t b => s == t && a == b
  | .timestamp s a, .timestamp t b => s == t && a == b
  | .decimal a, .decimal b => a == b
  | .symbol a, .symbol b => a == b
  | .code a, .code b => a == b
  | .codeWithScope s a, .codeWithScope t b => s == t && Value.identicalFields a b
  | .minKey, .minKey => true
  | .maxKey, .maxKey => true
  | _, _ => false

def Value.identicalItems : List Value → List Value → Bool
  | [], [] => true
  | a :: as, b :: bs => a.identical b && Value.identicalItems as bs
  | _, _ => false

def Value.identicalFields : List (String × Value) → List (String × Value) → Bool
  | [], [] => true
  | (m, a) :: as, (n, b) :: bs => m == n && a.identical b && Value.identicalFields as bs
  | _, _ => false

end

def Value.same (a b : Value) : Bool := a.sorted.identical b.sorted

def Document.same (a b : Document) : Bool := Value.same (.document a) (.document b)

end DocQuery
