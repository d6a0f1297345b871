import DocQuery.Value.Same
import DocQuery.Value.Text

/-!
This module contains the rules by which a store compares values: their equality, the partial order that
predicates use, and the order used for sorting and extrema.
-/

namespace DocQuery

/--
A value as comparison sees it: absent values are one, all numbers are doubles, the fields of a document
are sorted by name, and the remaining types are known by their text.
-/
inductive Collated where
  | null
  | number (x : Float)
  | string (s : String)
  | map (fields : List (String × Collated))
  | array (items : List Collated)
  | objectId (id : ObjectId)
  | bool (b : Bool)
  | dateTime (millis : Int64)
  | other (text : String)
deriving Inhabited

mutual

def Value.collate : Value → Collated
  | .null => .null
  | .undefined => .null
  | .bool b => .bool b
  | .int32 n => .number (Double.ofInt n.toInt)
  | .int64 n => .number (Double.ofInt n.toInt)
  | .double x => .number x
  | .string s => .string s
  | .array items => .array (Value.collateItems items)
  | .document fields => .map (Value.collateFields fields)
  | .dateTime millis => .dateTime millis
  | .objectId id => .objectId id
  | value => .other value.text

def Value.collateItems : List Value → List Collated
  | [] => []
  | item :: rest => item.collate :: Value.collateItems rest

def Value.collateFields : List (String × Value) → List (String × Collated)
  | [] => []
  | (name, value) :: rest => Fields.insertSorted (Value.collateFields rest) name value.collate

end

namespace Collated

mutual

def same : Collated → Collated → Bool
  | .null, .null => true
  | .number x, .number y => x == y
  | .string s, .string t => s == t
  | .map a, .map b => sameFields a b
  | .array a, .array b => sameItems a b
  | .objectId a, .objectId b => a == b
  | .bool a, .bool b => a == b
  | .dateTime a, .dateTime b => a == b
  | .other a, .other b => a == b
  | _, _ => false

def sameItems : List Collated → List Collated → Bool
  | [], [] => true
  | a :: as, b :: bs => a.same b && sameItems as bs
  | _, _ => false

def sameFields : List (String × Collated) → List (String × Collated) → Bool
  | [], [] => true
  | (m, a) :: as, (n, b) :: bs => m == n && a.same b && sameFields as bs
  | _, _ => false

end

def rank : Collated → Nat
  | .null => 1
  | .number _ => 2
  | .string _ => 3
  | .map _ => 4
  | .array _ => 5
  | .objectId _ => 7
  | .bool _ => 8
  | .dateTime _ => 9
  | .other _ => 10

def compare? : Collated → Collated → Option Ordering
  | .null, .null => some .eq
  | .number x, .number y => Double.compare? x y
  | .string s, .string t => some (compare s t)
  | .map a, .map b => if sameFields a b then some .eq else none
  | .objectId a, .objectId b => some (compare a.bits.toNat b.bits.toNat)
  | .bool a, .bool b => some (compare a b)
  | .dateTime a, .dateTime b => some (compare a.toInt b.toInt)
  | _, _ => none

mutual

def order : Collated → Collated → Ordering
  | .array a, .array b => orderItems a b
  | .other a, .other b => compare a b
  | a, b => (a.compare? b).getD (compare a.rank b.rank)

def orderItems : List Collated → List Collated → Ordering
  | [], [] => .eq
  | [], _ :: _ => .lt
  | _ :: _, [] => .gt
  | a :: as, b :: bs => (a.order b).then (orderItems as bs)

end

end Collated

namespace Value

def equals (a b : Value) : Bool := a.collate.same b.collate

def order (a b : Value) : Ordering := a.collate.order b.collate

def meets (value literal : Value) : Bool :=
  value.equals literal ||
    match value with
    | .array items => items.any (·.equals literal)
    | _ => false

def compares (accept : Ordering → Bool) (value operand : Value) : Bool :=
  let accepts (candidate : Value) := (candidate.collate.compare? operand.collate).any accept
  accepts value ||
    match value with
    | .array items => items.any accepts
    | _ => false

end Value

def meetsLiteral (value? : Option Value) (literal : Value) : Bool :=
  match value? with
  | none => literal.collate.same .null
  | some value => value.meets literal

end DocQuery
