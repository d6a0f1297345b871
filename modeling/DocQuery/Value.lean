import DocQuery.Fields
import DocQuery.Word

/-!
This module contains the values a document store holds, and documents, which are fields of such values. The
types are those of BSON but for its deprecated `DbPointer`, which can be decoded from bytes but not built.
-/

namespace DocQuery

structure ObjectId where
  bits : BitVec 96
deriving DecidableEq, Inhabited

/--
A value of a document store. Documents are lists of named values, and whoever builds one keeps its names
distinct.
-/
inductive Value where
  | null
  | undefined
  | bool (b : Bool)
  | int32 (n : Int32)
  | int64 (n : Int64)
  | double (x : Float)
  | string (s : String)
  | array (items : List Value)
  | document (fields : List (String × Value))
  | dateTime (millis : Int64)
  | objectId (id : ObjectId)
  | regex (pattern options : String)
  | binary (subtype : UInt8) (bytes : List UInt8)
  | timestamp (time increment : UInt32)
  | decimal (text : String)
  | symbol (name : String)
  | code (source : String)
  | codeWithScope (source : String) (scope : List (String × Value))
  | minKey
  | maxKey
deriving Inhabited

abbrev Document : Type := Fields Value

namespace Value

def asString? : Value → Option String
  | .string s => some s
  | _ => none

def isDefined : Value → Bool
  | .null | .undefined => false
  | _ => true

def isSet : Value → Bool
  | .bool b => b
  | .int32 n => n != 0
  | .int64 n => n != 0
  | .double x => x != 0
  | .null | .undefined => false
  | _ => true

def isTruthy : Value → Bool
  | .null | .undefined | .bool false => false
  | .int32 n => n != 0
  | .int64 n => n != 0
  | .double x => x != 0 && !x.isNaN
  | .string s => s != ""
  | _ => true

def ofInt (n : Int) : Value :=
  if Word.fits32 n then .int32 (Int32.ofInt n) else .int64 (Int64.ofInt n)

def asInt? : Value → Option Int
  | .int32 n => some n.toInt
  | .int64 n => some n.toInt
  | _ => none

end Value
end DocQuery
