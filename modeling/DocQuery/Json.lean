import DocQuery.Fields
import DocQuery.Word

/-!
This module contains JSON values, and the reading and writing of records in them.
-/

namespace DocQuery

inductive Json where
  | null
  | bool (b : Bool)
  | integer (n : Int)
  | float (x : Float)
  | string (s : String)
  | array (items : List Json)
  | object (fields : List (String × Json))
deriving Inhabited

class OfJson (α : Type) where
  ofJson? : Json → Option α

class ToJson (α : Type) where
  toJson : α → Json

export OfJson (ofJson?)
export ToJson (toJson)

instance : OfJson Bool where
  ofJson?
    | .bool b => some b
    | _ => none

instance : ToJson Bool where
  toJson := .bool

instance : OfJson UInt64 where
  ofJson?
    | .integer n => if 0 ≤ n ∧ n ≤ Word.limit then some (UInt64.ofNat n.toNat) else none
    | _ => none

instance : ToJson UInt64 where
  toJson n := .integer n.toNat

instance : OfJson Int32 where
  ofJson?
    | .integer n => if Word.fits32 n then some (Int32.ofInt n) else none
    | _ => none

instance : ToJson Int32 where
  toJson n := .integer n.toInt

instance : OfJson String where
  ofJson?
    | .string s => some s
    | _ => none

instance : ToJson String where
  toJson := .string

instance {α : Type} [OfJson α] : OfJson (List α) where
  ofJson?
    | .array items => items.mapM ofJson?
    | _ => none

instance {α : Type} [ToJson α] : ToJson (List α) where
  toJson items := .array (items.map toJson)

instance {α : Type} [OfJson α] : OfJson (Option α) where
  ofJson?
    | .null => some none
    | json => (ofJson? json).map some

namespace Json

/--
The entries of a record with the given names: those of an object, or the elements of an array in the order
of the names. An array may end early, but it may not hold more.
-/
def record? (names : List String) : Json → Option (Fields Json)
  | .object fields => some fields
  | .array items => if items.length ≤ names.length then some (names.zip items) else none
  | _ => none

variable {α : Type} [OfJson α]

def required? (entries : Fields Json) (name : String) : Option α :=
  (Fields.get? entries name).bind ofJson?

def optional? (entries : Fields Json) (name : String) (default : α) : Option α :=
  match Fields.get? entries name with
  | some json => ofJson? json
  | none => some default

end Json
end DocQuery
