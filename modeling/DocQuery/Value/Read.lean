import DocQuery.Failure
import DocQuery.Double.Parts
import DocQuery.Page

/-!
This module contains the reading of values into types, and of the rows of a page into records.
-/

namespace DocQuery

class OfValue (α : Type) where
  ofValue : Value → Outcome α

export OfValue (ofValue)

def Failure.unfit (wanted : String) (got : Value) : Failure :=
  .serialization ("expected " ++ wanted ++ ", got " ++ got.text)

instance : OfValue Int32 where
  ofValue value :=
    match value.asInt? with
    | some n =>
      if Word.fits32 n then .ok (Int32.ofInt n) else .error (.unfit "a 32-bit integer" value)
    | none => .error (.unfit "a 32-bit integer" value)

instance : OfValue Float where
  ofValue
    | .double x => .ok x
    | .int32 n => .ok (Double.ofInt n.toInt)
    | .int64 n => .ok (Double.ofInt n.toInt)
    | value => .error (.unfit "a number" value)

instance : OfValue String where
  ofValue
    | .string s => .ok s
    | .binary 0 bytes =>
      match String.fromUTF8? ⟨bytes.toArray⟩ with
      | some s => .ok s
      | none => .error (.unfit "a string" (.binary 0 bytes))
    | value => .error (.unfit "a string" value)

instance {α : Type} [OfValue α] : OfValue (List α) where
  ofValue
    | .array items => items.mapM ofValue
    | value => .error (.unfit "an array" value)

instance {α : Type} [OfValue α] : OfValue (Option α) where
  ofValue
    | .null => .ok none
    | value => some <$> ofValue value

namespace Document

variable {α : Type} [OfValue α]

def read (document : Document) (field : String) : Outcome α :=
  match Fields.get? document field with
  | some value => ofValue value
  | none => .error (.serialization ("missing field " ++ field))

def readOr (document : Document) (field : String) (default : α) : Outcome α :=
  match Fields.get? document field with
  | some value => ofValue value
  | none => .ok default

end Document

def Page.typed {α : Type} [OfValue α] (page : Page Document) : Outcome (Page α) := do
  let items ← page.items.mapM fun row => ofValue (.document row)
  return { page with items }

end DocQuery
