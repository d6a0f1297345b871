import DocQuery.Failure
import DocQuery.Filter.Basic
import DocQuery.Json
import DocQuery.Json.Tagged
import DocQuery.Value.Same

/-!
This module contains the values that JSON stands for, and the filters that are read from it.
-/

namespace DocQuery

mutual

def Value.ofJson : Json → Outcome Value
  | .null => .ok .null
  | .bool b => .ok (.bool b)
  | .integer n =>
    if Word.fits64 n then
      .ok (.int64 (Int64.ofInt n))
    else
      .error (.serialization ("integer out of range: " ++ Text.ofInt n))
  | .float x => .ok (.double x)
  | .string s => .ok (.string s)
  | .array items => return .array (← Value.ofJsonItems items)
  | .object fields => return .ofObject (← Value.ofJsonFields fields)

def Value.ofJsonItems : List Json → Outcome (List Value)
  | [] => .ok []
  | item :: rest => return (← Value.ofJson item) :: (← Value.ofJsonItems rest)

def Value.ofJsonFields : List (String × Json) → Outcome (List (String × Value))
  | [] => .ok []
  | (name, json) :: rest => do
    let value ← Value.ofJson json
    return Fields.insertSorted (← Value.ofJsonFields rest) name value

end

def Filter.ofJson (json : Json) : Outcome Filter := .ofValue <$> Value.ofJson json

end DocQuery
