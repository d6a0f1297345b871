import DocQuery.Value
import DocQuery.Double.Shortest
import DocQuery.Text.Base64
import DocQuery.Text.Date

/-!
This module contains the text of values, as messages, patterns and group names show them.
-/

namespace DocQuery

namespace ObjectId

def hex (id : ObjectId) : String := String.ofList (Text.padded 16 24 id.bits.toNat)

end ObjectId

def quoted (s : String) : String := "\"" ++ s ++ "\""

mutual

def Value.text : Value → String
  | .null => "null"
  | .undefined => "undefined"
  | .bool b => if b then "true" else "false"
  | .int32 n => Text.ofInt n.toInt
  | .int64 n => Text.ofInt n.toInt
  | .double x => Double.text x
  | .string s => quoted s
  | .array items => "[" ++ ", ".intercalate (Value.itemTexts items) ++ "]"
  | .document [] => "\x7b\x7d"
  | .document fields => "\x7b " ++ ", ".intercalate (Value.fieldTexts fields) ++ " \x7d"
  | .dateTime millis => "DateTime(" ++ quoted (Text.dateTime millis.toInt) ++ ")"
  | .objectId id => "ObjectId(" ++ quoted id.hex ++ ")"
  | .regex pattern options => "/" ++ pattern ++ "/" ++ options
  | .binary subtype bytes =>
    "Binary(0x" ++ String.ofList (Text.padded 16 1 subtype.toNat) ++ ", " ++ Text.base64 bytes ++ ")"
  | .timestamp time increment =>
    "Timestamp(" ++ Text.ofNat time.toNat ++ ", " ++ Text.ofNat increment.toNat ++ ")"
  | .decimal text => text
  | .symbol name => "Symbol(" ++ quoted name ++ ")"
  | .code source => source
  | .codeWithScope source _ => source
  | .minKey => "MinKey"
  | .maxKey => "MaxKey"

def Value.itemTexts : List Value → List String
  | [] => []
  | item :: rest => item.text :: Value.itemTexts rest

def Value.fieldTexts : List (String × Value) → List String
  | [] => []
  | (name, value) :: rest => (quoted name ++ ": " ++ value.text) :: Value.fieldTexts rest

end

end DocQuery
