import DocQuery.Sorting
import DocQuery.Text.Blank
import DocQuery.Text.Numeral
import DocQuery.Text.Hex
import DocQuery.Value.Text

/-!
This module contains the objects by which JSON writes the values it has no form for: each has one name that
starts with a dollar sign, and code with a scope has two.
-/

namespace DocQuery

def ObjectId.ofHex? (s : String) : Option ObjectId :=
  (Text.readHexDigits? 24 s.toList).map fun n => ⟨BitVec.ofNat 96 n⟩

namespace Fields

def text? (fields : Document) (name : String) : Option String :=
  (get? fields name).bind Value.asString?

end Fields

namespace Value

def readDouble? (s : String) : Option Float :=
  let (negative, name) := Text.readSign s.toList
  let infinity : Float := 1 / 0
  if Text.sameUpToCase (String.ofList name) "inf" || Text.sameUpToCase (String.ofList name) "infinity" then
    some (if negative then -infinity else infinity)
  else if Text.sameUpToCase (String.ofList name) "nan" then
    some (0 / 0)
  else
    Text.readDecimal? s

def readBinary? (fields : Document) : Option Value := do
  match fields.text? "base64" with
  | some text =>
    let bytes ← Text.readBase64? text.toList
    let subtype ← Text.readHexDigits? 2 (← fields.text? "subType").toList
    return .binary (UInt8.ofNat subtype) bytes
  | none =>
    match Fields.get? fields "bytes", Fields.get? fields "subType" with
    | some (.binary 0 bytes), some (.int32 subtype) =>
      if 0 ≤ subtype ∧ subtype ≤ 255 then
        return .binary (UInt8.ofNat subtype.toInt.toNat) bytes
      else
        none
    | _, _ => none

def readTimestamp? (fields : Document) : Option Value :=
  match Fields.get? fields "t", Fields.get? fields "i" with
  | some (.int32 t), some (.int32 i) => some (.timestamp t.toUInt32 i.toUInt32)
  | some (.int64 t), some (.int64 i) =>
    if 0 ≤ t ∧ t ≤ 4294967295 ∧ 0 ≤ i ∧ i ≤ 4294967295 then
      some (.timestamp (UInt32.ofNat t.toInt.toNat) (UInt32.ofNat i.toInt.toNat))
    else
      none
  | _, _ => none

def readRegex? (fields : Document) : Option Value := do
  let pattern ← fields.text? "pattern"
  let options ← fields.text? "options"
  if '\x00' ∈ pattern.toList ∨ '\x00' ∈ options.toList then
    none
  else
    return .regex pattern (String.ofList (sortStable (· < ·) options.toList))

def ofTag? : String → Value → Option Value
  | "$oid", .string s => .objectId <$> ObjectId.ofHex? s
  | "$symbol", .string s => some (.symbol s)
  | "$numberInt", .string s => .int32 <$> Text.readInt32? s
  | "$numberLong", .string s => .int64 <$> Text.readInt64? s
  | "$numberDouble", .string s => .double <$> readDouble? s
  | "$numberDecimal", .string s => (Text.Numeral.ofString? s).map fun n => .decimal n.text
  | "$numberDecimalBytes", .binary 0 bytes => (Text.Numeral.ofBytes? bytes).map fun n => .decimal n.text
  | "$binary", .document fields => readBinary? fields
  | "$code", .string s => some (.code s)
  | "$timestamp", .document fields => readTimestamp? fields
  | "$regularExpression", .document fields => readRegex? fields
  | "$date", .int64 millis => some (.dateTime millis)
  | "$date", .string s => (Text.readDateTime? s).map fun millis => .dateTime (Int64.ofInt millis)
  | "$minKey", .int32 n => if n = 1 then some .minKey else none
  | "$minKey", .int64 n => if n = 1 then some .minKey else none
  | "$maxKey", .int32 n => if n = 1 then some .maxKey else none
  | "$maxKey", .int64 n => if n = 1 then some .maxKey else none
  | "$undefined", .bool true => some .undefined
  | _, _ => none

def ofObject (fields : Document) : Value :=
  match fields with
  | [(tag, content)] => (ofTag? tag content).getD (.document fields)
  | [("$code", .string source), ("$scope", .document scope)] => .codeWithScope source scope
  | _ => .document fields

end Value
end DocQuery
