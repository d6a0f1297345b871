import DocQuery.Double.Parts
import DocQuery.Failure
import DocQuery.Path
import DocQuery.Word

/-!
This module contains updates of documents: `$set`, `$unset`, and the exact arithmetic of `$inc` and `$mul`.
-/

namespace DocQuery

inductive Arithmetic where
  | add
  | mul
deriving DecidableEq

namespace Arithmetic

def name : Arithmetic → String
  | add => "$inc"
  | mul => "$mul"

def onInts : Arithmetic → Int → Int → Int
  | add, a, b => a + b
  | mul, a, b => a * b

def onFloats : Arithmetic → Float → Float → Float
  | add, a, b => a + b
  | mul, a, b => a * b

def apply (arithmetic : Arithmetic) (current operand : Value) : Outcome Value :=
  let exactly (a b : Int) (make : Int → Value) : Outcome Value :=
    let result := arithmetic.onInts a b
    if Word.fits64 result then
      .ok (make result)
    else
      .error (.invalidDocument (.overflow arithmetic.name))
  let wide (n : Int) : Value := .int64 (Int64.ofInt n)
  match current, operand with
  -- two narrow integers yield the narrowest type that holds the result
  | .int32 a, .int32 b => exactly a.toInt b.toInt .ofInt
  | .int32 a, .int64 b => exactly a.toInt b.toInt wide
  | .int64 a, .int32 b => exactly a.toInt b.toInt wide
  | .int64 a, .int64 b => exactly a.toInt b.toInt wide
  | .double a, .double b => .ok (.double (arithmetic.onFloats a b))
  | .double a, .int32 b => .ok (.double (arithmetic.onFloats a (Double.ofInt b.toInt)))
  | .double a, .int64 b => .ok (.double (arithmetic.onFloats a (Double.ofInt b.toInt)))
  | .int32 a, .double b => .ok (.double (arithmetic.onFloats (Double.ofInt a.toInt) b))
  | .int64 a, .double b => .ok (.double (arithmetic.onFloats (Double.ofInt a.toInt) b))
  | _, _ => .error (.invalidDocument (.notNumbers arithmetic.name operand current))

end Arithmetic

namespace Document

def calculate (document : Document) (arithmetic : Arithmetic) (path : Path) (operand : Value) :
    Outcome Document := do
  let current := (document.lookup? path).getD (.int32 0)
  return document.set path (← arithmetic.apply current operand)

def updateField (op : String) (document : Document) (field : String) (operand : Value) :
    Outcome Document :=
  if field = "_id" then
    .error (.invalidDocument .immutableId)
  else
    match op with
    | "$set" => .ok (document.set (.ofString field) operand)
    | "$unset" => .ok (document.unset (.ofString field))
    | "$inc" => document.calculate .add (.ofString field) operand
    | "$mul" => document.calculate .mul (.ofString field) operand
    | _ => .error (.invalidDocument (.unsupportedUpdate op))

def updateFields (op : String) (document : Document) : List (String × Value) → Outcome Document
  | [] => .ok document
  | (field, operand) :: rest => do
    updateFields op (← updateField op document field operand) rest

def update (document : Document) : List (String × Value) → Outcome Document
  | [] => .ok document
  | (op, .document fields) :: rest => do
    update (← updateFields op document fields) rest
  | (op, _) :: _ => .error (.invalidDocument (.updateNeedsFields op))

end Document
end DocQuery
