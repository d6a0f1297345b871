import DocQuery.Double.Parts
import DocQuery.Word

/-!
This module contains the reading and writing of numbers: integers of a given range, array indexes,
decimal numerals, and digits in other bases.
-/

namespace DocQuery
namespace Text

def isDigit (c : Char) : Bool := '0' ≤ c && c ≤ '9'

def digitValue (c : Char) : Nat := c.toNat - '0'.toNat

def digitsValue (cs : List Char) : Nat :=
  cs.foldl (fun n c => 10 * n + digitValue c) 0

def readDigits? (cs : List Char) : Option Nat :=
  if cs ≠ [] ∧ cs.all isDigit then some (digitsValue cs) else none

def readSign : List Char → Bool × List Char
  | '-' :: cs => (true, cs)
  | '+' :: cs => (false, cs)
  | cs => (false, cs)

def readInt? (s : String) : Option Int :=
  let (negative, digits) := readSign s.toList
  (readDigits? digits).map fun n => if negative then -(n : Int) else n

def readInt64? (s : String) : Option Int64 :=
  match readInt? s with
  | some n => if Word.fits64 n then some (Int64.ofInt n) else none
  | none => none

def readInt32? (s : String) : Option Int32 :=
  match readInt? s with
  | some n => if Word.fits32 n then some (Int32.ofInt n) else none
  | none => none

def readUnsigned? : List Char → Option Nat
  | '+' :: cs => readDigits? cs
  | cs => readDigits? cs

def readIndex? (s : String) : Option Nat :=
  match readUnsigned? s.toList with
  | some n => if n ≤ Word.limit then some n else none
  | none => none

def readExponent? : List Char → Option Int
  | [] => some 0
  | c :: cs =>
    if c = 'e' ∨ c = 'E' then
      let (negative, digits) := readSign cs
      (readDigits? digits).map fun n => if negative then -(n : Int) else n
    else
      none

def readFraction : List Char → List Char × List Char
  | '.' :: cs => (cs.takeWhile isDigit, cs.dropWhile isDigit)
  | cs => ([], cs)

def readDecimal? (s : String) : Option Float :=
  let (negative, cs) := readSign s.toList
  let whole := cs.takeWhile isDigit
  let (fraction, tail) := readFraction (cs.dropWhile isDigit)
  if whole ++ fraction = [] then
    none
  else
    (readExponent? tail).map fun exponent =>
      let scale : Int := exponent - fraction.length
      let magnitude := Float.ofScientific (digitsValue (whole ++ fraction)) (scale < 0) scale.natAbs
      if negative then -magnitude else magnitude

def ofInt (n : Int) : String :=
  let digits := Nat.toDigits 10 n.natAbs
  String.ofList (if n < 0 then '-' :: digits else digits)

def ofNat (n : Nat) : String := String.ofList (Nat.toDigits 10 n)

def padded (base width n : Nat) : List Char :=
  let digits := Nat.toDigits base n
  List.replicate (width - digits.length) '0' ++ digits

end Text
end DocQuery
