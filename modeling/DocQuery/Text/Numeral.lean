import DocQuery.Text.Blank
import DocQuery.Text.Number

/-!
This module contains decimal floating-point numbers of up to 34 digits, which keep the zeros at their end,
the one text that each of them has, and the reading of them from a text and from a word of 128 bits.
-/

namespace DocQuery
namespace Text

inductive Numeral where
  | nan
  | infinity (negative : Bool)
  | finite (negative : Bool) (coefficient : Nat) (exponent : Int)
deriving DecidableEq

namespace Numeral

def maxDigits : Nat := 34

def minExponent : Int := -6176

def maxExponent : Int := 6111

def trimZeros (digits : List Char) : List Char :=
  match digits.dropWhile (· == '0') with
  | [] => ['0']
  | rest => rest

def dropZeros? (count : Nat) (digits : List Char) : Option (List Char) :=
  let kept := digits.length - count
  if count ≤ digits.length ∧ (digits.drop kept).all (· == '0') then some (digits.take kept) else none

def fit? (digits : List Char) (exponent : Int) : Option (List Char × Int) :=
  if digits = ['0'] then
    some (digits, max minExponent (min exponent maxExponent))
  else do
    -- zeros come off the end or are added there, and what would have to be rounded has no form
    let excess := max (digits.length - maxDigits) (minExponent - exponent).toNat
    let digits ← dropZeros? excess digits
    let exponent := exponent + excess
    let missing := (exponent - maxExponent).toNat
    if missing = 0 then
      some (digits, exponent)
    else if digits.length + missing ≤ maxDigits then
      some (digits ++ List.replicate missing '0', exponent - missing)
    else
      none

def readFinite? (negative : Bool) (cs : List Char) : Option Numeral := do
  let isMark (c : Char) : Bool := c == 'e' || c == 'E'
  let body := cs.takeWhile fun c => !isMark c
  let exponent ← readExponent? (cs.dropWhile fun c => !isMark c)
  let whole := body.takeWhile (· != '.')
  let fraction := (body.dropWhile (· != '.')).drop 1
  let scale := exponent - fraction.length
  if Word.fits128 exponent ∧ Word.fits128 scale then
    let (digits, exponent) ← fit? (trimZeros (whole ++ fraction)) scale
    let coefficient ← readUnsigned? digits
    return .finite negative coefficient exponent
  else
    none

def ofString? (s : String) : Option Numeral :=
  let (negative, cs) := readSign s.toList
  let isNamed (name : String) : Bool := sameUpToCase (String.ofList cs) name
  if isNamed "nan" || isNamed "snan" then
    some .nan
  else if isNamed "infinity" || isNamed "inf" then
    some (.infinity negative)
  else
    readFinite? negative cs

/--
The number that a word stands for. Its bits are a sign, an exponent counted from the smallest one, and a
coefficient; with two ones in front, the exponent follows these. A coefficient of too many digits is zero.
-/
def ofBits (bits : BitVec 128) : Numeral :=
  let negative := bits.msb
  let exponentAt (start : Nat) : Int := minExponent + (bits.extractLsb' start 14).toNat
  if bits.extractLsb' 123 4 = 15#4 then
    if bits.getLsbD 122 then .nan else .infinity negative
  else if bits.extractLsb' 125 2 = 3#2 then
    .finite negative 0 (exponentAt 111)
  else
    let coefficient := (bits.extractLsb' 0 113).toNat
    let digits := Nat.toDigits 10 coefficient
    .finite negative (if digits.length ≤ maxDigits then coefficient else 0) (exponentAt 113)

def ofBytes? (bytes : List UInt8) : Option Numeral :=
  if bytes.length = 16 then
    some (ofBits (BitVec.ofNat 128 (bytes.foldr (fun byte n => byte.toNat + n <<< 8) 0)))
  else
    none

def digits (coefficient : Nat) (exponent : Int) : List Char :=
  let cs := Nat.toDigits 10 coefficient
  let scientific := exponent + cs.length - 1
  if exponent = 0 then
    cs
  else if exponent < 0 ∧ -6 ≤ scientific then
    let padded := padded 10 (exponent.natAbs + 1) coefficient
    let places := padded.length - exponent.natAbs
    padded.take places ++ '.' :: padded.drop places
  else
    let mantissa :=
      match cs with
      | c :: rest => if rest = [] then [c] else c :: '.' :: rest
      | [] => []
    let sign := if 0 < scientific then ['+'] else []
    mantissa ++ 'E' :: sign ++ (ofInt scientific).toList

def text : Numeral → String
  | .nan => "NaN"
  | .infinity negative => if negative then "-Infinity" else "Infinity"
  | .finite negative coefficient exponent =>
    let digits := digits coefficient exponent
    String.ofList (if negative then '-' :: digits else digits)

end Numeral
end Text
end DocQuery
