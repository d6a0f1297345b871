import DocQuery.Text.Number

/-!
This module contains the reading of hexadecimal digits, of either case.
-/

namespace DocQuery
namespace Text

def isHexDigit (c : Char) : Bool :=
  isDigit c || ('a' ≤ c && c ≤ 'f') || ('A' ≤ c && c ≤ 'F')

def hexDigitValue (c : Char) : Nat :=
  if isDigit c then digitValue c else (c.toNat - 55) % 32

def hexValue (cs : List Char) : Nat :=
  cs.foldl (fun n c => 16 * n + hexDigitValue c) 0

def readHexDigits? (count : Nat) (cs : List Char) : Option Nat :=
  if cs.length = count ∧ cs.all isHexDigit then some (hexValue cs) else none

end Text
end DocQuery
