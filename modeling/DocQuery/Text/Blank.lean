import DocQuery.Text.Run

/-!
This module contains the white space of Unicode, trimming, and the cutting of text at separators.
-/

namespace DocQuery
namespace Text

def blankRanges : List (Nat × Nat) := [
  (0x9, 0xD), (0x20, 0x20), (0x85, 0x85), (0xA0, 0xA0), (0x1680, 0x1680), (0x2000, 0x200A),
  (0x2028, 0x2029), (0x202F, 0x202F), (0x205F, 0x205F), (0x3000, 0x3000)]

def isBlank (c : Char) : Bool := inRanges blankRanges c.toNat

def trimChars (cs : List Char) : List Char :=
  ((cs.dropWhile isBlank).reverse.dropWhile isBlank).reverse

def trim (s : String) : String := String.ofList (trimChars s.toList)

def cut (isSeparator : Char → Bool) : List Char → List Char × List (List Char)
  | [] => ([], [])
  | c :: cs =>
    let (piece, pieces) := cut isSeparator cs
    if isSeparator c then ([], piece :: pieces) else (c :: piece, pieces)

def split (isSeparator : Char → Bool) (s : String) : List String :=
  let (piece, pieces) := cut isSeparator s.toList
  (piece :: pieces).map String.ofList

def isComma (c : Char) : Bool := c == ',' || c == '，'

def entries (s : String) : List String :=
  ((split isComma s).map trim).filter (· ≠ "")

def sameUpToCase (s t : String) : Bool :=
  s.toList.map Char.toLower == t.toList.map Char.toLower

end Text
end DocQuery
