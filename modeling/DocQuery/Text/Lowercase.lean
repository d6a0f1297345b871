import DocQuery.Text.CaseTable

/-!
This module contains the lowercase of text in every script.
-/

namespace DocQuery
namespace Text

def isCased (c : Char) : Bool := inRanges casedRanges c.toNat

def isCaseIgnorable (c : Char) : Bool := inRanges caseIgnorableRanges c.toNat

def meetsCased (cs : List Char) : Bool :=
  match cs.dropWhile isCaseIgnorable with
  | c :: _ => isCased c
  | [] => false

def lowercaseChar (c : Char) : List Char :=
  if c = 'İ' then
    ['i', '\u0307']
  else
    match lowercaseRuns.findSome? (·.image? c.toNat) with
    | some n => [Char.ofNat n]
    | none => [c]

def lowercaseChars (before : List Char) : List Char → List Char
  | [] => []
  | c :: after =>
    let lower :=
      -- at the end of a word it takes its final form
      if c = 'Σ' then
        if meetsCased before && !meetsCased after then ['ς'] else ['σ']
      else
        lowercaseChar c
    lower ++ lowercaseChars (c :: before) after

def lowercase (s : String) : String := String.ofList (lowercaseChars [] s.toList)

end Text
end DocQuery
