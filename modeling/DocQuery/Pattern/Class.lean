import DocQuery.Text.Blank
import DocQuery.Pattern.WordTable
import DocQuery.Pattern.FoldTable

/-!
This module contains the sets of characters that a pattern can ask for.
-/

namespace DocQuery
namespace Pattern

def isDigit (c : Char) : Bool := Text.inRanges digitRanges c.toNat

def isWord (c : Char) : Bool := Text.inRanges wordRanges c.toNat

def foldCase (c : Char) : Char :=
  match foldRuns.findSome? (·.image? c.toNat) with
  | some n => Char.ofNat n
  | none => c

def caseVariants (c : Char) : List Char :=
  let folded := foldCase c
  folded :: foldRuns.filterMap fun run => (run.source? folded.toNat).map Char.ofNat

inductive CharSet where
  | empty
  | range (first last : Char)
  | digit
  | word
  | blank
  | union (a b : CharSet)
  | inter (a b : CharSet)
  | compl (a : CharSet)
  | anyCase (a : CharSet)

namespace CharSet

def holds : CharSet → Char → Bool
  | .empty, _ => false
  | .range first last, c => first ≤ c && c ≤ last
  | .digit, c => isDigit c
  | .word, c => isWord c
  | .blank, c => Text.isBlank c
  | .union a b, c => a.holds c || b.holds c
  | .inter a b, c => a.holds c && b.holds c
  | .compl a, c => !a.holds c
  | .anyCase a, c => (caseVariants c).any a.holds

def singleton (c : Char) : CharSet := .range c c

def ofRanges (ranges : List (Char × Char)) : CharSet :=
  ranges.foldl (fun set r => .union set (.range r.1 r.2)) .empty

def negatedIf (negated : Bool) (a : CharSet) : CharSet := if negated then .compl a else a

def anyCaseIf (ignoreCase : Bool) (a : CharSet) : CharSet := if ignoreCase then .anyCase a else a

def named? : String → Option CharSet
  | "alnum" => some (ofRanges [('0', '9'), ('A', 'Z'), ('a', 'z')])
  | "alpha" => some (ofRanges [('A', 'Z'), ('a', 'z')])
  | "ascii" => some (ofRanges [('\x00', '\x7f')])
  | "blank" => some (ofRanges [('\t', '\t'), (' ', ' ')])
  | "cntrl" => some (ofRanges [('\x00', '\x1f'), ('\x7f', '\x7f')])
  | "digit" => some (ofRanges [('0', '9')])
  | "graph" => some (ofRanges [('!', '~')])
  | "lower" => some (ofRanges [('a', 'z')])
  | "print" => some (ofRanges [(' ', '~')])
  | "punct" => some (ofRanges [('!', '/'), (':', '@'), ('[', '\x60'), ('\x7b', '~')])
  | "space" => some (ofRanges [('\t', '\r'), (' ', ' ')])
  | "upper" => some (ofRanges [('A', 'Z')])
  | "word" => some (ofRanges [('0', '9'), ('A', 'Z'), ('_', '_'), ('a', 'z')])
  | "xdigit" => some (ofRanges [('0', '9'), ('A', 'F'), ('a', 'f')])
  | _ => none

end CharSet
end Pattern
end DocQuery
