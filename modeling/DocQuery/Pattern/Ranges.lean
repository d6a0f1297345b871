import DocQuery.Pattern.Class

/-!
This module contains the ranges of code points that a set of characters consists of, in order and with gaps
between them.
-/

namespace DocQuery
namespace Pattern

def maxCodePoint : Nat := 0x10FFFF

def joinRanges : List (Nat × Nat) → List (Nat × Nat)
  | [] => []
  | range :: rest => go range rest
where
  go (range : Nat × Nat) : List (Nat × Nat) → List (Nat × Nat)
    | [] => [range]
    | next :: rest =>
      if next.1 ≤ range.2 + 1 then go (range.1, max range.2 next.2) rest else range :: go next rest

def orderRanges (ranges : List (Nat × Nat)) : List (Nat × Nat) :=
  joinRanges (ranges.mergeSort fun a b => a.1 ≤ b.1)

def gaps (start : Nat) : List (Nat × Nat) → List (Nat × Nat)
  | [] => if start ≤ maxCodePoint then [(start, maxCodePoint)] else []
  | range :: rest =>
    if start < range.1 then (start, range.1 - 1) :: gaps (range.2 + 1) rest else gaps (range.2 + 1) rest

def withCaseVariants (ranges : List (Nat × Nat)) : List (Nat × Nat) :=
  let folded := ranges ++ ranges.flatMap fun range => foldRuns.flatMap (·.images range)
  folded ++ folded.flatMap fun range => foldRuns.flatMap (·.inverse.images range)

def CharSet.ranges : CharSet → List (Nat × Nat)
  | .empty => []
  | .range first last => if first ≤ last then [(first.toNat, last.toNat)] else []
  | .digit => orderRanges digitRanges
  | .word => orderRanges wordRanges
  | .blank => orderRanges Text.blankRanges
  | .union a b => orderRanges (a.ranges ++ b.ranges)
  | .inter a b => gaps 0 (orderRanges (gaps 0 a.ranges ++ gaps 0 b.ranges))
  | .compl a => gaps 0 a.ranges
  | .anyCase a => orderRanges (withCaseVariants a.ranges)

end Pattern
end DocQuery
