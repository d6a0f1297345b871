/-!
This module contains runs of code points that are all moved by one distance, the form in which the case
tables are written.
-/

namespace DocQuery
namespace Text

structure Run where
  first : Nat
  last : Nat
  step : Nat
  shift : Int

namespace Run

def holds (run : Run) (n : Nat) : Bool :=
  run.first ≤ n && n ≤ run.last && (n - run.first) % run.step == 0

def image? (run : Run) (n : Nat) : Option Nat :=
  if run.holds n then some (n + run.shift).toNat else none

def source? (run : Run) (n : Nat) : Option Nat :=
  let m := (n - run.shift).toNat
  if run.holds m then some m else none

def inverse (run : Run) : Run where
  first := (run.first + run.shift).toNat
  last := (run.last + run.shift).toNat
  step := run.step
  shift := -run.shift

def images (run : Run) (range : Nat × Nat) : List (Nat × Nat) :=
  let skipped := (range.1 - run.first + run.step - 1) / run.step
  let low := run.first + skipped * run.step
  let high := min range.2 run.last
  let move (n : Nat) : Nat := (n + run.shift).toNat
  if high < low then
    []
  else if run.step = 1 then
    [(move low, move high)]
  else
    (List.range ((high - low) / run.step + 1)).map fun i =>
      (move (low + i * run.step), move (low + i * run.step))

end Run

def inRanges (ranges : List (Nat × Nat)) (n : Nat) : Bool :=
  ranges.any fun range => range.1 ≤ n && n ≤ range.2

end Text
end DocQuery
