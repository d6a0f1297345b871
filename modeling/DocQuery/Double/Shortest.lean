import DocQuery.Double.Parts

/-!
This module contains the shortest decimal text of a double: the fewest digits that read back as the
same value, the nearest of those to it, written without an exponent.
-/

namespace DocQuery
namespace Double

structure Decimal where
  digits : Nat
  scale : Int
deriving DecidableEq

/--
The reals that round to a given double, as quarters of a unit in its last place: `middle` is the double
itself, and the ends belong to it when `closed` is set.
-/
structure Interval where
  lower : Nat
  middle : Nat
  upper : Nat
  exponent : Int
  closed : Bool

namespace Interval

def ofParts (parts : Parts) : Interval where
  lower :=
    4 * parts.mantissa - (if parts.mantissa = Parts.hiddenBit ∧ parts.exponent ≠ -1074 then 1 else 2)
  middle := 4 * parts.mantissa
  upper := 4 * parts.mantissa + 2
  exponent := parts.exponent - 2
  closed := parts.mantissa % 2 = 0

/--
A decimal grid is laid over the interval: with `(n, d) = grid interval scale`, the grid point `k` has
the place `k * d / n` in the units of the interval.
-/
def grid (interval : Interval) (scale : Int) : Nat × Nat :=
  (Nat.pow 10 (-scale).toNat <<< interval.exponent.toNat,
    Nat.pow 10 scale.toNat <<< (-interval.exponent).toNat)

def holds (interval : Interval) (scale : Int) (k : Nat) : Bool :=
  let (n, d) := interval.grid scale
  if interval.closed then
    interval.lower * n ≤ k * d && k * d ≤ interval.upper * n
  else
    interval.lower * n < k * d && k * d < interval.upper * n

def nearest? (interval : Interval) (scale : Int) : Option Nat :=
  let (n, d) := interval.grid scale
  let below := interval.middle * n / d
  let above := below + 1
  match interval.holds scale below, interval.holds scale above with
  | true, true => some (if 2 * (interval.middle * n) < (below + above) * d then below else above)
  | true, false => some below
  | false, true => some above
  | false, false => none

end Interval

def coarsest (interval : Interval) : Nat → Int → Decimal
  | 0, scale => ⟨(interval.nearest? scale).getD 0, scale⟩
  | fuel + 1, scale =>
    match interval.nearest? scale with
    | some digits => ⟨digits, scale⟩
    | none => coarsest interval fuel (scale - 1)

def shortest (parts : Parts) : Decimal :=
  let bits := (parts.mantissa.log2 + 1 : Int) + parts.exponent
  coarsest (.ofParts parts) 20 (bits * 30103 / 100000 + 1)

namespace Decimal

def text (decimal : Decimal) : String :=
  let digits := Nat.toDigits 10 decimal.digits
  if 0 ≤ decimal.scale then
    String.ofList (digits ++ List.replicate decimal.scale.toNat '0')
  else
    let places := (-decimal.scale).toNat
    let padded := List.replicate (places + 1 - digits.length) '0' ++ digits
    let whole := padded.length - places
    String.ofList (padded.take whole ++ '.' :: padded.drop whole)

end Decimal

def text (x : Float) : String :=
  if x.isNaN then
    "NaN"
  else
    let parts := Parts.ofFloat x
    let sign := if parts.negative then "-" else ""
    if x.isInf then
      sign ++ "inf"
    else if parts.mantissa = 0 then
      sign ++ "0"
    else
      sign ++ (shortest parts).text

def wholeText (x : Float) : String :=
  let parts := Parts.ofFloat x
  (if parts.negative then "-" else "") ++ String.ofList (Nat.toDigits 10 parts.floor)

end Double
end DocQuery
