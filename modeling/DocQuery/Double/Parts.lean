/-!
This module contains the exact value of a finite double: a sign, a natural mantissa and a power of two.
-/

namespace DocQuery
namespace Double

structure Parts where
  negative : Bool
  mantissa : Nat
  exponent : Int
deriving DecidableEq

namespace Parts

def hiddenBit : Nat := 4503599627370496

def fraction (bits : Nat) : Nat := bits % hiddenBit

def field (bits : Nat) : Nat := bits / hiddenBit % 2048

def ofFloat (x : Float) : Parts :=
  let bits := x.toBits.toNat
  let negative := decide (2048 * hiddenBit ≤ bits)
  if field bits = 0 then
    ⟨negative, fraction bits, -1074⟩
  else
    ⟨negative, fraction bits + hiddenBit, (field bits : Int) - 1075⟩

def floor (parts : Parts) : Nat :=
  if 0 ≤ parts.exponent then
    parts.mantissa <<< parts.exponent.toNat
  else
    parts.mantissa >>> (-parts.exponent).toNat

def isWhole (parts : Parts) : Bool :=
  0 ≤ parts.exponent ||
    (parts.floor <<< (-parts.exponent).toNat) == parts.mantissa

def truncate (parts : Parts) : Int :=
  if parts.negative then -(parts.floor : Int) else parts.floor

end Parts

def isWhole (x : Float) : Bool :=
  x.isFinite && (Parts.ofFloat x).isWhole

def truncate (x : Float) : Int := (Parts.ofFloat x).truncate

def ofInt (n : Int) : Float :=
  if n < 0 then
    -(UInt64.ofNat n.natAbs).toFloat
  else
    (UInt64.ofNat n.natAbs).toFloat

def compare? (a b : Float) : Option Ordering :=
  if a < b then
    some .lt
  else if a == b then
    some .eq
  else if b < a then
    some .gt
  else
    none

end Double
end DocQuery
