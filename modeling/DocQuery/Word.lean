/-!
This module contains the ranges of machine words, and saturating arithmetic on 64-bit ones, in which a
result beyond the range stops at the end of the range.
-/

namespace DocQuery
namespace Word

def limit : Nat := 18446744073709551615

def fits32 (n : Int) : Bool := -2147483648 ≤ n && n ≤ 2147483647

def fits64 (n : Int) : Bool := -9223372036854775808 ≤ n && n ≤ 9223372036854775807

def fits128 (n : Int) : Bool :=
  -170141183460469231731687303715884105728 ≤ n && n ≤ 170141183460469231731687303715884105727

def clamp (n : Nat) : UInt64 := UInt64.ofNat (min n limit)

def addSat (a b : UInt64) : UInt64 := clamp (a.toNat + b.toNat)

def mulSat (a b : UInt64) : UInt64 := clamp (a.toNat * b.toNat)

def subSat (a b : UInt64) : UInt64 := clamp (a.toNat - b.toNat)

def divCeil (a b : UInt64) : UInt64 :=
  if b = 0 then 0 else clamp ((a.toNat + b.toNat - 1) / b.toNat)

def clampInt (n : Int) : Int64 :=
  Int64.ofInt (max (-9223372036854775808) (min n 9223372036854775807))

def toSigned (n : UInt64) : Int64 := clampInt n.toNat

@[simp]
theorem toNat_clamp (n : Nat) : (clamp n).toNat = min n limit := by
  have : min n limit < 2 ^ 64 := by
    have := Nat.min_le_right n limit
    simp only [limit] at *
    omega
  simp only [clamp, UInt64.toNat_ofNat', Nat.mod_eq_of_lt this]

@[simp]
theorem toNat_addSat (a b : UInt64) : (addSat a b).toNat = min (a.toNat + b.toNat) limit := by
  simp [addSat]

@[simp]
theorem toNat_mulSat (a b : UInt64) : (mulSat a b).toNat = min (a.toNat * b.toNat) limit := by
  simp [mulSat]

@[simp]
theorem toNat_subSat (a b : UInt64) : (subSat a b).toNat = a.toNat - b.toNat := by
  have := a.toNat_lt
  simp only [subSat, toNat_clamp, limit]
  omega

end Word
end DocQuery
