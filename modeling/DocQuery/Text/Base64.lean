/-!
This module contains the writing and reading of the standard Base64 text of bytes, with padding.
-/

namespace DocQuery
namespace Text

def base64Char (n : Nat) : Char :=
  if n < 26 then Char.ofNat (n + 'A'.toNat)
  else if n < 52 then Char.ofNat (n - 26 + 'a'.toNat)
  else if n < 62 then Char.ofNat (n - 52 + '0'.toNat)
  else if n = 62 then '+'
  else '/'

def base64Chars : List UInt8 → List Char
  | [] => []
  | [a] =>
    let n := a.toNat <<< 16
    [base64Char (n >>> 18), base64Char ((n >>> 12) % 64), '=', '=']
  | [a, b] =>
    let n := a.toNat <<< 16 + b.toNat <<< 8
    [base64Char (n >>> 18), base64Char ((n >>> 12) % 64), base64Char ((n >>> 6) % 64), '=']
  | a :: b :: c :: rest =>
    let n := a.toNat <<< 16 + b.toNat <<< 8 + c.toNat
    base64Char (n >>> 18) :: base64Char ((n >>> 12) % 64) :: base64Char ((n >>> 6) % 64)
      :: base64Char (n % 64) :: base64Chars rest

def base64 (bytes : List UInt8) : String := String.ofList (base64Chars bytes)

def base64Value? (c : Char) : Option Nat :=
  if 'A' ≤ c ∧ c ≤ 'Z' then some (c.toNat - 'A'.toNat)
  else if 'a' ≤ c ∧ c ≤ 'z' then some (c.toNat - 'a'.toNat + 26)
  else if '0' ≤ c ∧ c ≤ '9' then some (c.toNat - '0'.toNat + 52)
  else if c = '+' then some 62
  else if c = '/' then some 63
  else none

def readBase64? : List Char → Option (List UInt8)
  | [] => some []
  | [a, b, '=', '='] => do
    let n := (← base64Value? a) <<< 6 + (← base64Value? b)
    if n % 16 = 0 then some [UInt8.ofNat (n >>> 4)] else none
  | [a, b, c, '='] => do
    let n := (← base64Value? a) <<< 12 + (← base64Value? b) <<< 6 + (← base64Value? c)
    if n % 4 = 0 then some [UInt8.ofNat (n >>> 10), UInt8.ofNat (n >>> 2)] else none
  | a :: b :: c :: d :: rest => do
    let n := (← base64Value? a) <<< 18 + (← base64Value? b) <<< 12 + (← base64Value? c) <<< 6
      + (← base64Value? d)
    let bytes ← readBase64? rest
    return UInt8.ofNat (n >>> 16) :: UInt8.ofNat (n >>> 8) :: UInt8.ofNat n :: bytes
  | _ => none

end Text
end DocQuery
