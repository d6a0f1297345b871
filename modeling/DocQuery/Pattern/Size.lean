import DocQuery.Pattern.Expr
import DocQuery.Pattern.Ranges

/-!
This module contains the size of the program that searches for an expression: an automaton over the bytes of
UTF-8 that reads a text forwards, and one that reads it backwards. Expressions that need more than the limit
are refused, before any text is looked at.
-/

namespace DocQuery
namespace Pattern

structure Size where
  forward : Nat
  backward : Nat
deriving DecidableEq

namespace Size

def both (n : Nat) : Size := ⟨n, n⟩

instance : Add Size where
  add a b := ⟨a.forward + b.forward, a.backward + b.backward⟩

def times (n : Nat) (a : Size) : Size := ⟨n * a.forward, n * a.backward⟩

def state : Nat := 32

def fork (ways : Nat) : Nat := state + 4 * ways

def choice (ranges : Nat) : Nat := state + 8 * ranges

def limit : Nat := 10485760

end Size

/-! ## Classes -/

abbrev ByteRow := List (Nat × Nat)

def byteRows (lead : Nat) : Nat → Nat → Nat → List ByteRow
  | 0, a, b => [[(lead + a, lead + b)]]
  | more + 1, a, b =>
    let block := 1 <<< (6 * (more + 1))
    let under (top low high : Nat) : List ByteRow :=
      (byteRows 0x80 more low high).map ((lead + top, lead + top) :: ·)
    if a / block = b / block then
      under (a / block) (a % block) (b % block)
    else
      let first := if a % block = 0 then [] else under (a / block) (a % block) (block - 1)
      let last := if b % block = block - 1 then [] else under (b / block) 0 (b % block)
      let low := if a % block = 0 then a / block else a / block + 1
      let next := if b % block = block - 1 then b / block + 1 else b / block
      let rest := List.replicate (more + 1) (0x80, 0xBF)
      let full := if low < next then [(lead + low, lead + next - 1) :: rest] else []
      first ++ full ++ last

def planes : List (Nat × Nat × Nat × Nat) := [
  (0, 0x7F, 0, 0), (0x80, 0x7FF, 1, 0xC0), (0x800, 0xD7FF, 2, 0xE0), (0xE000, 0xFFFF, 2, 0xE0),
  (0x10000, 0x10FFFF, 3, 0xF0)]

def rowsOf (range : Nat × Nat) : List ByteRow :=
  planes.flatMap fun (first, last, more, lead) =>
    let a := max first range.1
    let b := min last range.2
    if a ≤ b then byteRows lead more a b else []

def countStarts : ByteRow → List ByteRow → Nat
  | _, [] => 0
  | before, row :: rows =>
    let shared := ((before.zip row).takeWhile fun (x, y) => x == y).length
    row.length - shared + countStarts row rows

def branches : List ByteRow → List ((Nat × Nat) × List ByteRow)
  | [] => []
  | [] :: rows => branches rows
  | (range :: row) :: rows =>
    match branches rows with
    | (other, tails) :: rest =>
      if range = other then (range, row :: tails) :: rest else (range, [row]) :: (other, tails) :: rest
    | [] => [(range, [row])]

def remainders : Nat → List (List ByteRow) → List (List ByteRow)
  | 0, _ => []
  | depth + 1, level =>
    let level := (level.filter (· != [[]])).eraseDups
    level ++ remainders depth (level.flatMap fun rows => (branches rows).map (·.2))

def classSize (ranges : List (Nat × Nat)) : Size :=
  let rows := ranges.flatMap rowsOf
  match rows with
  | [] => .both Size.state
  | _ =>
    if rows.all fun row => row.length == 1 then
      .both (Size.state + Size.choice rows.length)
    else
      let states := (remainders 4 [rows]).eraseDups
      { forward := states.foldl (fun room rows => room + Size.choice (branches rows).length) Size.state
        backward := Size.state + Size.fork rows.length + Size.state * countStarts [] rows }

/-! ## Alternatives -/

def treeSize : Nat → List (List UInt8) → Nat
  | 0, _ => 0
  | depth + 1, words =>
    let firsts := (words.filterMap List.head?).eraseDups
    let after (byte : UInt8) : List (List UInt8) :=
      words.filterMap fun word => if word.head? = some byte then some word.tail else none
    let ways := if [] ∈ words then 2 else 1
    let here :=
      match firsts with
      | [] => 0
      | [_] => Size.fork ways + Size.state
      | _ => Size.fork ways + Size.choice firsts.length
    firsts.foldl (fun room byte => room + treeSize depth (after byte)) here

inductive Branch where
  | word (cs : List Char)
  | oneOf (ranges : List (Nat × Nat))
  | other (size : Size)

namespace Branch

def utf8 (cs : List Char) : List UInt8 := (String.ofList cs).toUTF8.toList

def size : Branch → Size
  | .word cs => .both (Size.state * (utf8 cs).length)
  | .oneOf ranges => classSize ranges
  | .other size => size

def orState : Branch → Size
  | .word [] => .both Size.state
  | branch => branch.size

def rowSize (branches : List Branch) : Size :=
  let chars? := branches.mapM fun
    | .word [c] => some (c.toNat, c.toNat)
    | _ => none
  let sets? := branches.mapM fun
    | .oneOf ranges => some ranges
    | _ => none
  let words? := branches.mapM fun
    | .word (c :: cs) => some (utf8 (c :: cs))
    | _ => none
  match branches, chars?, sets?, words? with
  | [branch], _, _, _ => branch.size
  | _, some chars, _, _ => classSize (orderRanges chars)
  | _, _, some sets, _ => classSize (orderRanges sets.flatten)
  | _, _, _, some words =>
    let depth := (words.map List.length).foldl max 0 + 1
    ⟨Size.state + treeSize depth words, Size.state + treeSize depth (words.map List.reverse)⟩
  | _, _, _, _ =>
    let frame : Size := .both (Size.fork branches.length + Size.state)
    branches.foldl (fun total branch => total + branch.orState) frame

def ownSize : List Branch → Size
  | [branch] => branch.orState
  | branches => rowSize branches

end Branch

/-! ## Expressions -/

namespace Expr

def takesNothing : Expr → Bool
  | .empty => true
  | .char _ => false
  | .at _ => true
  | .seq a b => a.takesNothing && b.takesNothing
  | .alt a b => a.takesNothing && b.takesNothing
  | .group body => body.takesNothing
  | .many body least more => body.takesNothing || (least == 0 && more == some 0)

def takesText : Expr → Bool
  | .empty => false
  | .char _ => true
  | .at _ => false
  | .seq a b => a.takesText || b.takesText
  | .alt a b => a.takesText && b.takesText
  | .group body => body.takesText
  | .many body least _ => body.takesText && least != 0

def manySize (body : Size) (takesText : Bool) : Nat → Option Nat → Size
  | 0, some 1 => body + .both (Size.fork 2 + Size.state)
  | n, some 0 => .times n body
  | 0, some m => .times m (body + .both (Size.fork 2)) + .both (2 * Size.state)
  | n, some m => .times n body + .times m (body + .both (Size.fork 2)) + .both Size.state
  | 0, none => body + .both (if takesText then Size.fork 2 else 2 * Size.fork 2 + Size.state)
  | n, none => .times n body + .both (Size.fork 2)

def alternatives : Expr → List Branch
  | .empty => [.word []]
  | .char set =>
    match set.ranges with
    | [(a, b)] => if a = b then [.word [Char.ofNat a]] else [.oneOf [(a, b)]]
    | ranges => [.oneOf ranges]
  | .at _ => [.other (.both Size.state)]
  | .seq a b =>
    match a.alternatives, b.alternatives with
    | [.word cs], [.word ds] => [.word (cs ++ ds)]
    | as, bs => [.other (Branch.rowSize as + Branch.rowSize bs)]
  | .alt a b => a.alternatives ++ b.alternatives
  | .group body => [.other (Branch.ownSize body.alternatives + ⟨2 * Size.state, 0⟩)]
  | .many body least more =>
    let (least, more) :=
      if body.takesNothing then
        (min least 1, some (if least = 0 ∧ more ≠ some 0 then 1 else 0))
      else
        (least, more)
    let branches := body.alternatives
    match least, more with
    | 0, some 0 => [.word []]
    | 1, some 0 => branches
    | _, _ => [.other (manySize (Branch.ownSize branches) body.takesText least more)]

def size (expr : Expr) : Size :=
  let loop := Size.fork 2 + Size.choice 1 + Size.state
  Branch.ownSize expr.alternatives + ⟨3 * Size.state + loop, Size.state + loop⟩

end Expr

/-! ## The limit -/

def CharSet.bound : CharSet → Nat
  | .empty => 32
  | .range first last => if first = last then 32 * first.utf8Size else 2048
  | .digit => 8192
  | .word => 65536
  | .blank => 2048
  | .union a b => a.bound + b.bound
  | .inter a b => a.bound + b.bound
  | .compl a => a.bound + 2048
  | .anyCase (.range first last) => if first = last then 1024 else 65536
  | .anyCase a => a.bound + 65536

namespace Expr

def bound : Expr → Nat
  | .empty => 32
  | .char set => set.bound
  | .at _ => 32
  | .seq a b => a.bound + b.bound
  | .alt a b => a.bound + b.bound + 128
  | .group body => body.bound + 64
  | .many body least more => (least + more.getD 1) * (body.bound + 64) + 128

def fits (expr : Expr) : Bool :=
  expr.bound + 512 ≤ Size.limit || (expr.size.forward ≤ Size.limit && expr.size.backward ≤ Size.limit)

end Expr
end Pattern
end DocQuery
