import DocQuery.Pattern.Expr

/-!
This module contains the search for an expression in a text. A set of positions is a number whose bit `i` is
set if the position `i` belongs to it, so that one operation on numbers moves all positions at once.
-/

namespace DocQuery
namespace Pattern

def positionsOf : List Bool → Nat
  | [] => 0
  | b :: bs => positionsOf bs <<< 1 ||| b.toNat

def addPlace (c : Char) (position : Nat) : List (Char × Nat) → List (Char × Nat)
  | [] => [(c, 1 <<< position)]
  | (d, places) :: rest =>
    if c = d then (d, places ||| 1 <<< position) :: rest else (d, places) :: addPlace c position rest

def placesOf (text : List Char) : List (Char × Nat) :=
  text.zipIdx.foldl (fun places (c, position) => addPlace c position places) []

/--
An expression in which the positions of one text stand for the conditions that hold there.
-/
inductive Track where
  | stay
  | step (places : Nat)
  | only (places : Nat)
  | seq (a b : Track)
  | alt (a b : Track)
  | many (body : Track) (least more : Nat)

def Expr.track (text : List Char) (places : List (Char × Nat)) : Expr → Track
  | .empty => .stay
  | .char set => .step (places.foldl (fun all (c, here) => if set.holds c then all ||| here else all) 0)
  | .at anchor =>
    let chars := text.map some
    .only (positionsOf (List.zipWith anchor.holds (none :: chars) (chars ++ [none])))
  | .seq a b => .seq (a.track text places) (b.track text places)
  | .alt a b => .alt (a.track text places) (b.track text places)
  | .group body => body.track text places
  | .many body least more => .many (body.track text places) least (more.getD (text.length + 1))

def repeatStep (step : Nat → Nat) : Nat → Nat → Nat
  | 0, positions => positions
  | n + 1, positions =>
    -- a step that changes nothing ends the rounds
    let next := step positions
    if next = positions then positions else repeatStep step n next

def spread (step : Nat → Nat) : Nat → Nat → Nat → Nat
  | 0, reached, _ => reached
  | n + 1, reached, last =>
    let all := reached ||| step last
    if all = reached then reached else spread step n all (all ^^^ reached)

def Track.ends : Track → Nat → Nat
  | .stay, starts => starts
  | .step places, starts => (starts &&& places) <<< 1
  | .only places, starts => starts &&& places
  | .seq a b, starts => b.ends (a.ends starts)
  | .alt a b, starts => a.ends starts ||| b.ends starts
  | .many body least more, starts =>
    let fewest := repeatStep body.ends least starts
    spread body.ends more fewest fewest

def Expr.isIn (expr : Expr) (s : String) : Bool :=
  let text := s.toList
  (expr.track text (placesOf text)).ends (1 <<< (text.length + 1) - 1) != 0

end Pattern
end DocQuery
