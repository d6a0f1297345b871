/-!
This module contains what a store asks of the engine that searches texts for patterns. Which patterns an
engine takes, what it finds and how it words a refusal is left to the engine.
-/

namespace DocQuery
namespace Pattern

structure Flags where
  ignoreCase : Bool := false
  multiLine : Bool := false
  dotAll : Bool := false
deriving DecidableEq

def Flags.ofString (s : String) : Flags where
  ignoreCase := 'i' ∈ s.toList
  multiLine := 'm' ∈ s.toList
  dotAll := 's' ∈ s.toList

/--
An engine turns a pattern into a search, or says why it does not.
-/
class Engine where
  compile (flags : Flags) (pattern : String) : Except String (String → Bool)

variable [Engine]

def isAccepted (flags : Flags) (pattern : String) : Bool := (Engine.compile flags pattern).isOk

theorem isAccepted_iff {flags : Flags} {pattern : String} :
    isAccepted flags pattern = true ↔ ∃ isIn, Engine.compile flags pattern = .ok isIn := by
  unfold isAccepted
  cases Engine.compile flags pattern with
  | error message => simp [Except.isOk, Except.toBool]
  | ok isIn => simp [Except.isOk, Except.toBool]

end Pattern
end DocQuery
