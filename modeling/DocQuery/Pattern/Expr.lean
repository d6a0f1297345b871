import DocQuery.Pattern.Class

/-!
This module contains regular expressions over sets of characters.
-/

namespace DocQuery
namespace Pattern

inductive Anchor where
  | startText
  | endText
  | startLine
  | endLine
  | wordEdge
  | noWordEdge
  | wordStart
  | wordEnd
  | wordStartHalf
  | wordEndHalf

def Anchor.holds (anchor : Anchor) (before after : Option Char) : Bool :=
  let wordBefore := before.any isWord
  let wordAfter := after.any isWord
  match anchor with
  | startText => before.isNone
  | endText => after.isNone
  | startLine => before.all (· == '\n')
  | endLine => after.all (· == '\n')
  | wordEdge => wordBefore != wordAfter
  | noWordEdge => wordBefore == wordAfter
  | wordStart => !wordBefore && wordAfter
  | wordEnd => wordBefore && !wordAfter
  | wordStartHalf => !wordBefore
  | wordEndHalf => !wordAfter

inductive Expr where
  | empty
  | char (set : CharSet)
  | at (anchor : Anchor)
  | seq (a b : Expr)
  | alt (a b : Expr)
  | group (body : Expr)
  | many (body : Expr) (least : Nat) (more : Option Nat)

end Pattern
end DocQuery
