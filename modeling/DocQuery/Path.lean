import DocQuery.Value
import DocQuery.Text.Blank
import DocQuery.Text.Number

/-!
This module contains dotted paths into documents: reading, reading through arrays of documents, writing
and removing.
-/

namespace DocQuery

structure Path where
  head : String
  tail : List String
deriving DecidableEq

namespace Path

def ofString (s : String) : Path :=
  let (head, tail) := Text.cut (· == '.') s.toList
  ⟨String.ofList head, tail.map String.ofList⟩

end Path

namespace Value

def child? : Value → String → Option Value
  | .document fields, segment => Fields.get? fields segment
  | .array items, segment => (Text.readIndex? segment).bind (items[·]?)
  | _, _ => none

def descend? : Value → List String → Option Value
  | value, [] => some value
  | value, segment :: rest => (value.child? segment).bind (·.descend? rest)

end Value

namespace Document

def lookup? (document : Document) (path : Path) : Option Value :=
  (Fields.get? document path.head).bind (·.descend? path.tail)

/--
The value at a path as a predicate sees it. Where the path meets an array of documents, it goes on in each
of them, and the values found there form an array.
-/
def resolveAt? (document : Document) (head : String) : List String → Option Value
  | [] => lookup? document ⟨head, []⟩
  | next :: rest =>
    match lookup? document ⟨head, next :: rest⟩ with
    | some value => some value
    | none =>
      match Fields.get? document head with
      | some (.document inner) => resolveAt? inner next rest
      | some (.array items) =>
        match items.filterMap fun
            | .document inner => resolveAt? inner next rest
            | _ => none with
        | [] => none
        | values => some (.array values)
      | _ => none

def resolve? (document : Document) (path : Path) : Option Value :=
  resolveAt? document path.head path.tail

def setAt (document : Document) (head : String) (value : Value) : List String → Document
  | [] => Fields.insert document head value
  | next :: rest =>
    let inner :=
      match Fields.get? document head with
      | some (.document inner) => inner
      -- what stands in the way of a write is replaced
      | _ => []
    Fields.insert document head (.document (setAt inner next value rest))

def set (document : Document) (path : Path) (value : Value) : Document :=
  setAt document path.head value path.tail

def unsetAt (document : Document) (head : String) : List String → Document
  | [] => Fields.erase document head
  | next :: rest =>
    match Fields.get? document head with
    | some (.document inner) =>
      Fields.insert document head (.document (unsetAt inner next rest))
    | _ => document

def unset (document : Document) (path : Path) : Document :=
  unsetAt document path.head path.tail

end Document
end DocQuery
