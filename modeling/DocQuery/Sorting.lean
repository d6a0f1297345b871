import DocQuery.Collation
import DocQuery.Path
import DocQuery.Text.Lowercase

/-!
This module contains sort orders: how they are written, and the stable sorting of documents.
-/

namespace DocQuery

inductive Direction where
  | word (word : String)
  | native (order : Value)

namespace Direction

def ascending : Direction := .word "asc"

def descending : Direction := .word "desc"

def ofValue : Value → Direction
  | .string s => word s
  | value => native value

def compile : Direction → Value
  | word w => if Text.lowercase w = "asc" then .int32 1 else .int32 (-1)
  | native value => value

end Direction

structure SortOrder where
  keys : List (String × Direction)

namespace SortOrder

def natural : SortOrder := ⟨[]⟩

instance : Inhabited SortOrder := ⟨natural⟩

def thenBy (order : SortOrder) (field : String) (direction : Direction) : SortOrder :=
  ⟨order.keys ++ [(field, direction)]⟩

def isNatural (order : SortOrder) : Bool := order.keys.isEmpty

def ofDocument (document : Document) : SortOrder :=
  ⟨document.map fun field => (field.1, .ofValue field.2)⟩

def compile? (order : SortOrder) : Option Document :=
  match order.keys with
  | [] => none
  -- a repeated key keeps its first place and takes its last direction
  | keys => some (.ofList (keys.map fun key => (key.1, key.2.compile)))

end SortOrder

def Value.isDescending : Value → Bool
  | .int32 n => n < 0
  | .int64 n => n < 0
  | .double x => x < 0
  | _ => false

namespace Document

def sortValue (document : Document) (field : String) : Value :=
  (document.lookup? (.ofString field)).getD .null

def compareAt (field : String) (order : Value) (a b : Document) : Ordering :=
  if order.isDescending then
    (b.sortValue field).order (a.sortValue field)
  else
    (a.sortValue field).order (b.sortValue field)

def compareBy (sort : Document) (a b : Document) : Ordering :=
  match sort with
  | [] => .eq
  | (field, order) :: rest => (compareAt field order a b).then (compareBy rest a b)

end Document

/--
Place an item in a sorted list that is given from its end: before the items at the end that it precedes.
-/
def insertFromEnd {α : Type} (precedes : α → α → Bool) (item : α) : List α → List α
  | [] => [item]
  | last :: rest =>
    if precedes item last then last :: insertFromEnd precedes item rest else item :: last :: rest

def sortStable {α : Type} (precedes : α → α → Bool) (items : List α) : List α :=
  (items.foldl (fun sorted item => insertFromEnd precedes item sorted) []).reverse

def sortDocuments (sort : Document) (documents : List Document) : List Document :=
  sortStable (fun a b => Document.compareBy sort a b == .lt) documents

end DocQuery
