import DocQuery.Config
import DocQuery.Failure
import DocQuery.Word

/-!
This module contains cursors, which say what page is asked for, and the pages that are returned.
-/

namespace DocQuery

structure Cursor where
  page : UInt64 := 1
  size : UInt64 := 0
  computeTotal : Bool := true
  previousTotal : UInt64 := 0
deriving DecidableEq

namespace Cursor

def normalized (cursor : Cursor) (limits : Limits) : Cursor :=
  { cursor with page := max cursor.page 1, size := limits.clamp cursor.size }

/--
How many rows have come in since the caller saw its last total. The first page never moves.
-/
def drift (cursor : Cursor) (total : UInt64) : UInt64 :=
  if 1 < cursor.page ∧ 0 < cursor.previousTotal then Word.subSat total cursor.previousTotal else 0

def skip (cursor : Cursor) (drift : UInt64) : UInt64 :=
  Word.addSat (Word.mulSat (Word.subSat cursor.page 1) cursor.size) drift

def offset (cursor : Cursor) (total : Option UInt64) : UInt64 :=
  cursor.skip ((total.map cursor.drift).getD 0)

end Cursor

def pageCount (total size : UInt64) : UInt64 := Word.divCeil total size

structure Page (α : Type) where
  page : UInt64
  size : UInt64
  total : Option UInt64
  pageCount : Option UInt64
  items : List α

namespace Page

variable {α β : Type}

def serve (cursor : Cursor) (total : Option UInt64) (items : List α) : Page α where
  page := cursor.page
  size := cursor.size
  total := total
  pageCount := total.map (DocQuery.pageCount · cursor.size)
  items := items

def mapItems (f : List α → List β) (page : Page α) : Page β :=
  { page with items := f page.items }

def map (f : α → β) (page : Page α) : Page β := page.mapItems (List.map f)

end Page
end DocQuery
