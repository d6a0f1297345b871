import DocQuery.Collection
import DocQuery.Page

/-!
This module contains reads by pages. A page is counted first and fetched then, and rows that have come in
since the caller's last page are skipped.
-/

namespace DocQuery
namespace Collection

variable {m : Type → Type} [Monad m] [MonadStore m]

def page (collection : Collection) (query : Query) (cursor : Cursor) : m (Page Document) := do
  let cursor := cursor.normalized collection.config.limits
  let total ←
    if cursor.computeTotal then
      some <$> send (.countDocuments query.predicate collection.name)
    else
      pure none
  let options : FindOptions := {
    projection := query.projection?
    sort := query.order?
    skip := some (cursor.offset total)
    limit := some cursor.size
  }
  return .serve cursor total (← send (.find query.predicate options collection.name))

def totalField : String := "total"

def pageOf (collection : Collection) (head : Pipeline) (query : Query) (cursor : Cursor) :
    m (Page Document) := do
  let total ←
    if cursor.computeTotal then do
      let rows ← send (.aggregate (head ++ [Stage.count totalField]) collection.name)
      pure (some ((rows.head?.map (readCount · totalField)).getD 0))
    else
      pure none
  let pipeline :=
    head
      ++ (query.projection?.map Stage.project).toList
      ++ (query.order?.map Stage.sort).toList
      ++ [Stage.skip (cursor.offset total), Stage.limit cursor.size]
  return .serve cursor total (← send (.aggregate pipeline collection.name))

def pageUnwound (collection : Collection) (field : String) (query : Query) (cursor : Cursor) :
    m (Page Document) :=
  collection.pageOf [Stage.unwind field, Stage.filter query.predicate] query
    (cursor.normalized collection.config.limits)

def pageJoined (collection : Collection) (join : Join) (query : Query) (cursor : Cursor) :
    m (Page Document) := do
  let page ← collection.pageOf [join.stage, Stage.filter query.predicate] query
    (cursor.normalized collection.config.limits)
  return page.mapItems join.reshape

def readPages (collection : Collection) (query : Query) (size : UInt64) :
    Nat → UInt64 → m (List Document)
  | 0, _ => return []
  | left + 1, page => do
    let served ← collection.page query { page, size, computeTotal := false }
    return served.items ++ (← readPages collection query size left (page + 1))

def readAll (collection : Collection) (query : Query) (chunk : UInt64) : m (List Document) := do
  let size := collection.config.limits.clamp chunk
  let total ← send (.countDocuments query.predicate collection.name)
  collection.readPages query size (pageCount total size).toNat 1

end Collection
end DocQuery
