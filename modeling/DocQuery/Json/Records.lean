import DocQuery.Join
import DocQuery.Json
import DocQuery.Page

/-!
This module contains the JSON form of limits, configurations, cursors, joins and pages.
-/

namespace DocQuery

namespace Limits

def jsonNames : List String := ["max_size", "default_size"]

instance : OfJson Limits where
  ofJson? json := do
    let entries ← json.record? jsonNames
    let maxSize ← Json.optional? entries "max_size" ({} : Limits).maxSize
    let defaultSize ← Json.optional? entries "default_size" ({} : Limits).defaultSize
    return { maxSize, defaultSize }

instance : ToJson Limits where
  toJson limits := .object [
    ("max_size", toJson limits.maxSize),
    ("default_size", toJson limits.defaultSize)]

end Limits

namespace Config

def jsonNames : List String := ["limits", "batch_size"]

instance : OfJson Config where
  ofJson? json := do
    let entries ← json.record? jsonNames
    let limits ← Json.optional? entries "limits" ({} : Config).limits
    let batchSize ← Json.optional? entries "batch_size" ({} : Config).batchSize
    return { limits, batchSize }

instance : ToJson Config where
  toJson config := .object [
    ("limits", toJson config.limits),
    ("batch_size", toJson config.batchSize)]

end Config

namespace Cursor

def jsonNames : List String := ["page", "size", "computeTotal", "previousTotal"]

instance : OfJson Cursor where
  ofJson? json := do
    let entries ← json.record? jsonNames
    let page ← Json.optional? entries "page" ({} : Cursor).page
    let size ← Json.optional? entries "size" ({} : Cursor).size
    let computeTotal ← Json.optional? entries "computeTotal" ({} : Cursor).computeTotal
    let previousTotal ← Json.optional? entries "previousTotal" ({} : Cursor).previousTotal
    return { page, size, computeTotal, previousTotal }

instance : ToJson Cursor where
  toJson cursor := .object [
    ("page", toJson cursor.page),
    ("size", toJson cursor.size),
    ("computeTotal", toJson cursor.computeTotal),
    ("previousTotal", toJson cursor.previousTotal)]

end Cursor

namespace Join

def jsonNames : List String := ["from", "localField", "foreignField", "as", "flattenToOne"]

instance : OfJson Join where
  ofJson? json := do
    let entries ← json.record? jsonNames
    let source ← Json.required? entries "from"
    let localField ← Json.required? entries "localField"
    let foreignField ← Json.required? entries "foreignField"
    let target ← Json.required? entries "as"
    let flattenToOne ← Json.optional? entries "flattenToOne" true
    return { source, localField, foreignField, target, flattenToOne }

instance : ToJson Join where
  toJson join := .object [
    ("from", toJson join.source),
    ("localField", toJson join.localField),
    ("foreignField", toJson join.foreignField),
    ("as", toJson join.target),
    ("flattenToOne", toJson join.flattenToOne)]

end Join

namespace Page

variable {α : Type}

def jsonNames : List String := ["page", "size", "total", "pageCount", "items"]

instance [OfJson α] : OfJson (Page α) where
  ofJson? json := do
    let entries ← json.record? jsonNames
    let page ← Json.required? entries "page"
    let size ← Json.required? entries "size"
    let total ← Json.optional? entries "total" none
    let pageCount ← Json.optional? entries "pageCount" none
    let items ← Json.required? entries "items"
    return { page, size, total, pageCount, items }

def optionalEntry (name : String) (value : Option UInt64) : List (String × Json) :=
  (value.map fun n => (name, toJson n)).toList

instance [ToJson α] : ToJson (Page α) where
  toJson page := .object <|
    [("page", toJson page.page), ("size", toJson page.size)]
      ++ optionalEntry "total" page.total
      ++ optionalEntry "pageCount" page.pageCount
      ++ [("items", toJson page.items)]

end Page
end DocQuery
