import DocQuery.Json.Records
import DocQuery.Proofs.Json.Reading

/-!
This module contains the proof that records are read back from their JSON form: limits, configurations, cursors, joins
and pages from what is written for them, and all but pages also where entries with default values are left out.
-/

namespace DocQuery

theorem Limits.recovers (limits : Limits) : Json.Recovers (toJson ({} : Limits)) limits := by
  intro json hjson
  obtain ⟨short, rfl, h⟩ := hjson.exists_entries
  have hnodup : jsonNames.Nodup := by decide
  have hmaxSize : Json.optional? short "max_size" ({} : Limits).maxSize = some limits.maxSize :=
    Json.optional?_of_abbreviates h hnodup rfl rfl (Json.recovers_uint64 _)
  have hdefaultSize : Json.optional? short "default_size" ({} : Limits).defaultSize = some limits.defaultSize :=
    Json.optional?_of_abbreviates h hnodup rfl rfl (Json.recovers_uint64 _)
  simp only [ofJson?, Json.record?, Option.bind_eq_bind, Option.bind_some, hmaxSize, hdefaultSize]
  rfl

theorem Config.recovers (config : Config) : Json.Recovers (toJson ({} : Config)) config := by
  intro json hjson
  obtain ⟨short, rfl, h⟩ := hjson.exists_entries
  have hnodup : jsonNames.Nodup := by decide
  have hlimits : Json.optional? short "limits" ({} : Config).limits = some config.limits :=
    Json.optional?_of_abbreviates h hnodup rfl rfl Limits.recovers
  have hbatchSize : Json.optional? short "batch_size" ({} : Config).batchSize = some config.batchSize :=
    Json.optional?_of_abbreviates h hnodup rfl rfl (Json.recovers_uint64 _)
  change (Json.optional? short "limits" ({} : Config).limits).bind _ = some config
  simp only [hlimits, Option.bind_some, Option.bind_eq_bind, hbatchSize]
  rfl

theorem Cursor.recovers (cursor : Cursor) : Json.Recovers (toJson ({} : Cursor)) cursor := by
  intro json hjson
  obtain ⟨short, rfl, h⟩ := hjson.exists_entries
  have hnodup : jsonNames.Nodup := by decide
  have hpage : Json.optional? short "page" ({} : Cursor).page = some cursor.page :=
    Json.optional?_of_abbreviates h hnodup rfl rfl (Json.recovers_uint64 _)
  have hsize : Json.optional? short "size" ({} : Cursor).size = some cursor.size :=
    Json.optional?_of_abbreviates h hnodup rfl rfl (Json.recovers_uint64 _)
  have hcomputeTotal : Json.optional? short "computeTotal" ({} : Cursor).computeTotal = some cursor.computeTotal :=
    Json.optional?_of_abbreviates h hnodup rfl rfl (Json.recovers_bool _)
  have hpreviousTotal :
      Json.optional? short "previousTotal" ({} : Cursor).previousTotal = some cursor.previousTotal :=
    Json.optional?_of_abbreviates h hnodup rfl rfl (Json.recovers_uint64 _)
  simp only [ofJson?, Json.record?, Option.bind_eq_bind, Option.bind_some, hpage, hsize, hcomputeTotal, hpreviousTotal]
  rfl

namespace Join

def jsonDefaults : Json := .object [("flattenToOne", toJson true)]

theorem recovers (join : Join) : Json.Recovers jsonDefaults join := by
  intro json hjson
  obtain ⟨short, rfl, h⟩ := hjson.exists_entries
  have hnodup : jsonNames.Nodup := by decide
  have hsource : Json.required? short "from" = some join.source :=
    Json.required?_of_abbreviates h hnodup rfl rfl
  have hlocalField : Json.required? short "localField" = some join.localField :=
    Json.required?_of_abbreviates h hnodup rfl rfl
  have hforeignField : Json.required? short "foreignField" = some join.foreignField :=
    Json.required?_of_abbreviates h hnodup rfl rfl
  have htarget : Json.required? short "as" = some join.target :=
    Json.required?_of_abbreviates h hnodup rfl rfl
  have hflattenToOne : Json.optional? short "flattenToOne" true = some join.flattenToOne :=
    Json.optional?_of_abbreviates h hnodup rfl rfl (Json.recovers_bool _)
  simp only [ofJson?, Json.record?, Option.bind_eq_bind, Option.bind_some, hsource, hlocalField, hforeignField, htarget,
    hflattenToOne]
  rfl

end Join

namespace Page

variable {α : Type} [OfJson α]

theorem ofJson?_object {entries : List (String × Json)} {page : Page α}
    (hpage : Json.required? entries "page" = some page.page) (hsize : Json.required? entries "size" = some page.size)
    (htotal : Json.optional? entries "total" none = some page.total)
    (hpageCount : Json.optional? entries "pageCount" none = some page.pageCount)
    (hitems : Json.required? entries "items" = some page.items) : ofJson? (.object entries) = some page := by
  simp only [ofJson?, Json.record?, Option.bind_eq_bind, Option.bind_some, hpage, hsize, htotal, hpageCount, hitems]
  rfl

variable [ToJson α] [LawfulJson α]

instance : LawfulJson (Page α) where
  ofJson?_toJson page := by
    obtain ⟨number, size, total, pageCount, items⟩ := page
    have hnumber := ofJson?_toJson number
    have hsize := ofJson?_toJson size
    have hitems := ofJson?_toJson items
    have hpresent (n : UInt64) : ofJson? (toJson n) = some (some n) := by
      change (ofJson? (toJson n)).map some = some (some n)
      rw [ofJson?_toJson, Option.map_some]
    cases total with
    | none =>
      cases pageCount with
      | none => exact ofJson?_object hnumber hsize rfl rfl hitems
      | some pages => exact ofJson?_object hnumber hsize rfl (hpresent pages) hitems
    | some rows =>
      cases pageCount with
      | none => exact ofJson?_object hnumber hsize (hpresent rows) rfl hitems
      | some pages => exact ofJson?_object hnumber hsize (hpresent rows) (hpresent pages) hitems

end Page

theorem Json.records_read_back :
    (∀ limits : Limits, ofJson? (toJson limits) = some limits ∧ Recovers (toJson ({} : Limits)) limits)
      ∧ (∀ config : Config, ofJson? (toJson config) = some config ∧ Recovers (toJson ({} : Config)) config)
      ∧ (∀ cursor : Cursor, ofJson? (toJson cursor) = some cursor ∧ Recovers (toJson ({} : Cursor)) cursor)
      ∧ (∀ join : Join, ofJson? (toJson join) = some join ∧ Recovers Join.jsonDefaults join)
      ∧ ∀ page : Page Int32, ofJson? (toJson page) = some page := by
  refine ⟨?_, ?_, ?_, ?_, ?_⟩
  · intro limits
    exact ⟨limits.recovers.ofJson?_toJson, limits.recovers⟩
  · intro config
    exact ⟨config.recovers.ofJson?_toJson, config.recovers⟩
  · intro cursor
    exact ⟨cursor.recovers.ofJson?_toJson, cursor.recovers⟩
  · intro join
    exact ⟨join.recovers.ofJson?_toJson, join.recovers⟩
  · intro page
    apply ofJson?_toJson

theorem Json.records_read_back_short :
    ofJson? (.object [("limits", .object [("max_size", toJson (200 : UInt64))])])
        = some ({ limits := { maxSize := 200 } } : Config)
      ∧ ofJson? (.object [("page", toJson (3 : UInt64))]) = some ({ page := 3 } : Cursor)
      ∧ ofJson? (.object [("from", toJson "teams"), ("localField", toJson "team"), ("foreignField", toJson "_id"),
            ("as", toJson "members")])
          = some ({ source := "teams", localField := "team", foreignField := "_id", target := "members" } : Join) := by
  obtain ⟨-, hconfig, hcursor, hjoin, -⟩ := Json.records_read_back
  refine ⟨(hconfig _).2 _ ?_, (hcursor _).2 _ ?_, (hjoin _).2 _ ?_⟩
  · apply Abbreviates.object
    apply EntriesAbbreviate.shortened rfl
    · apply Abbreviates.object
      apply EntriesAbbreviate.kept
      apply EntriesAbbreviate.left rfl
      apply EntriesAbbreviate.nil
    · apply EntriesAbbreviate.left rfl
      apply EntriesAbbreviate.nil
  · apply Abbreviates.object
    apply EntriesAbbreviate.kept
    apply EntriesAbbreviate.left rfl
    apply EntriesAbbreviate.left rfl
    apply EntriesAbbreviate.left rfl
    apply EntriesAbbreviate.nil
  · apply Abbreviates.object
    apply EntriesAbbreviate.kept
    apply EntriesAbbreviate.kept
    apply EntriesAbbreviate.kept
    apply EntriesAbbreviate.kept
    apply EntriesAbbreviate.left rfl
    apply EntriesAbbreviate.nil

end DocQuery
