import DocQuery.Projection
import DocQuery.Proofs.Path.Segments
import DocQuery.Proofs.Path.Writing

/-!
This module contains what a projection that names fields to leave out hides. It takes names away as they are
written, so that it hides whole fields and nothing inside them.
-/

namespace DocQuery
namespace Document

theorem get?_without (document projection : Document) (name : String) :
    Fields.get? (document.without projection) name
      =
    if name ∈ Fields.names (projection.filter fun field => !field.2.isSet) then
      none
    else
      Fields.get? document name := by
  unfold without
  induction projection.filter (fun field => !field.2.isSet) generalizing document with
  | nil => rfl
  | cons field rest ih =>
    have hnames : Fields.names (field :: rest) = field.1 :: Fields.names rest := rfl
    rw [List.foldl_cons, ih, hnames]
    by_cases hname : field.1 = name
    · simp [hname]
    · simp [Ne.symm hname, Fields.get?_erase_of_ne document hname]

section

variable {projection : Document} (h : ∀ field ∈ projection, field.2.isSet = false) (document : Document)

include h

theorem project_of_cleared : document.project projection = document.without projection := by
  have hexclusion : isInclusion projection = false := by
    unfold isInclusion
    rw [List.any_eq_false]
    rintro ⟨name, flag⟩ hfield
    simp [h ⟨name, flag⟩ hfield]
  rw [project, hexclusion, if_neg Bool.false_ne_true]

theorem filter_cleared : projection.filter (fun field => !field.2.isSet) = projection := by
  rw [List.filter_eq_self]
  intro field hfield
  rw [h field hfield]
  rfl

theorem get?_project (name : String) :
    Fields.get? (document.project projection) name
      =
    if name ∈ Fields.names projection then none else Fields.get? document name := by
  rw [project_of_cleared h, get?_without, filter_cleared h]

theorem lookup?_project_of_mem {path : Path} (hhead : path.head ∈ Fields.names projection) :
    (document.project projection).lookup? path = none := by
  rw [lookup?, get?_project h, if_pos hhead]
  rfl

theorem lookup?_project_of_not_mem {path : Path} (hhead : path.head ∉ Fields.names projection) :
    (document.project projection).lookup? path = document.lookup? path := by
  apply lookup?_congr
  rw [get?_project h, if_neg hhead]

end

/--
Nothing is found at the fields that a projection names, and paths that part from all of them are read as before.
-/
structure Hides (projection document projected : Document) : Prop where
  hidden : ∀ field ∈ Fields.names projection, projected.lookup? (.ofString field) = none
  kept : ∀ other : String, (∀ field ∈ Fields.names projection, (Path.ofString field).Apart (.ofString other)) →
    projected.lookup? (.ofString other) = document.lookup? (.ofString other)

theorem hides_project_iff {projection : Document} (h : ∀ field ∈ projection, field.2.isSet = false)
    (document : Document) :
    Hides projection document (document.project projection)
      ↔
    ∀ field ∈ Fields.names projection,
      (Path.ofString field).head ∈ Fields.names projection ∨ document.lookup? (.ofString field) = none := by
  constructor
  · intro hhides field hfield
    by_cases hhead : (Path.ofString field).head ∈ Fields.names projection
    · exact .inl hhead
    · right
      rw [← lookup?_project_of_not_mem h document hhead]
      exact hhides.hidden field hfield
  · intro hnames
    constructor
    · intro field hfield
      by_cases hhead : (Path.ofString field).head ∈ Fields.names projection
      · exact lookup?_project_of_mem h document hhead
      · rw [lookup?_project_of_not_mem h document hhead]
        exact (hnames field hfield).resolve_left hhead
    · intro other hapart
      apply lookup?_project_of_not_mem h
      intro hhead
      -- the first segment of a path has no dot, so as a field it leads to the path
      have hfield := hapart _ hhead
      rw [Path.ofString_of_not_mem (Path.not_mem_head_ofString other)] at hfield
      exact hfield.1 (Path.leadsTo_of_tail_eq_nil rfl rfl)

theorem hides_project_iff_overlapping :
    let document : Document :=
      [("_id", .int32 1), ("title", .string "t"), ("meta", .document [("views", .int32 3)]),
        ("tags", .array [.string "a"])]
    let projection : Document :=
      [("_id", .double 0), ("meta.views", .bool false), ("meta", .null), ("tags.1", .int32 0)]
    (∀ field ∈ projection, field.2.isSet = false)
      ∧
    document.project projection = [("title", .string "t"), ("tags", .array [.string "a"])]
      ∧
    Hides projection document (document.project projection) := by
  intro document projection
  have hcleared : ∀ field ∈ projection, field.2.isSet = false := by decide
  refine ⟨hcleared, rfl, ?_⟩
  rw [hides_project_iff hcleared]
  decide

theorem not_hides_of_inner_field :
    let document : Document :=
      [("_id", .int32 1), ("meta", .document [("views", .int32 3), ("likes", .int32 1)])]
    let projection : Document := [("meta.views", .int32 0)]
    document.project projection = document
      ∧
    ¬Hides projection document (document.project projection) := by
  intro document projection
  refine ⟨rfl, ?_⟩
  intro hhides
  cases hhides.hidden "meta.views" List.mem_cons_self

end Document
end DocQuery
