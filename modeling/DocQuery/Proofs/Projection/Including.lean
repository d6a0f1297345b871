import DocQuery.Projection
import DocQuery.Proofs.Path.Segments
import DocQuery.Proofs.Path.Writing
import Mathlib.Data.List.Basic
import Mathlib.Data.List.Induction

/-!
This module contains what a projection that names paths to keep shows. As long as none of the paths leads to
another one, each is read as before, nothing else is found, and to project again changes nothing.
-/

namespace DocQuery
namespace Document

def copyPath (source target : Document) (path : Path) : Document :=
  match source.lookup? path with
  | some value => target.set path value
  | none => target

/--
Some paths of a document have been copied. The copy reads at them as the document does, and whatever it has
is found below one of them or is a document on the way to one.
-/
structure Copied (source : Document) (paths : List Path) (target : Document) : Prop where
  same : ∀ path ∈ paths, target.lookup? path = source.lookup? path
  reached : ∀ other value, target.lookup? other = some value →
    ∃ path ∈ paths, (source.lookup? path).isSome
      ∧ (path.LeadsTo other ∨ other.LeadsTo path ∧ ∃ inner, value = .document inner)

variable {source target : Document} {paths : List Path} {path : Path}

theorem copied_nil : Copied source [] [] where
  same _ h := nomatch h
  reached _ _ h := nomatch h

theorem Copied.not_sharesArray (h : Copied source paths target) (hapart : ∀ copied ∈ paths, copied.Apart path)
    (other : Path) : ¬target.SharesArray path other := by
  rintro ⟨shared, items, hshared, -, hlookup⟩
  obtain ⟨copied, hcopied, -, hreached⟩ := h.reached shared _ hlookup
  rcases hreached with hleads | ⟨-, inner, hdocument⟩
  · exact (hapart copied hcopied).1 (hleads.trans hshared)
  · cases hdocument

theorem Copied.lookup?_eq_none (h : Copied source paths target) (hapart : ∀ copied ∈ paths, copied.Apart path) :
    target.lookup? path = none := by
  cases hlookup : target.lookup? path with
  | none => rfl
  | some value =>
    obtain ⟨copied, hcopied, -, hreached⟩ := h.reached path value hlookup
    rcases hreached with hleads | ⟨hleads, -⟩
    · exact absurd hleads (hapart copied hcopied).1
    · exact absurd hleads (hapart copied hcopied).2

theorem Copied.skip (h : Copied source paths target) (hapart : ∀ copied ∈ paths, copied.Apart path)
    (hsource : source.lookup? path = none) : Copied source (paths ++ [path]) target := by
  constructor
  · rw [List.forall_mem_append, List.forall_mem_singleton, h.lookup?_eq_none hapart, hsource]
    exact ⟨h.same, rfl⟩
  · intro other value hlookup
    obtain ⟨copied, hcopied, hreached⟩ := h.reached other value hlookup
    exact ⟨copied, List.mem_append_left _ hcopied, hreached⟩

theorem Copied.set {held : Value} (h : Copied source paths target)
    (hapart : ∀ copied ∈ paths, copied.Apart path) (hsource : source.lookup? path = some held) :
    Copied source (paths ++ [path]) (target.set path held) := by
  constructor
  · rw [List.forall_mem_append, List.forall_mem_singleton, lookup?_set, hsource]
    refine ⟨?_, rfl⟩
    intro copied hcopied
    have hsplit := hapart copied hcopied
    rw [lookup?_set_of_apart held ⟨hsplit.2, hsplit.1⟩ (h.not_sharesArray hapart copied)]
    exact h.same copied hcopied
  · intro other value hlookup
    by_cases hother : path.Apart other
    · rw [lookup?_set_of_apart held hother (h.not_sharesArray hapart other)] at hlookup
      obtain ⟨copied, hcopied, hreached⟩ := h.reached other value hlookup
      exact ⟨copied, List.mem_append_left _ hcopied, hreached⟩
    · refine ⟨path, List.mem_append_right _ (List.mem_singleton_self path), hsource ▸ rfl, ?_⟩
      by_cases hleads : path.LeadsTo other
      · exact .inl hleads
      · -- the other path is on the way to the one that is written
        have hback := (Path.not_apart_iff.mp hother).resolve_left hleads
        have hne : other ≠ path := fun heq => hleads (heq ▸ Path.leadsTo_refl other)
        obtain ⟨inner, hinner⟩ := target.lookup?_set_of_leadsTo held hback hne
        rw [hinner] at hlookup
        exact .inr ⟨hback, inner, (Option.some.inj hlookup).symm⟩

theorem Copied.copyPath (h : Copied source paths target) (hapart : ∀ copied ∈ paths, copied.Apart path) :
    Copied source (paths ++ [path]) (copyPath source target path) := by
  unfold Document.copyPath
  cases hsource : source.lookup? path with
  | none => exact h.skip hapart hsource
  | some held => exact h.set hapart hsource

theorem copied_foldl (source : Document) (h : paths.Pairwise Path.Apart) :
    Copied source paths (paths.foldl (copyPath source) []) := by
  induction paths using List.reverseRecOn with
  | nil => exact copied_nil
  | append_singleton paths path ih =>
    rw [List.pairwise_append] at h
    rw [List.foldl_append, List.foldl_cons, List.foldl_nil]
    apply (ih h.1).copyPath
    intro copied hcopied
    exact h.2.2 copied hcopied path (List.mem_singleton_self path)

theorem foldl_copyPath_congr {other : Document} (h : ∀ path ∈ paths, source.lookup? path = other.lookup? path)
    (target : Document) : paths.foldl (copyPath source) target = paths.foldl (copyPath other) target := by
  apply List.foldl_ext
  intro kept path hpath
  rw [copyPath, copyPath, h path hpath]

def keptPaths (projection : Document) : List Path :=
  (if (Fields.get? projection "_id").all (·.isSet) then [.ofString "_id"] else [])
    ++ (projection.filter fun (field, flag) => field ≠ "_id" && flag.isSet).map fun field => .ofString field.1

theorem copyPath_nil_id (document : Document) :
    copyPath document [] (.ofString "_id")
      =
    match Fields.get? document "_id" with
    | some id => [("_id", id)]
    | none => [] := by
  have hpath : Path.ofString "_id" = ⟨"_id", []⟩ := by decide
  rw [hpath, copyPath, lookup?]
  cases Fields.get? document "_id" with
  | none | some => rfl

theorem only_eq_foldl (document projection : Document) :
    document.only projection = (keptPaths projection).foldl (copyPath document) [] := by
  unfold only keptPaths
  rw [List.foldl_append, List.foldl_map]
  cases (Fields.get? projection "_id").all (·.isSet) with
  | true =>
    rw [if_pos rfl, List.foldl_cons, List.foldl_nil, copyPath_nil_id]
    rfl
  | false => cases Fields.get? document "_id" <;> rfl

/--
The paths that are shown read as in the document, and nothing is found but what is on the way to one of them or
below it.
-/
structure ShowsOnly (document : Document) (paths : List Path) (projected : Document) : Prop where
  shown : ∀ path ∈ paths, projected.lookup? path = document.lookup? path
  only : ∀ other value, projected.lookup? other = some value →
    ∃ path ∈ paths, other.LeadsTo path ∨ path.LeadsTo other

theorem showsOnly_project {projection : Document} (hinclusion : isInclusion projection = true)
    (hapart : (keptPaths projection).Pairwise Path.Apart) (document : Document) :
    ShowsOnly document (keptPaths projection) (document.project projection)
      ∧
    (document.project projection).project projection = document.project projection := by
  have honly : ∀ document : Document, document.project projection
      = (keptPaths projection).foldl (copyPath document) [] := by
    intro document
    rw [project, if_pos hinclusion, only_eq_foldl]
  have hcopied := copied_foldl document hapart
  rw [← honly] at hcopied
  constructor
  · refine ⟨hcopied.same, ?_⟩
    intro other value hlookup
    obtain ⟨path, hpath, -, hreached⟩ := hcopied.reached other value hlookup
    rcases hreached with hleads | ⟨hleads, -⟩
    · exact ⟨path, hpath, .inr hleads⟩
    · exact ⟨path, hpath, .inl hleads⟩
  -- the copy reads as the document wherever it is read again
  · rw [honly (document.project projection), foldl_copyPath_congr hcopied.same, ← honly]

theorem showsOnly_project_indexes :
    let document : Document :=
      [("title", .string "t"), ("tags", .array [.string "a", .string "b"]),
        ("meta", .document [("views", .int32 3), ("likes", .int32 1)]), ("_id", .int32 7)]
    let projection : Document :=
      [("tags.1", .int32 1), ("meta.likes", .bool true), ("title", .int32 0), ("meta.days.0", .int32 1),
        ("tags.7", .int32 1)]
    let projected : Document :=
      [("_id", .int32 7), ("tags", .document [("1", .string "b")]), ("meta", .document [("likes", .int32 1)])]
    isInclusion projection = true
      ∧
    (keptPaths projection).Pairwise Path.Apart
      ∧
    ShowsOnly document (keptPaths projection) projected
      ∧
    projected.project projection = projected := by
  intro document projection projected
  have hinclusion : isInclusion projection = true := by decide
  have hapart : (keptPaths projection).Pairwise Path.Apart := by decide
  exact ⟨hinclusion, hapart, showsOnly_project hinclusion hapart document⟩

end Document
end DocQuery
