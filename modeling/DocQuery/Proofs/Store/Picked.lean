import DocQuery.Proofs.Predicate.Reach
import DocQuery.Proofs.Store.Survival

/-!
This module contains updates whose predicate is met by one document of a collection: only this document
decides whether they succeed, and only this document changes.
-/

namespace DocQuery
namespace Predicate

/--
A predicate is decided on every document, and none meets it but the picked one.
-/
inductive Picks [Pattern.Engine] (predicate : Document) : List Document → Option Document → Prop where
  | nil : Picks predicate [] none
  | met {document rest} (h : holds document predicate = .ok true) (hrest : Picks predicate rest none) :
    Picks predicate (document :: rest) (some document)
  | unmet {document rest picked} (h : holds document predicate = .ok false)
    (hrest : Picks predicate rest picked) : Picks predicate (document :: rest) picked

variable [Pattern.Engine] {predicate : Document} {documents : List Document}

theorem Picks.ne_nil {document : Document} (h : Picks predicate documents (some document)) :
    documents ≠ [] := by
  rintro rfl
  cases h

theorem Picks.holds {document : Document} (h : Picks predicate documents (some document)) :
    holds document predicate = .ok true := by
  generalize hpicked : some document = picked at h
  induction h with
  | nil => cases hpicked
  | met hmet =>
    cases hpicked
    exact hmet
  | unmet _ _ ih => exact ih hpicked

theorem Picks.of_forall₂ {R : Document → Document → Prop} {after : List Document} {picked : Option Document}
    (h : Picks predicate documents picked) (hrel : List.Forall₂ R documents after)
    (hsame : ∀ before after, R before after →
      Predicate.holds after predicate = Predicate.holds before predicate) :
    ∃ pickedAfter, Picks predicate after pickedAfter ∧ Option.Rel R picked pickedAfter := by
  induction h generalizing after with
  | nil =>
    cases hrel
    exact ⟨none, .nil, .none⟩
  | met hmet _ ih =>
    cases hrel with
    | cons hfirst hrest =>
      rcases ih hrest with ⟨pickedAfter, hafter, hnone⟩
      cases hnone
      exact ⟨_, .met ((hsame _ _ hfirst).trans hmet) hafter, .some hfirst⟩
  | unmet hunmet _ ih =>
    cases hrel with
    | cons hfirst hrest =>
      rcases ih hrest with ⟨pickedAfter, hafter, hpicked⟩
      exact ⟨pickedAfter, .unmet ((hsame _ _ hfirst).trans hunmet) hafter, hpicked⟩

theorem holds_id_congr {document other : Document} (id : Value) (h : document.id? = other.id?) :
    Predicate.holds document [("_id", id)] = Predicate.holds other [("_id", id)] := by
  apply holds_congr
  intro path hpath
  have hhead : path.head = "_id" := by
    rw [paths, clausePaths_of_not_connective id (by decide)] at hpath
    rw [List.mem_singleton.mp hpath]
    decide
  rw [hhead]
  exact h

end Predicate

namespace Store

section

variable [Pattern.Engine] {predicate update : Document} {documents : List Document}

theorem patch?_of_unmet {document : Document} (h : Predicate.holds document predicate = .ok false) :
    patch? predicate update document = .ok none := by
  unfold patch?
  rw [h]
  rfl

theorem patch?_of_met {document patched : Document} (h : Predicate.holds document predicate = .ok true)
    (hok : document.update update = .ok patched) :
    patch? predicate update document = .ok (if patched.same document then none else some patched) := by
  unfold patch?
  rw [h, Outcome.ok_bind, if_pos rfl, hok]
  rfl

theorem patch?_of_met_error {document : Document} {failure : Failure}
    (h : Predicate.holds document predicate = .ok true) (hfail : document.update update = .error failure) :
    patch? predicate update document = .error failure := by
  unfold patch?
  rw [h, Outcome.ok_bind, if_pos rfl, hfail]
  rfl

theorem updateDocuments_of_picks_none {picked : Option Document} (h : Predicate.Picks predicate documents picked)
    (hnone : picked = none) : updateDocuments predicate update documents = (.ok 0, documents) := by
  induction h with
  | nil => rfl
  | met => cases hnone
  | unmet hunmet _ ih => rw [updateDocuments, patch?_of_unmet hunmet, ih hnone]

theorem updateDocuments_of_picks_error {document : Document} {failure : Failure}
    (h : Predicate.Picks predicate documents (some document))
    (hfail : patch? predicate update document = .error failure) :
    updateDocuments predicate update documents = (.error failure, documents) := by
  generalize hpicked : some document = picked at h
  induction h with
  | nil => cases hpicked
  | met =>
    cases hpicked
    rw [updateDocuments, hfail]
  | unmet hunmet _ ih => rw [updateDocuments, patch?_of_unmet hunmet, ih hpicked]

theorem updateDocuments_of_picks_ok {document : Document} {result : Option Document}
    (h : Predicate.Picks predicate documents (some document))
    (hok : patch? predicate update document = .ok result)
    (hmet : Predicate.holds (result.getD document) predicate = .ok true) :
    ∃ count after, updateDocuments predicate update documents = (.ok count, after)
      ∧ Predicate.Picks predicate after (some (result.getD document)) := by
  generalize hpicked : some document = picked at h
  induction h with
  | nil => cases hpicked
  | met _ hrest =>
    cases hpicked
    rw [updateDocuments, hok, updateDocuments_of_picks_none hrest rfl]
    cases result with
    | none => exact ⟨_, _, rfl, .met hmet hrest⟩
    | some => exact ⟨_, _, rfl, .met hmet hrest⟩
  | unmet hunmet _ ih =>
    rcases ih hpicked with ⟨count, after, hrest, hafter⟩
    rw [updateDocuments, patch?_of_unmet hunmet, hrest]
    exact ⟨count, _, rfl, .unmet hunmet hafter⟩

theorem get?_of_picks {store : Store} {collection : String} {document : Document}
    (h : Predicate.Picks predicate (store.documents collection) (some document)) :
    Fields.get? store.collections collection = some (store.documents collection) := by
  have hne := h.ne_nil
  unfold documents Collections.documents at hne ⊢
  cases hget : Fields.get? store.collections collection with
  | some => rfl
  | none =>
    rw [hget] at hne
    exact absurd rfl hne

end

end Store
end DocQuery
