import DocQuery.Proofs.Predicate.Evaluation
import Mathlib.Data.List.Forall2

/-!
This module contains predicates that never fail, and predicates that ask for less than others. Both pass
from the clauses of a connective to the whole predicate.
-/

namespace DocQuery
namespace Predicate

open Outcome

variable [Pattern.Engine]

def NeverFails (predicate : Document) : Prop :=
  ∀ document, ∃ met, holds document predicate = .ok met

/--
The wider predicate never fails, and holds wherever the other one does.
-/
structure WidensTo (predicate wider : Document) : Prop where
  holds_of_holds : ∀ document, holds document predicate = .ok true → holds document wider = .ok true
  neverFails : NeverFails wider

theorem widensTo_self {predicate : Document} (h : NeverFails predicate) : WidensTo predicate predicate :=
  ⟨fun _ => id, h⟩

theorem widensTo_nil (predicate : Document) : WidensTo predicate [] :=
  ⟨fun _ _ => rfl, fun _ => ⟨true, rfl⟩⟩

theorem widensTo_append {first second first' second' : Document} (hfirst : WidensTo first first')
    (hsecond : WidensTo second second') : WidensTo (first ++ second) (first' ++ second') := by
  constructor
  · intro document h
    rw [holds_append, both_eq_true_iff] at h ⊢
    exact ⟨hfirst.holds_of_holds document h.1, hsecond.holds_of_holds document h.2⟩
  · intro document
    rw [holds_append]
    exact exists_both (hfirst.neverFails document) (hsecond.neverFails document)

section

variable {clauses wider : List Document} (h : List.Forall₂ WidensTo clauses wider)

include h

theorem widensTo_and :
    WidensTo [("$and", .array (clauses.map .document))] [("$and", .array (wider.map .document))] := by
  constructor
  · intro document
    rw [holds_and, holds_and]
    induction h with
    | nil => exact id
    | cons hfirst _ ih =>
      rw [List.map_cons, List.map_cons, allHold_cons, allHold_cons, both_eq_true_iff, both_eq_true_iff]
      intro hboth
      exact ⟨hfirst.holds_of_holds document hboth.1, ih hboth.2⟩
  · intro document
    rw [holds_and]
    induction h with
    | nil => exact ⟨true, rfl⟩
    | cons hfirst _ ih =>
      rw [List.map_cons, allHold_cons]
      exact exists_both (hfirst.neverFails document) ih

theorem widensTo_or :
    WidensTo [("$or", .array (clauses.map .document))] [("$or", .array (wider.map .document))] := by
  constructor
  · intro document
    rw [holds_or, holds_or]
    induction h with
    | nil => exact id
    | cons hfirst _ ih =>
      rw [List.map_cons, List.map_cons, anyHolds_cons, anyHolds_cons, either_eq_true_iff, either_eq_true_iff]
      rintro (hmet | ⟨_, hrest⟩)
      · exact Or.inl (hfirst.holds_of_holds document hmet)
      -- the wider clause may hold where the other one did not, but it does not fail
      · rcases hfirst.neverFails document with ⟨met, hmet⟩
        cases met with
        | true => exact Or.inl hmet
        | false => exact Or.inr ⟨hmet, ih hrest⟩
  · intro document
    rw [holds_or]
    induction h with
    | nil => exact ⟨false, rfl⟩
    | cons hfirst _ ih =>
      rw [List.map_cons, anyHolds_cons]
      exact exists_either (hfirst.neverFails document) ih

end

def ConditionNeverFails (condition : Value) : Prop :=
  ∀ value? : Option Value, ∃ met, meetsCondition value? condition = .ok met

theorem neverFails_of_conditions {predicate : Document}
    (h : ∀ clause ∈ predicate, isConnective clause.1 = false ∧ ConditionNeverFails clause.2) :
    NeverFails predicate := by
  intro document
  induction predicate with
  | nil => exact ⟨true, rfl⟩
  | cons clause rest ih =>
    rw [List.forall_mem_cons] at h
    rw [holds_cons, clauseHolds_of_not_connective _ _ h.1.1]
    exact exists_both (h.1.2 _) (ih h.2)

theorem conditionNeverFails_of_operators {ops : Document}
    (h : ∀ clause ∈ ops, clause.1 ≠ "$options" → ∀ value?, ∃ met,
      passes value? ops clause.1 clause.2 = .ok met) :
    ConditionNeverFails (.document ops) := by
  intro value?
  have hpasses : ∀ clauses ⊆ ops, ∃ met, passesAll value? ops clauses = .ok met := by
    intro clauses
    induction clauses with
    | nil => exact fun _ => ⟨true, rfl⟩
    | cons clause rest ih =>
      intro hsub
      rw [List.cons_subset] at hsub
      rw [passesAll]
      split
      · exact ih hsub.2
      · next hname => exact exists_both (h clause hsub.1 hname value?) (ih hsub.2)
  unfold meetsCondition
  dsimp only
  split
  · exact hpasses ops (List.Subset.refl ops)
  · exact ⟨_, rfl⟩

end Predicate
end DocQuery
