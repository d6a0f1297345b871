import DocQuery.Pattern.Standard
import DocQuery.Filter.Compile
import DocQuery.Proofs.Filter.Leaves
import DocQuery.Proofs.Predicate.Evaluation

/-!
This module contains the meaning of a filter tree, and the proof that the evaluation of the compiled tree
agrees with it, failures included.
-/

namespace DocQuery
namespace Filter

open Outcome

section

variable [Pattern.Engine]

def leafMeaning (document : Document) : List (String × Condition) → Outcome Bool
  | [] => .ok true
  | (field, condition) :: rest =>
    match condition.compile? with
    | none => leafMeaning document rest
    | some native => both (Predicate.holds document [(field, native)]) (leafMeaning document rest)

mutual

def meaning (document : Document) : Filter → Outcome Bool
  | .fields conditions => leafMeaning document conditions
  | .logical conjunct alternatives =>
    both (conjunctMeaning document conjunct) (alternativesMeaning document alternatives)
  | .any members => oneOf document members

def conjunctMeaning (document : Document) : Option Filter → Outcome Bool
  | none => .ok true
  | some (.any members) => allOf document members
  | some filter => meaning document filter

def alternativesMeaning (document : Document) : Option (List Filter) → Outcome Bool
  | none => .ok true
  | some members => oneOf document members

def allOf (document : Document) : List Filter → Outcome Bool
  | [] => .ok true
  | filter :: rest => both (meaning document filter) (allOf document rest)

def oneOf (document : Document) : List Filter → Outcome Bool
  | [] => .ok true
  | filter :: rest => either (meaning document filter) (someOf document rest)

def someOf (document : Document) : List Filter → Outcome Bool
  | [] => .ok false
  | filter :: rest => either (meaning document filter) (someOf document rest)

end

omit [Pattern.Engine] in
theorem names_compiled_sublist (conditions : List (String × Condition)) :
    (Fields.names (conditions.filterMap fun (field, condition) => condition.compile?.map (field, ·))).Sublist
      (Fields.names conditions) := by
  induction conditions with
  | nil => exact List.Sublist.slnil
  | cons entry rest ih =>
    rcases entry with ⟨field, condition⟩
    cases hc : condition.compile? with
    | none =>
      simp only [List.filterMap_cons, hc, Option.map_none]
      exact ih.cons _
    | some native =>
      simp only [List.filterMap_cons, hc, Option.map_some]
      exact ih.cons_cons _

theorem holds_compileFields (document : Document) (conditions : List (String × Condition))
    (h : (Fields.names conditions).Nodup) :
    Predicate.holds document (compileFields conditions) = leafMeaning document conditions := by
  -- without a repeated name nothing is overwritten, and the clauses stand in the order of the leaf
  rw [compileFields, Fields.ofList_of_nodup (h.sublist (names_compiled_sublist conditions))]
  induction conditions with
  | nil => rfl
  | cons entry rest ih =>
    rcases entry with ⟨field, condition⟩
    rw [Fields.names, List.map_cons, List.nodup_cons] at h
    rw [leafMeaning, ← ih h.2]
    cases hc : condition.compile? with
    | none => simp only [List.filterMap_cons, hc, Option.map_none]
    | some native =>
      simp only [List.filterMap_cons, hc, Option.map_some]
      rw [Predicate.holds_cons, Predicate.holds_singleton]

mutual

theorem holds_compile_of_hasDistinctFields (document : Document) : ∀ filter : Filter,
    filter.HasDistinctFields → Predicate.holds document filter.compile = filter.meaning document
  | .fields conditions, h => by
    cases h with
    | fields h =>
      rw [compile, meaning]
      exact holds_compileFields document conditions h
  | .logical conjunct none, h => by
    cases h with
    | logical hc _ =>
      rw [compile, meaning, alternativesMeaning, List.append_nil, both_true_right]
      exact holds_compileConjunct document conjunct hc
  | .logical conjunct (some []), h => by
    cases h with
    | logical hc _ =>
      rw [compile, meaning, alternativesMeaning, oneOf, List.append_nil, both_true_right]
      exact holds_compileConjunct document conjunct hc
  | .logical conjunct (some (first :: rest)), h => by
    cases h with
    | logical hc ha =>
      -- the conjunct is looked at first, then the alternatives up to one that holds
      have ha := List.forall_mem_cons.mp (ha _ rfl)
      rw [compile, meaning, Predicate.holds_append, Predicate.holds_or]
      rw [alternativesMeaning, oneOf, List.map_cons, Predicate.anyHolds_cons]
      rw [holds_compileConjunct document conjunct hc]
      rw [holds_compile_of_hasDistinctFields document first ha.1]
      rw [anyHolds_compileAll document rest ha.2]
  | .any [], _ => by
    rw [compile, meaning, oneOf]
    rfl
  | .any (first :: rest), h => by
    cases h with
    | any h =>
      rw [List.forall_mem_cons] at h
      rw [compile, meaning, Predicate.holds_or, oneOf, List.map_cons, Predicate.anyHolds_cons]
      rw [holds_compile_of_hasDistinctFields document first h.1]
      rw [anyHolds_compileAll document rest h.2]

theorem holds_compileConjunct (document : Document) : ∀ conjunct : Option Filter,
    (∀ filter, conjunct = some filter → filter.HasDistinctFields) →
      Predicate.holds document (compileConjunct conjunct) = conjunctMeaning document conjunct
  | none, _ => rfl
  | some (.any []), _ => by
    rw [compileConjunct, conjunctMeaning, allOf]
    rfl
  | some (.any (first :: rest)), h => by
    cases h _ rfl with
    | any h =>
      rw [List.forall_mem_cons] at h
      rw [compileConjunct, conjunctMeaning, Predicate.holds_and, allOf, List.map_cons,
        Predicate.allHold_cons]
      rw [holds_compile_of_hasDistinctFields document first h.1]
      rw [allHold_compileAll document rest h.2]
  -- the last equation of `compileConjunct` asks for a filter that is no list
  | some (.fields conditions), h => by
    rw [compileConjunct, conjunctMeaning, Predicate.holds_and_singleton]
    · exact holds_compile_of_hasDistinctFields document _ (h _ rfl)
    all_goals simp
  | some (.logical conjunct alternatives), h => by
    rw [compileConjunct, conjunctMeaning, Predicate.holds_and_singleton]
    · exact holds_compile_of_hasDistinctFields document _ (h _ rfl)
    all_goals simp

theorem allHold_compileAll (document : Document) : ∀ filters : List Filter,
    (∀ filter ∈ filters, filter.HasDistinctFields) →
      Predicate.allHold document ((compileAll filters).map .document) = allOf document filters
  | [], _ => rfl
  | first :: rest, h => by
    rw [List.forall_mem_cons] at h
    rw [compileAll, allOf, List.map_cons, Predicate.allHold_cons]
    rw [holds_compile_of_hasDistinctFields document first h.1]
    rw [allHold_compileAll document rest h.2]

theorem anyHolds_compileAll (document : Document) : ∀ filters : List Filter,
    (∀ filter ∈ filters, filter.HasDistinctFields) →
      Predicate.anyHolds document ((compileAll filters).map .document) = someOf document filters
  | [], _ => rfl
  | first :: rest, h => by
    rw [List.forall_mem_cons] at h
    rw [compileAll, someOf, List.map_cons, Predicate.anyHolds_cons]
    rw [holds_compile_of_hasDistinctFields document first h.1]
    rw [anyHolds_compileAll document rest h.2]

end

theorem holds_compile_eq_meaning {filter : Filter} (h : filter.Obtainable) (document : Document) :
    Predicate.holds document filter.compile = filter.meaning document := by
  apply holds_compile_of_hasDistinctFields
  exact h.hasDistinctFields

end

theorem holds_compile_eq_meaning_nested :
    ((conj (.any [empty.withEquals "a" (.int32 1), empty.withPair "b" .like (.string "(")])).orElse
        [empty.withEquals "c" .null, .any []]).Obtainable
      ∧
    Predicate.holds [("a", .array [.int32 1, .int32 2]), ("b", .string "(")]
        ((conj (.any [empty.withEquals "a" (.int32 1), empty.withPair "b" .like (.string "(")])).orElse
          [empty.withEquals "c" .null, .any []]).compile
      =
    ((conj (.any [empty.withEquals "a" (.int32 1), empty.withPair "b" .like (.string "(")])).orElse
      [empty.withEquals "c" .null, .any []]).meaning
        [("a", .array [.int32 1, .int32 2]), ("b", .string "(")] := by
  have hobtainable : ((conj (.any [empty.withEquals "a" (.int32 1),
      empty.withPair "b" .like (.string "(")])).orElse
        [empty.withEquals "c" .null, .any []]).Obtainable := by
    apply Obtainable.orElse
    · apply Obtainable.conj
      apply Obtainable.any
      simp only [List.forall_mem_cons, List.not_mem_nil, false_implies, implies_true, and_true]
      exact ⟨.withCondition _ _ .empty, .withPair _ _ _ .empty⟩
    · simp only [List.forall_mem_cons, List.not_mem_nil, false_implies, implies_true, and_true]
      exact ⟨.withCondition _ _ .empty, .any (by simp)⟩
  exact ⟨hobtainable, holds_compile_eq_meaning hobtainable _⟩

end Filter
end DocQuery
