import DocQuery.Filter.Basic
import DocQuery.Proofs.Value.Distinct

/-!
This module contains the leaves of filter trees, and the fact that no filter a caller can read or build
names a field twice in one leaf.
-/

namespace DocQuery
namespace Filter

inductive EachLeaf (P : List (String × Condition) → Prop) : Filter → Prop where
  | fields {conditions} (h : P conditions) : EachLeaf P (.fields conditions)
  | logical {conjunct alternatives} (hc : ∀ filter, conjunct = some filter → EachLeaf P filter)
    (ha : ∀ members, alternatives = some members → ∀ filter ∈ members, EachLeaf P filter) :
    EachLeaf P (.logical conjunct alternatives)
  | any {members} (h : ∀ filter ∈ members, EachLeaf P filter) : EachLeaf P (.any members)

theorem EachLeaf.and {P Q : List (String × Condition) → Prop} {filter : Filter} (hp : EachLeaf P filter)
    (hq : EachLeaf Q filter) : EachLeaf (fun conditions => P conditions ∧ Q conditions) filter := by
  induction hp with
  | fields hp =>
    cases hq with
    | fields hq => exact .fields ⟨hp, hq⟩
  | logical _ _ ihc iha =>
    cases hq with
    | logical hc ha =>
      apply EachLeaf.logical
      · exact fun filter heq => ihc filter heq (hc filter heq)
      · exact fun members heq filter hmem => iha members heq filter hmem (ha members heq filter hmem)
  | any _ ih =>
    cases hq with
    | any hq => exact .any fun filter hmem => ih filter hmem (hq filter hmem)

/--
The filters that a caller can get hold of: read from a value, or built step by step.
-/
inductive Obtainable : Filter → Prop where
  | ofValue {value : Value} (h : value.hasDistinctNames = true) : Obtainable (.ofValue value)
  | empty : Obtainable .empty
  | conj {filter} (h : Obtainable filter) : Obtainable filter.conj
  | disj {members} (h : ∀ filter ∈ members, Obtainable filter) : Obtainable (disj members)
  | any {members} (h : ∀ filter ∈ members, Obtainable filter) : Obtainable (.any members)
  | orElse {filter members} (h : Obtainable filter) (hm : ∀ filter ∈ members, Obtainable filter) :
    Obtainable (filter.orElse members)
  | withCondition {filter} (field : String) (condition : Condition) (h : Obtainable filter) :
    Obtainable (filter.withCondition field condition)
  | withPair {filter} (field : String) (operator : Operator) (value : Value) (h : Obtainable filter) :
    Obtainable (filter.withPair field operator value)

def HasDistinctFields : Filter → Prop :=
  EachLeaf fun conditions => (Fields.names conditions).Nodup

theorem hasDistinctFields_empty : HasDistinctFields empty := by
  apply EachLeaf.fields
  simp [Fields.names]

mutual

theorem hasDistinctFields_ofValue : ∀ value : Value, value.hasDistinctNames = true →
    HasDistinctFields (ofValue value)
  | .document entries, h => by
    rw [Value.hasDistinctNames, Bool.and_eq_true, decide_eq_true_eq] at h
    have hc := hasDistinctFields_readConjunct entries h.2
    have ha := hasDistinctFields_readAlternatives entries h.2
    rw [ofValue]
    split
    -- a leaf keeps the names of the document it is read from
    · apply EachLeaf.fields
      rw [Fields.names, List.map_map]
      exact h.1
    · exact EachLeaf.logical hc ha
  | .array items, h => by
    rw [Value.hasDistinctNames] at h
    rw [ofValue]
    exact EachLeaf.any (hasDistinctFields_ofValues items h)
  | .null, _ | .undefined, _ | .bool _, _ | .int32 _, _ | .int64 _, _ | .double _, _ | .string _, _
  | .dateTime _, _ | .objectId _, _ | .regex _ _, _ | .binary _ _, _ | .timestamp _ _, _
  | .decimal _, _ | .symbol _, _ | .code _, _ | .codeWithScope _ _, _ | .minKey, _ | .maxKey, _ => by
    rw [ofValue]
    · exact hasDistinctFields_empty
    all_goals simp

theorem hasDistinctFields_ofValues : ∀ items : List Value, Value.itemsHaveDistinctNames items = true →
    ∀ filter ∈ ofValues items, HasDistinctFields filter
  | [], _ => by
    rw [ofValues]
    simp
  | item :: rest, h => by
    rw [Value.itemsHaveDistinctNames, Bool.and_eq_true] at h
    rw [ofValues]
    intro filter hmem
    cases List.mem_cons.mp hmem with
    | inl hfirst =>
      rw [hfirst]
      exact hasDistinctFields_ofValue item h.1
    | inr hrest => exact hasDistinctFields_ofValues rest h.2 filter hrest

theorem hasDistinctFields_readConjunct : ∀ entries : List (String × Value),
    Value.fieldsHaveDistinctNames entries = true →
      ∀ filter, readConjunct entries = some filter → HasDistinctFields filter
  | [], _ => by
    rw [readConjunct]
    simp
  | (name, value) :: rest, h => by
    rw [Value.fieldsHaveDistinctNames, Bool.and_eq_true] at h
    rw [readConjunct]
    intro filter hread
    split at hread
    · split at hread
      · cases hread
        exact hasDistinctFields_ofValue value h.1
      · cases hread
    · exact hasDistinctFields_readConjunct rest h.2 filter hread

theorem hasDistinctFields_readAlternatives : ∀ entries : List (String × Value),
    Value.fieldsHaveDistinctNames entries = true →
      ∀ members, readAlternatives entries = some members → ∀ filter ∈ members, HasDistinctFields filter
  | [], _ => by
    rw [readAlternatives]
    simp
  | (name, value) :: rest, h => by
    rw [Value.fieldsHaveDistinctNames, Bool.and_eq_true] at h
    intro members hread filter hmem
    unfold readAlternatives at hread
    split at hread
    · cases hread
    · next items _ heq =>
      cases heq
      split at hread
      · cases hread
        exact hasDistinctFields_ofValues items h.1 filter hmem
      · exact hasDistinctFields_readAlternatives rest h.2 members hread filter hmem
    · next heq =>
      cases heq
      split at hread
      · split at hread
        · cases hread
          rw [List.mem_singleton.mp hmem]
          exact hasDistinctFields_ofValue value h.1
        · cases hread
      · exact hasDistinctFields_readAlternatives rest h.2 members hread filter hmem

end

theorem hasDistinctFields_insert {conditions : List (String × Condition)} (field : String)
    (condition : Condition) (h : HasDistinctFields (.fields conditions)) :
    HasDistinctFields (.fields (Fields.insert conditions field condition)) := by
  cases h with
  | fields h =>
    apply EachLeaf.fields
    apply Fields.nodup_names_insert
    exact h

theorem hasDistinctFields_withCondition {filter : Filter} (field : String) (condition : Condition)
    (h : filter.HasDistinctFields) : (filter.withCondition field condition).HasDistinctFields := by
  unfold withCondition
  split
  · exact hasDistinctFields_insert field condition h
  · exact h

theorem hasDistinctFields_withPair {filter : Filter} (field : String) (operator : Operator)
    (value : Value) (h : filter.HasDistinctFields) :
    (filter.withPair field operator value).HasDistinctFields := by
  unfold withPair
  split
  · exact hasDistinctFields_insert field _ h
  · exact h

theorem hasDistinctFields_disj {members : List Filter} (h : ∀ filter ∈ members, HasDistinctFields filter) :
    HasDistinctFields (.logical none (some members)) := by
  apply EachLeaf.logical
  · intro _ hnone
    cases hnone
  · intro _ hsome
    cases hsome
    exact h

theorem hasDistinctFields_orElse {filter : Filter} {members : List Filter}
    (h : filter.HasDistinctFields) (hm : ∀ filter ∈ members, HasDistinctFields filter) :
    (filter.orElse members).HasDistinctFields := by
  unfold orElse
  split
  · cases h with
    | logical hc _ =>
      apply EachLeaf.logical hc
      intro _ hsome
      cases hsome
      exact hm
  · exact hasDistinctFields_disj hm

theorem Obtainable.hasDistinctFields {filter : Filter} (h : filter.Obtainable) :
    filter.HasDistinctFields := by
  induction h with
  | ofValue h => exact hasDistinctFields_ofValue _ h
  | empty => exact hasDistinctFields_empty
  | conj _ ih =>
    apply EachLeaf.logical
    · intro _ hsome
      cases hsome
      exact ih
    · intro _ hnone
      cases hnone
  | disj _ ih => exact hasDistinctFields_disj ih
  | any _ ih => exact EachLeaf.any ih
  | orElse _ _ ih ihm => exact hasDistinctFields_orElse ih ihm
  | withCondition field condition _ ih => exact hasDistinctFields_withCondition field condition ih
  | withPair field operator value _ ih => exact hasDistinctFields_withPair field operator value ih

end Filter
end DocQuery
