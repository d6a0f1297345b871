import DocQuery.Proofs.Filter.Compound
import DocQuery.Proofs.Filter.Forgetting

/-!
This module contains what becomes of the documents that a filter lets through when a pair is added to one of its
fields. Other pairs of the field still count, and the pair takes away documents only. A literal or a range gives
way to it, and documents that failed it can come back.
-/

namespace DocQuery
namespace Fields

variable {α : Type} {P : String × α → Prop}

theorem forall_mem_iff_get? {fields : Fields α} (h : (names fields).Nodup) (key : String) :
    (∀ entry ∈ fields, P entry)
      ↔
    (∀ value, get? fields key = some value → P (key, value)) ∧ ∀ entry ∈ fields, entry.1 ≠ key → P entry := by
  constructor
  · intro hall
    exact ⟨fun value hget => hall _ (mem_of_get? hget), fun entry hentry _ => hall entry hentry⟩
  · rintro ⟨hkey, hothers⟩ entry hentry
    by_cases hname : entry.1 = key
    · subst hname
      exact hkey entry.2 (get?_of_mem h hentry)
    · exact hothers entry hentry hname

theorem mem_insert_of_ne_iff {fields : Fields α} {key : String} {value : α} {entry : String × α}
    (h : entry.1 ≠ key) : entry ∈ insert fields key value ↔ entry ∈ fields := by
  have hne : entry ≠ (key, value) := fun heq => h (congrArg Prod.fst heq)
  induction fields with
  | nil => simp [insert, hne]
  | cons field rest ih =>
    rw [insert]
    split
    · next hkey =>
      have hfield : entry ≠ field := fun heq => h (heq ▸ hkey)
      rw [List.mem_cons, List.mem_cons, or_iff_right hfield, or_iff_right (hkey ▸ hne)]
    · rw [List.mem_cons, List.mem_cons]
      exact or_congr_right ih

theorem forall_mem_insert_iff {fields : Fields α} (h : (names fields).Nodup) (key : String) (value : α) :
    (∀ entry ∈ insert fields key value, P entry)
      ↔
    P (key, value) ∧ ∀ entry ∈ fields, entry.1 ≠ key → P entry := by
  rw [forall_mem_iff_get? (nodup_names_insert fields key value h) key]
  apply and_congr
  · simp
  · apply forall_congr'
    intro entry
    constructor
    · exact fun hothers hentry hname => hothers ((mem_insert_of_ne_iff hname).mpr hentry) hname
    · exact fun hothers hentry hname => hothers ((mem_insert_of_ne_iff hname).mp hentry) hname

end Fields

namespace Condition

def takesPairs : Condition → Bool
  | equals _ => false
  | between _ _ => false
  | all _ => true

/--
Does no pair of a list have a native operator of a new pair?
-/
def Apart (pairs : List (Operator × Value)) (operator : Operator) (value : Value) : Prop :=
  ∀ pair ∈ pairs, (Fields.names (pair.1.compile pair.2)).Disjoint (Fields.names (operator.compile value))

variable {pairs : List (Operator × Value)} {operator : Operator} {value : Value}

theorem Apart.of_ne (h : ∀ pair ∈ pairs, pair.1 ≠ operator) (value : Value) : Apart pairs operator value := by
  intro pair hpair name hold hnew
  apply h pair hpair
  exact Operator.eq_of_mem_nativeNames (Operator.mem_nativeNames_of_mem hold) (Operator.mem_nativeNames_of_mem hnew)

theorem compilePairs_append_singleton (h : Apart pairs operator value) :
    compilePairs (pairs ++ [(operator, value)]) = compilePairs pairs ++ operator.compile value := by
  have hmerge : compilePairs (pairs ++ [(operator, value)])
      = Fields.merge (compilePairs pairs) (operator.compile value) := by
    rw [compilePairs, List.foldl_append]
    rfl
  rw [hmerge]
  apply Fields.merge_of_nodup
  rw [Fields.names, List.map_append, List.nodup_append]
  refine ⟨nodup_names_compilePairs pairs, Operator.nodup_names_compile operator value, ?_⟩
  rintro name hold _ hnew rfl
  obtain ⟨clause, hclause, rfl⟩ := List.mem_map.mp hold
  obtain ⟨pair, hpair, hcompiled⟩ := (mem_compilePairs_iff pairs clause).mp hclause
  have hmem : pair ∈ pairs := (mem_iff_lasting_or_replaced pair pairs).mpr (.inl hpair)
  exact h pair hmem (List.mem_map_of_mem hcompiled) hnew

theorem compilePairs_singleton (operator : Operator) (value : Value) :
    compilePairs [(operator, value)] = operator.compile value :=
  Fields.ofList_of_nodup (Operator.nodup_names_compile operator value)

theorem holdsAt_append_singleton [Pattern.Engine] (h : Apart pairs operator value) (field : String)
    (document : Document) :
    (all (pairs ++ [(operator, value)])).holdsAt field document
      ↔
    (all pairs).holdsAt field document ∧ (op operator value).holdsAt field document := by
  rw [op, holdsAt_all_iff, holdsAt_all_iff, holdsAt_all_iff, compilePairs_append_singleton h,
    compilePairs_singleton, List.forall_mem_append]

end Condition

namespace Filter

section

variable [Pattern.Engine]

def Matches (filter : Filter) (document : Document) : Prop :=
  Predicate.holds document filter.compile = .ok true

theorem matches_fields_iff {conditions : List (String × Condition)} (h : (Fields.names conditions).Nodup)
    (document : Document) :
    Matches (.fields conditions) document ↔ ∀ entry ∈ conditions, entry.2.holdsAt entry.1 document := by
  rw [Matches, compile, holds_compileFields document conditions h, leafMeaning_eq_true_iff]

omit [Pattern.Engine] in
theorem Obtainable.nodup_names {conditions : List (String × Condition)} (h : Obtainable (.fields conditions)) :
    (Fields.names conditions).Nodup := by
  cases h.hasDistinctFields with
  | fields hnodup => exact hnodup

theorem exists_withPair_eq {conditions : List (String × Condition)} {field : String} {operator : Operator}
    {value : Value}
    (hapart : ∀ pairs, Fields.get? conditions field = some (.all pairs) → Condition.Apart pairs operator value) :
    ∃ condition : Condition,
      (Filter.fields conditions).withPair field operator value = .fields (Fields.insert conditions field condition)
        ∧
      ∀ document, condition.holdsAt field document
        ↔ (Condition.op operator value).holdsAt field document
          ∧ ∀ old, Fields.get? conditions field = some old → old.takesPairs = true → old.holdsAt field document := by
  refine ⟨_, rfl, ?_⟩
  intro document
  cases hfound : Fields.get? conditions field with
  | none => simp [Condition.op]
  | some old =>
    cases old with
    | equals | between => simp [Condition.op, Condition.takesPairs]
    | all pairs =>
      dsimp only
      rw [Condition.holdsAt_append_singleton (hapart pairs hfound), and_comm]
      simp [Condition.takesPairs]

section

variable {conditions : List (String × Condition)} (h : (Fields.names conditions).Nodup) {field : String}
  {operator : Operator} {value : Value}
  (hapart : ∀ pairs, Fields.get? conditions field = some (.all pairs) → Condition.Apart pairs operator value)

include h hapart

theorem matches_withPair_iff (document : Document) :
    Matches ((Filter.fields conditions).withPair field operator value) document
      ↔
    (Condition.op operator value).holdsAt field document
      ∧ ∀ entry ∈ conditions, (entry.1 = field → entry.2.takesPairs = true) →
        entry.2.holdsAt entry.1 document := by
  obtain ⟨condition, hwith, hholds⟩ := exists_withPair_eq hapart
  have hkept := Fields.forall_mem_iff_get? (P := fun entry =>
    (entry.1 = field → entry.2.takesPairs = true) → entry.2.holdsAt entry.1 document) h field
  rw [hwith, matches_fields_iff (Fields.nodup_names_insert _ _ _ h), Fields.forall_mem_insert_iff h, hkept,
    hholds, and_assoc]
  apply and_congr_right'
  apply and_congr
  · simp
  · apply forall₃_congr
    intro entry _ hname
    exact ⟨fun hholds _ => hholds, fun hholds => hholds fun heq => absurd heq hname⟩

theorem matches_of_matches_withPair_iff (document : Document) :
    (Matches ((Filter.fields conditions).withPair field operator value) document →
        Matches (.fields conditions) document)
      ↔
    (Matches ((Filter.fields conditions).withPair field operator value) document →
      ∀ old, Fields.get? conditions field = some old → old.takesPairs = false → old.holdsAt field document) := by
  apply forall_congr'
  intro hmatches
  rw [matches_withPair_iff h hapart] at hmatches
  rw [matches_fields_iff h, Fields.forall_mem_iff_get? h field]
  constructor
  · exact fun hall old hold _ => hall.1 old hold
  · intro hdisplaced
    constructor
    · intro old hold
      cases hpairs : old.takesPairs with
      | false => exact hdisplaced old hold hpairs
      | true => exact hmatches.2 (field, old) (Fields.mem_of_get? hold) fun _ => hpairs
    · exact fun entry hentry hname => hmatches.2 entry hentry fun heq => absurd heq hname

end

theorem withPair_narrows_iff {conditions : List (String × Condition)} (hobtainable : Obtainable (.fields conditions))
    {field : String} {operator : Operator} {value : Value}
    (hapart : ∀ pairs, Fields.get? conditions field = some (.all pairs) → Condition.Apart pairs operator value)
    (document : Document) :
    (Matches ((Filter.fields conditions).withPair field operator value) document
        ↔
      (Condition.op operator value).holdsAt field document
        ∧ ∀ entry ∈ conditions, (entry.1 = field → entry.2.takesPairs = true) →
          entry.2.holdsAt entry.1 document)
      ∧
    ((Matches ((Filter.fields conditions).withPair field operator value) document →
        Matches (.fields conditions) document)
      ↔
    (Matches ((Filter.fields conditions).withPair field operator value) document →
      ∀ old, Fields.get? conditions field = some old → old.takesPairs = false →
        old.holdsAt field document)) :=
  ⟨matches_withPair_iff hobtainable.nodup_names hapart document,
    matches_of_matches_withPair_iff hobtainable.nodup_names hapart document⟩

end

theorem withPair_narrows_iff_pairs :
    let conditions : List (String × Condition) :=
      [("status", .equals (.int32 1)), ("age", .all [(.parse ">", .int32 18), (.parse "like", .string "")])]
    let document : Document := [("status", .array [.int32 0, .int32 1]), ("age", .int32 20)]
    Obtainable (.fields conditions)
      ∧
    (∀ pairs, Fields.get? conditions "age" = some (.all pairs) →
      Condition.Apart pairs (.parse "<") (.int32 65))
      ∧
    Matches ((Filter.fields conditions).withPair "age" (.parse "<") (.int32 65)) document
      ∧
    Matches (.fields conditions) document := by
  intro conditions document
  have hobtainable : Obtainable (.fields conditions) :=
    (((Obtainable.empty.withCondition "status" (.equals (.int32 1))).withPair "age" (.parse ">")
      (.int32 18)).withPair "age" (.parse "like") (.string ""))
  have hapart : ∀ pairs, Fields.get? conditions "age" = some (.all pairs) →
      Condition.Apart pairs (.parse "<") (.int32 65) := by
    intro pairs hpairs
    cases hpairs
    exact .of_ne (by decide) _
  have hmatches : Matches ((Filter.fields conditions).withPair "age" (.parse "<") (.int32 65)) document := rfl
  have hnarrows := (withPair_narrows_iff hobtainable hapart document).2
  refine ⟨hobtainable, hapart, hmatches, hnarrows.mpr ?_ hmatches⟩
  rintro - old hold hliteral
  cases hold
  cases hliteral

theorem not_narrows_of_literal :
    ¬∀ (conditions : List (String × Condition)) (field : String) (operator : Operator) (value : Value)
        (document : Document),
      Obtainable (.fields conditions) →
        (∀ pairs, Fields.get? conditions field = some (.all pairs) → Condition.Apart pairs operator value) →
          Matches ((Filter.fields conditions).withPair field operator value) document →
            Matches (.fields conditions) document := by
  intro h
  have hobtainable : Obtainable (.fields [("a", .equals (.int32 1))]) :=
    Obtainable.empty.withCondition "a" (.equals (.int32 1))
  have hapart : ∀ pairs, Fields.get? [("a", Condition.equals (.int32 1))] "a" = some (.all pairs) →
      Condition.Apart pairs (.parse "<") (.int32 5) := by
    intro pairs hpairs
    cases hpairs
  have hmatches := h _ "a" (.parse "<") (.int32 5) [("a", .int32 2)] hobtainable hapart rfl
  cases hmatches

end Filter
end DocQuery
