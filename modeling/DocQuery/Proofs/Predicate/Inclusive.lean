import DocQuery.Pattern.Standard
import DocQuery.Proofs.Collation.Agreement
import DocQuery.Proofs.Predicate.Evaluation

/-!
This module contains what an inclusive comparison has to do with a strict one and with equality. It is met where
one of the two is, as long as the field is there and the operand compares with the values that are equal to it.
-/

namespace DocQuery

namespace Value

def isComparable (value : Value) : Bool := value.collate.isComparable

def candidates : Option Value → List Value
  | none => []
  | some (.array items) => .array items :: items
  | some value => [value]

end Value

open Value

theorem meetsLiteral_some_iff (value literal : Value) :
    meetsLiteral (some value) literal = true
      ↔
    ∃ candidate ∈ candidates (some value), candidate.equals literal = true := by
  unfold meetsLiteral meets
  cases value with
  | array items => simp [candidates]
  | _ => simp [candidates]

namespace Predicate

theorem compares_iff (accept : Ordering → Bool) (value? : Option Value) (operand : Value) :
    compares accept value? operand = true
      ↔
    ∃ candidate ∈ candidates value?, ∃ ordering,
      candidate.collate.compare? operand.collate = some ordering ∧ accept ordering = true := by
  unfold compares
  cases value? with
  | none => simp [candidates]
  | some value =>
    rw [Option.any_some]
    unfold Value.compares
    cases value with
    | array items => simp [candidates, Option.any_eq_true]
    | _ => simp [candidates, Option.any_eq_true]

theorem isComparable_of_compares {accept : Ordering → Bool} {value? : Option Value} {operand : Value}
    (h : compares accept value? operand = true) : value?.isSome = true ∧ operand.isComparable = true := by
  obtain ⟨candidate, hcandidate, ordering, hcompare, -⟩ := (compares_iff accept value? operand).mp h
  refine ⟨?_, Collated.isComparable_of_compare? hcompare⟩
  cases value? with
  | none => cases hcandidate
  | some => rfl

theorem compares_inclusive_iff {strict inclusive : Ordering → Bool}
    (h : ∀ ordering, inclusive ordering = true ↔ strict ordering = true ∨ ordering = .eq)
    (value? : Option Value) (operand : Value) :
    compares inclusive value? operand = true
      ↔
    compares strict value? operand = true
      ∨ meetsLiteral value? operand = true ∧ value?.isSome = true ∧ operand.isComparable = true := by
  have hsplit : compares inclusive value? operand = true
      ↔ compares strict value? operand = true
        ∨ ∃ candidate ∈ candidates value?, candidate.collate.compare? operand.collate = some .eq := by
    rw [compares_iff, compares_iff]
    simp only [h, and_or_left, exists_or, exists_eq_right]
  rw [hsplit]
  apply or_congr_right
  simp only [Collated.compare?_eq_some_eq_iff]
  cases value? with
  | none => simp [candidates]
  | some value =>
    rw [meetsLiteral_some_iff, Option.isSome_some]
    simp only [← and_assoc, exists_and_right, true_and, equals, isComparable]

section

variable [Pattern.Engine]

def MeetsOperator (document : Document) (field op : String) (operand : Value) : Prop :=
  holds document [(field, .document [(op, operand)])] = .ok true

theorem meetsOperator_iff {document : Document} {field op : String} {operand : Value} {met : Bool}
    (hop : isMarked op = true) (hne : op ≠ "$options")
    (hpasses : passes (document.resolve? (.ofString field)) [(op, operand)] op operand = .ok met) :
    MeetsOperator document field op operand ↔ isConnective field = false ∧ met = true := by
  have hops : Document.isOperators [(op, operand)] = true := hop
  unfold MeetsOperator
  rw [holds_operators document field _ hops, passesAll_eq_true_iff, List.forall_mem_singleton]
  simp only [hne, ne_eq, not_false_eq_true, forall_const, hpasses, Except.ok.injEq]

structure IsComparison (op : String) (accept : Ordering → Bool) : Prop where
  marked : isMarked op = true
  ne_options : op ≠ "$options"
  passes_eq (value? : Option Value) (operand : Value) :
    passes value? [(op, operand)] op operand = .ok (compares accept value? operand)

theorem isComparison_gt : IsComparison "$gt" Ordering.isGT := ⟨by decide, by decide, fun _ _ => rfl⟩

theorem isComparison_gte : IsComparison "$gte" Ordering.isGE := ⟨by decide, by decide, fun _ _ => rfl⟩

theorem isComparison_lt : IsComparison "$lt" Ordering.isLT := ⟨by decide, by decide, fun _ _ => rfl⟩

theorem isComparison_lte : IsComparison "$lte" Ordering.isLE := ⟨by decide, by decide, fun _ _ => rfl⟩

/--
Are the inclusive comparisons of a field with an operand the strict ones or equality?
-/
structure ComparesInclusively (document : Document) (field : String) (operand : Value) : Prop where
  gte_iff : MeetsOperator document field "$gte" operand
    ↔ MeetsOperator document field "$gt" operand ∨ MeetsOperator document field "$eq" operand
  lte_iff : MeetsOperator document field "$lte" operand
    ↔ MeetsOperator document field "$lt" operand ∨ MeetsOperator document field "$eq" operand

end

section

variable [Pattern.Engine] (document : Document) (field : String) (operand : Value)

theorem IsComparison.meetsOperator_iff {op : String} {accept : Ordering → Bool} (h : IsComparison op accept) :
    MeetsOperator document field op operand
      ↔
    isConnective field = false ∧ compares accept (document.resolve? (.ofString field)) operand = true :=
  Predicate.meetsOperator_iff h.marked h.ne_options (h.passes_eq _ operand)

theorem meetsOperator_eq_iff :
    MeetsOperator document field "$eq" operand
      ↔
    isConnective field = false ∧ meetsLiteral (document.resolve? (.ofString field)) operand = true :=
  meetsOperator_iff (by decide) (by decide) rfl

theorem meetsOperator_inclusive_iff {strictOp op : String} {strict inclusive : Ordering → Bool}
    (hstrict : IsComparison strictOp strict) (hinclusive : IsComparison op inclusive)
    (haccept : ∀ ordering, inclusive ordering = true ↔ strict ordering = true ∨ ordering = .eq) :
    MeetsOperator document field op operand
      ↔
    MeetsOperator document field strictOp operand
      ∨ MeetsOperator document field "$eq" operand
        ∧ (document.resolve? (.ofString field)).isSome = true ∧ operand.isComparable = true := by
  rw [hinclusive.meetsOperator_iff, hstrict.meetsOperator_iff, meetsOperator_eq_iff,
    compares_inclusive_iff haccept, and_or_left, and_assoc]

theorem isComparable_of_meetsOperator_gt (h : MeetsOperator document field "$gt" operand) :
    (document.resolve? (.ofString field)).isSome = true ∧ operand.isComparable = true := by
  rw [isComparison_gt.meetsOperator_iff] at h
  exact isComparable_of_compares h.2

theorem isSome_of_meetsOperator_eq (hdefined : operand.isDefined = true)
    (h : MeetsOperator document field "$eq" operand) :
    (document.resolve? (.ofString field)).isSome = true := by
  rw [meetsOperator_eq_iff] at h
  cases hvalue : document.resolve? (.ofString field) with
  | some => rfl
  | none =>
    rw [hvalue, meetsLiteral_none, hdefined] at h
    cases h.2

theorem comparesInclusively_iff :
    (MeetsOperator document field "$gte" operand →
        MeetsOperator document field "$gt" operand ∨ MeetsOperator document field "$eq" operand)
      ∧
    (MeetsOperator document field "$lte" operand →
        MeetsOperator document field "$lt" operand ∨ MeetsOperator document field "$eq" operand)
      ∧
    (ComparesInclusively document field operand
      ↔
    (MeetsOperator document field "$eq" operand →
      (document.resolve? (.ofString field)).isSome = true ∧ operand.isComparable = true))
      ∧
    (operand.isDefined = true → operand.isComparable = true → ComparesInclusively document field operand) := by
  have hgte := meetsOperator_inclusive_iff document field operand isComparison_gt isComparison_gte (by decide)
  have hlte := meetsOperator_inclusive_iff document field operand isComparison_lt isComparison_lte (by decide)
  have hiff : ComparesInclusively document field operand
      ↔ (MeetsOperator document field "$eq" operand →
        (document.resolve? (.ofString field)).isSome = true ∧ operand.isComparable = true) := by
    constructor
    · intro hinclusive hequal
      -- an equal operand is accepted, and only a comparison can have done so
      rcases hgte.mp (hinclusive.gte_iff.mpr (.inr hequal)) with hstrict | ⟨-, hcompares⟩
      · exact isComparable_of_meetsOperator_gt document field operand hstrict
      · exact hcompares
    · intro hcompares
      have hequal := and_iff_left_of_imp hcompares
      constructor
      · rw [hgte, hequal]
      · rw [hlte, hequal]
  refine ⟨?_, ?_, hiff, ?_⟩
  · intro h
    exact (hgte.mp h).imp_right And.left
  · intro h
    exact (hlte.mp h).imp_right And.left
  · intro hdefined hcomparable
    rw [hiff]
    intro hequal
    exact ⟨isSome_of_meetsOperator_eq document field operand hdefined hequal, hcomparable⟩

end

theorem comparesInclusively_iff_dates :
    let document : Document := [("_id", .int32 1), ("days", .array [.null, .dateTime 5, .string "x"])]
    Value.isDefined (.dateTime 5) = true
      ∧
    Value.isComparable (.dateTime 5) = true
      ∧
    ComparesInclusively document "days" (.dateTime 5)
      ∧
    MeetsOperator document "days" "$gte" (.dateTime 5)
      ∧
    ¬MeetsOperator document "days" "$gt" (.dateTime 5) := by
  intro document
  have hinclusive := (comparesInclusively_iff document "days" (.dateTime 5)).2.2.2 rfl rfl
  have hequal : MeetsOperator document "days" "$eq" (.dateTime 5) := rfl
  refine ⟨rfl, rfl, hinclusive, hinclusive.gte_iff.mpr (.inr hequal), ?_⟩
  intro hstrict
  cases hstrict

theorem not_comparesInclusively_of_equal :
    ¬ComparesInclusively [("_id", .int32 1)] "a" .null
      ∧
    ¬ComparesInclusively [("a", .array [.int32 1, .int32 2])] "a" (.array [.int32 1, .int32 2])
      ∧
    ¬ComparesInclusively [("a", .timestamp 1 2)] "a" (.timestamp 1 2) := by
  refine ⟨?_, ?_, ?_⟩
  · intro hinclusive
    cases hinclusive.gte_iff.mpr (.inr rfl)
  · intro hinclusive
    cases hinclusive.gte_iff.mpr (.inr rfl)
  · intro hinclusive
    cases hinclusive.gte_iff.mpr (.inr rfl)

end Predicate
end DocQuery
