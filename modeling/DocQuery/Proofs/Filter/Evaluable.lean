import DocQuery.Pattern.Standard
import DocQuery.Proofs.Filter.Compound
import DocQuery.Proofs.Filter.Widening

/-!
This module contains the proof that the predicate of a filter can be evaluated on every document. Only its
literals matter for this, and the patterns that the engine is asked to take: everything that cannot be
understood asks for nothing.
-/

namespace DocQuery

theorem Predicate.exists_searches [Pattern.Engine] {pattern options : String} (value? : Option Value)
    (h : Pattern.isAccepted (.ofString options) pattern = true) :
    ∃ met, searches value? pattern options = .ok met := by
  rcases Pattern.isAccepted_iff.mp h with ⟨isIn, hcompile⟩
  unfold searches
  rw [hcompile]
  exact ⟨_, rfl⟩

namespace Condition

variable [Pattern.Engine]

def HasAcceptedPattern (pair : Operator × Value) : Prop :=
  pair.1 = .like → ∀ pattern ∈ Filter.likePattern? pair.2,
    Pattern.isAccepted (.ofString "i") pattern = true

instance (pair : Operator × Value) : Decidable (HasAcceptedPattern pair) :=
  inferInstanceAs (Decidable (pair.1 = .like → ∀ pattern ∈ Filter.likePattern? pair.2,
    Pattern.isAccepted (.ofString "i") pattern = true))

def IsEvaluable : Condition → Prop
  | .equals value => Predicate.isLiteral value = true
  | .between _ _ => True
  | .all pairs => ∀ pair ∈ pairs, HasAcceptedPattern pair

instance : DecidablePred IsEvaluable
  | .equals value => inferInstanceAs (Decidable (Predicate.isLiteral value = true))
  | .between _ _ => inferInstanceAs (Decidable True)
  | .all pairs => inferInstanceAs (Decidable (∀ pair ∈ pairs, HasAcceptedPattern pair))

theorem exists_passes {pair : Operator × Value} {clause : String × Value} {ops : Document}
    (h : HasAcceptedPattern pair) (hclause : clause ∈ pair.1.compile pair.2)
    (hname : clause.1 ≠ "$options")
    (hoptions : clause.1 = "$regex" → Predicate.patternOptions ops = "i") (value? : Option Value) :
    ∃ met, Predicate.passes value? ops clause.1 clause.2 = .ok met := by
  rcases pair with ⟨operator, operand⟩
  cases operator with
  | like =>
    unfold Operator.compile at hclause
    dsimp only at hclause
    split at hclause
    · next pattern hpattern =>
      rw [List.mem_cons, List.mem_singleton] at hclause
      rcases hclause with rfl | rfl
      · have haccepted := h rfl pattern hpattern
        rw [← hoptions rfl] at haccepted
        exact Predicate.exists_searches value? haccepted
      · exact absurd rfl hname
    · cases hclause
  | unknown token => cases hclause
  | _ =>
    cases List.mem_singleton.mp hclause
    exact ⟨_, rfl⟩

theorem conditionNeverFails {condition : Condition} {native : Value} (h : condition.IsEvaluable)
    (hnative : condition.compile? = some native) : Predicate.ConditionNeverFails native := by
  cases condition with
  | equals value =>
    cases hnative
    intro value?
    exact ⟨_, Predicate.meetsCondition_of_isLiteral value? h⟩
  | between low high =>
    cases hnative
    apply Predicate.conditionNeverFails_of_operators
    simp only [List.forall_mem_cons]
    exact ⟨fun _ _ => ⟨_, rfl⟩, fun _ _ => ⟨_, rfl⟩, by simp⟩
  | all pairs =>
    simp only [compile?] at hnative
    split at hnative
    · cases hnative
    · cases hnative
      apply Predicate.conditionNeverFails_of_operators
      intro clause hmem hname value?
      rcases (mem_compilePairs_iff pairs clause).mp hmem with ⟨pair, hpair, hclause⟩
      have hvalid := h pair ((mem_iff_lasting_or_replaced pair pairs).mpr (Or.inl hpair))
      apply exists_passes hvalid hclause hname
      intro hregex
      apply patternOptions_compilePairs
      rw [← hregex]
      exact List.mem_map_of_mem hmem

end Condition

namespace Filter

section

variable [Pattern.Engine]

def LeafIsEvaluable (conditions : List (String × Condition)) : Prop :=
  ∀ entry ∈ conditions, Predicate.isConnective entry.1 = false ∧ entry.2.IsEvaluable

instance : DecidablePred LeafIsEvaluable := fun conditions =>
  inferInstanceAs (Decidable (∀ entry ∈ conditions,
    Predicate.isConnective entry.1 = false ∧ entry.2.IsEvaluable))

/--
Can a filter be evaluated on every document? No field may be named like a connective.
-/
def IsEvaluable : Filter → Prop := EachLeaf LeafIsEvaluable

omit [Pattern.Engine] in
theorem mem_compileFields {conditions : List (String × Condition)} {clause : String × Value}
    (h : clause ∈ compileFields conditions) :
    ∃ condition, (clause.1, condition) ∈ conditions ∧ condition.compile? = some clause.2 := by
  rcases List.mem_filterMap.mp (Fields.mem_ofList h) with ⟨⟨field, condition⟩, hmem, hcompile⟩
  rcases Option.map_eq_some_iff.mp hcompile with ⟨native, hnative, rfl⟩
  exact ⟨condition, hmem, hnative⟩

theorem neverFails_compileFields {conditions : List (String × Condition)}
    (h : LeafIsEvaluable conditions) : Predicate.NeverFails (compileFields conditions) := by
  apply Predicate.neverFails_of_conditions
  intro clause hclause
  rcases mem_compileFields hclause with ⟨condition, hmem, hnative⟩
  exact ⟨(h _ hmem).1, Condition.conditionNeverFails (h _ hmem).2 hnative⟩

theorem neverFails_compile {filter : Filter} (h : filter.IsEvaluable) (document : Document) :
    ∃ met, Predicate.holds document filter.compile = .ok met := by
  -- what never fails widens to itself, and so do the leaves
  have hleaf : WidensLeaves LeafIsEvaluable Eq := by
    rintro conditions _ h rfl
    exact Predicate.widensTo_self (neverFails_compileFields h)
  have hself := leafwise_self (fun conditions _ => Eq.refl conditions) h
  exact (widensTo_compile hleaf filter filter h hself).neverFails document

end

theorem neverFails_compile_malformed :
    let filter : Filter := .logical
      (some (.fields [("a", .all [(.isIn, .string "1,2"), (.unknown "3", .null), (.like, .null)]),
        ("", .between (.array []) (.regex "(" ""))]))
      (some [.fields [("b", .all [(.like, .string "x|^y"), (.lt, .minKey)])], .empty])
    filter.IsEvaluable
      ∧
    ∃ met, Predicate.holds [("a", .int32 2), ("b", .string "yx")] filter.compile = .ok met := by
  intro filter
  have hevaluable : filter.IsEvaluable := by
    apply EachLeaf.logical
    · rintro _ ⟨⟩
      exact .fields (by decide +kernel)
    · rintro _ ⟨⟩
      simp only [List.forall_mem_cons, List.not_mem_nil, false_implies, implies_true, and_true]
      exact ⟨.fields (by decide +kernel), .fields (by decide)⟩
  exact ⟨hevaluable, neverFails_compile hevaluable _⟩

end Filter
end DocQuery
