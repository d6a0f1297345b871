import DocQuery.Proofs.Filter.Evaluable
import DocQuery.Proofs.Filter.Meaning

/-!
This module contains filters some of whose operators are forgotten, and the proof that forgetting only lets
more documents through. It needs every leaf to name a field once, and every native operator of a field to
have one pair: otherwise what is forgotten gives its place back to an earlier condition or pair.
-/

namespace DocQuery

theorem forall_mem_of_forall₂ {α β : Type} {R : α → β → Prop} {P : α → Prop} {Q : β → Prop}
    {items : List α} {others : List β} (hrel : List.Forall₂ R items others)
    (hstep : ∀ item other, R item other → P item → Q other) (h : ∀ item ∈ items, P item) :
    ∀ other ∈ others, Q other := by
  induction hrel with
  | nil => simp
  | cons hfirst _ ih =>
    rw [List.forall_mem_cons] at h ⊢
    exact ⟨hstep _ _ hfirst h.1, ih h.2⟩

namespace Condition

def ForgetsPair (pair wider : Operator × Value) : Prop :=
  wider = pair ∨ ∃ token, wider = (.unknown token, pair.2)

inductive Forgets : Condition → Condition → Prop where
  | refl (condition) : Forgets condition condition
  | all {pairs wider} (h : List.Forall₂ ForgetsPair pairs wider) : Forgets (.all pairs) (.all wider)

def UsesOnce : Condition → Prop
  | .all pairs => (pairs.flatMap fun pair => Fields.names (pair.1.compile pair.2)).Nodup
  | _ => True

instance : DecidablePred UsesOnce
  | .equals _ | .between _ _ => inferInstanceAs (Decidable True)
  | .all pairs =>
    inferInstanceAs (Decidable (pairs.flatMap fun pair => Fields.names (pair.1.compile pair.2)).Nodup)

theorem isEvaluable_of_forgets [Pattern.Engine] {condition wider : Condition}
    (hforgets : Forgets condition wider) (h : condition.IsEvaluable) : wider.IsEvaluable := by
  cases hforgets with
  | refl => exact h
  | all hpairs =>
    refine forall_mem_of_forall₂ hpairs ?_ h
    rintro pair _ (rfl | ⟨token, rfl⟩) hvalid
    · exact hvalid
    · intro hlike
      cases hlike

theorem compile_eq_nil_of_replaced {pairs : List (Operator × Value)} (h : (Condition.all pairs).UsesOnce) :
    ∀ pair ∈ replaced pairs, pair.1.compile pair.2 = [] := by
  induction pairs with
  | nil => simp [replaced]
  | cons pair rest ih =>
    rw [UsesOnce, List.flatMap_cons, List.nodup_append] at h
    rcases h with ⟨_, hrest, hdisjoint⟩
    rw [replaced]
    split
    · next hany =>
      rw [List.any_eq_true] at hany
      rcases hany with ⟨later, hlater, hreplaces⟩
      rw [List.forall_mem_cons]
      refine ⟨?_, ih hrest⟩
      -- a name of the first pair would be one of the later pair as well
      rw [List.eq_nil_iff_forall_not_mem]
      intro clause hclause
      have hname : clause.1 ∈ Fields.names (pair.1.compile pair.2) := List.mem_map_of_mem hclause
      refine hdisjoint clause.1 hname clause.1 ?_ rfl
      exact List.mem_flatMap.mpr ⟨later, hlater, mem_names_of_replaces hreplaces hname⟩
    · exact ih hrest

theorem holdsAt_of_forgets [Pattern.Engine] {condition wider : Condition} (hforgets : Forgets condition wider)
    (honce : condition.UsesOnce) {field : String} {document : Document}
    (h : condition.holdsAt field document) : wider.holdsAt field document := by
  cases hforgets with
  | refl => exact h
  | @all pairs wider hpairs =>
    rw [holdsAt_all_iff_lasting] at h ⊢
    have hreplaced : eachHolds field document (replaced pairs) := fun pair hmem hne =>
      absurd (compile_eq_nil_of_replaced honce pair hmem) hne
    have heach := (eachHolds_iff_lasting_and_replaced field document pairs).mpr ⟨h, hreplaced⟩
    have hwider : eachHolds field document wider := by
      refine forall_mem_of_forall₂ hpairs ?_ heach
      rintro pair _ (rfl | ⟨token, rfl⟩) hholds
      · exact hholds
      · intro hne
        exact absurd rfl hne
    exact ((eachHolds_iff_lasting_and_replaced field document wider).mp hwider).1

end Condition

namespace Filter

def ForgetsLeaf : List (String × Condition) → List (String × Condition) → Prop :=
  List.Forall₂ fun entry other => other.1 = entry.1 ∧ entry.2.Forgets other.2

/--
Two filters of one shape, the second of which has unknown operators in place of some of the first.
-/
def Forgets : Filter → Filter → Prop := Leafwise ForgetsLeaf

def UsesOnce : Filter → Prop := EachLeaf fun conditions => ∀ entry ∈ conditions, entry.2.UsesOnce

section

variable [Pattern.Engine]

theorem leafMeaning_eq_true_iff (document : Document) (conditions : List (String × Condition)) :
    leafMeaning document conditions = .ok true
      ↔
    ∀ entry ∈ conditions, entry.2.holdsAt entry.1 document := by
  induction conditions with
  | nil => simp [leafMeaning]
  | cons entry rest ih =>
    rw [leafMeaning, List.forall_mem_cons, ← ih]
    unfold Condition.holdsAt
    split
    · next hnone => simp [hnone]
    · next native hnative => simp [hnative, Outcome.both_eq_true_iff]

omit [Pattern.Engine] in
theorem names_of_forgetsLeaf {conditions wider : List (String × Condition)}
    (h : ForgetsLeaf conditions wider) : Fields.names wider = Fields.names conditions := by
  induction h with
  | nil => rfl
  | cons hfirst _ ih =>
    rw [Fields.names, List.map_cons, hfirst.1]
    exact congrArg _ ih

theorem widensLeaves_forgets :
    WidensLeaves (fun conditions => (Fields.names conditions).Nodup ∧ LeafIsEvaluable conditions ∧
      ∀ entry ∈ conditions, entry.2.UsesOnce) ForgetsLeaf := by
  rintro conditions wider ⟨hdistinct, hevaluable, honce⟩ hforgets
  constructor
  · intro document hholds
    rw [holds_compileFields _ _ hdistinct, leafMeaning_eq_true_iff] at hholds
    rw [← names_of_forgetsLeaf hforgets] at hdistinct
    rw [holds_compileFields _ _ hdistinct, leafMeaning_eq_true_iff]
    have hboth := fun entry hmem => And.intro (honce entry hmem) (hholds entry hmem)
    refine forall_mem_of_forall₂ hforgets ?_ hboth
    rintro entry other ⟨hname, hcondition⟩ ⟨honce, hholds⟩
    rw [hname]
    exact Condition.holdsAt_of_forgets hcondition honce hholds
  · apply neverFails_compileFields
    refine forall_mem_of_forall₂ hforgets ?_ hevaluable
    rintro entry other ⟨hname, hcondition⟩ ⟨hfield, hevaluable⟩
    rw [hname]
    exact ⟨hfield, Condition.isEvaluable_of_forgets hcondition hevaluable⟩

theorem holds_compile_of_forgets {filter wider : Filter} (hforgets : filter.Forgets wider)
    (hdistinct : filter.HasDistinctFields) (hevaluable : filter.IsEvaluable) (honce : filter.UsesOnce)
    {document : Document} (hholds : Predicate.holds document filter.compile = .ok true) :
    Predicate.holds document wider.compile = .ok true := by
  have hleaves := hdistinct.and (hevaluable.and honce)
  exact (widensTo_compile widensLeaves_forgets _ _ hleaves hforgets).holds_of_holds document hholds

end

theorem holds_compile_of_forgets_both_sides :
    let range : List (String × Condition) := [("a", .all [(.gte, .int32 1), (.lt, .int32 5)])]
    let halfRange : List (String × Condition) := [("a", .all [(.gte, .int32 1), (.unknown "<<", .int32 5)])]
    let search : List (String × Condition) := [("b", .all [(.like, .string "x")])]
    let noSearch : List (String × Condition) := [("b", .all [(.unknown "likes", .string "x")])]
    let filter : Filter := .logical (some (.fields range)) (some [.fields search])
    let wider : Filter := .logical (some (.fields halfRange)) (some [.fields noSearch])
    let document : Document := [("a", .int32 3), ("b", .string "axe")]
    (filter.Forgets wider ∧ filter.HasDistinctFields ∧ filter.IsEvaluable ∧ filter.UsesOnce ∧
        Predicate.holds document filter.compile = .ok true)
      ∧
    Predicate.holds document wider.compile = .ok true := by
  intro range halfRange search noSearch filter wider document
  have heach : ∀ P : List (String × Condition) → Prop, P range → P search → EachLeaf P filter := by
    intro P hrange hsearch
    apply EachLeaf.logical
    · rintro _ ⟨⟩
      exact .fields hrange
    · rintro _ ⟨⟩
      exact List.forall_mem_singleton.mpr (.fields hsearch)
  have hforgets : filter.Forgets wider := by
    apply Leafwise.logical
    · apply Option.Rel.some
      apply Leafwise.fields
      exact .cons ⟨rfl, .all (.cons (.inl rfl) (.cons (.inr ⟨_, rfl⟩) .nil))⟩ .nil
    · apply Option.Rel.some
      refine .cons (.fields ?_) .nil
      exact .cons ⟨rfl, .all (.cons (.inr ⟨_, rfl⟩) .nil)⟩ .nil
  have hdistinct : filter.HasDistinctFields := heach _ (by decide) (by decide)
  have hevaluable : filter.IsEvaluable := heach _ (by decide) (by decide +kernel)
  have honce : filter.UsesOnce := heach _ (by decide +kernel) (by decide +kernel)
  have hholds : Predicate.holds document filter.compile = .ok true := by
    rfl
  exact ⟨⟨hforgets, hdistinct, hevaluable, honce, hholds⟩,
    holds_compile_of_forgets hforgets hdistinct hevaluable honce hholds⟩

theorem not_widened_of_field_named_twice :
    ¬∀ (filter wider : Filter) (document : Document), filter.Forgets wider → filter.IsEvaluable →
      filter.UsesOnce → Predicate.holds document filter.compile = .ok true →
        Predicate.holds document wider.compile = .ok true := by
  intro h
  let above : String × Condition := ("a", .all [(.gt, .int32 5)])
  let below : String × Condition := ("a", .all [(.lt, .int32 10)])
  let forgotten : String × Condition := ("a", .all [(.unknown "<<", .int32 10)])
  have hforgets : Filter.Forgets (.fields [above, below]) (.fields [above, forgotten]) := by
    apply Leafwise.fields
    exact .cons ⟨rfl, .refl _⟩ (.cons ⟨rfl, .all (.cons (.inr ⟨_, rfl⟩) .nil)⟩ .nil)
  have hevaluable : Filter.IsEvaluable (.fields [above, below]) := .fields (by decide)
  have honce : Filter.UsesOnce (.fields [above, below]) := .fields (by decide +kernel)
  have hwider := h _ _ [("a", .int32 3)] hforgets hevaluable honce rfl
  cases hwider

end Filter
end DocQuery
