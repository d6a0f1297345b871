import DocQuery.Filter.Compile
import DocQuery.Proofs.Filter.Leaves
import DocQuery.Proofs.Predicate.Widening

/-!
This module contains filters of one shape that only differ in their leaves. If the leaves of one are compiled
to wider predicates than those of the other, so is the whole filter.
-/

namespace DocQuery
namespace Filter

inductive Leafwise (R : List (String × Condition) → List (String × Condition) → Prop) :
    Filter → Filter → Prop where
  | fields {conditions conditions'} (h : R conditions conditions') :
    Leafwise R (.fields conditions) (.fields conditions')
  | logical {conjunct conjunct' alternatives alternatives'}
    (hc : Option.Rel (Leafwise R) conjunct conjunct')
    (ha : Option.Rel (List.Forall₂ (Leafwise R)) alternatives alternatives') :
    Leafwise R (.logical conjunct alternatives) (.logical conjunct' alternatives')
  | any {members members'} (h : List.Forall₂ (Leafwise R) members members') :
    Leafwise R (.any members) (.any members')

def WidensLeaves [Pattern.Engine] (P : List (String × Condition) → Prop)
    (R : List (String × Condition) → List (String × Condition) → Prop) : Prop :=
  ∀ conditions conditions', P conditions → R conditions conditions' →
    Predicate.WidensTo (compileFields conditions) (compileFields conditions')

variable {P : List (String × Condition) → Prop}
  {R : List (String × Condition) → List (String × Condition) → Prop}

theorem leafwise_self (hself : ∀ conditions, P conditions → R conditions conditions) {filter : Filter}
    (h : EachLeaf P filter) : Leafwise R filter filter := by
  induction h with
  | fields h => exact .fields (hself _ h)
  | @logical conjunct alternatives _ _ ihc iha =>
    apply Leafwise.logical
    · cases conjunct with
      | none => exact .none
      | some filter => exact .some (ihc filter rfl)
    · cases alternatives with
      | none => exact .none
      | some members => exact .some (List.forall₂_same.mpr (iha members rfl))
  | any _ ih => exact .any (List.forall₂_same.mpr ih)

variable [Pattern.Engine]

mutual

theorem widensTo_compile (hleaf : WidensLeaves P R) : ∀ filter filter' : Filter, EachLeaf P filter →
    Leafwise R filter filter' → Predicate.WidensTo filter.compile filter'.compile
  | .fields conditions, _, h, hrel => by
    cases hrel with
    | fields hrel =>
      cases h with
      | fields h =>
        rw [compile, compile]
        exact hleaf _ _ h hrel
  | .logical conjunct none, _, h, hrel => by
    cases hrel with
    | logical hrelc hrela =>
      cases h with
      | logical hc _ =>
        cases hrela
        rw [compile, compile, List.append_nil, List.append_nil]
        exact widensTo_compileConjunct hleaf conjunct _ hc hrelc
  | .logical conjunct (some []), _, h, hrel => by
    cases hrel with
    | logical hrelc hrela =>
      cases h with
      | logical hc _ =>
        rcases hrela with ⟨⟨⟩⟩
        rw [compile, compile, List.append_nil, List.append_nil]
        exact widensTo_compileConjunct hleaf conjunct _ hc hrelc
  | .logical conjunct (some (first :: rest)), _, h, hrel => by
    cases hrel with
    | logical hrelc hrela =>
      cases h with
      | logical hc ha =>
        rcases hrela with ⟨hrelm⟩
        -- the predicates of both parts stand one after the other
        have hall := widensTo_compileAll hleaf (first :: rest) _ (ha _ rfl) hrelm
        cases hrelm
        rw [compile, compile]
        apply Predicate.widensTo_append
        · exact widensTo_compileConjunct hleaf conjunct _ hc hrelc
        · exact Predicate.widensTo_or hall
  | .any [], _, _, hrel => by
    cases hrel with
    | any hrel =>
      cases hrel
      rw [compile]
      exact Predicate.widensTo_nil _
  | .any (first :: rest), _, h, hrel => by
    cases hrel with
    | any hrel =>
      cases h with
      | any h =>
        have hall := widensTo_compileAll hleaf (first :: rest) _ h hrel
        cases hrel
        rw [compile, compile]
        exact Predicate.widensTo_or hall

theorem widensTo_compileConjunct (hleaf : WidensLeaves P R) : ∀ conjunct conjunct' : Option Filter,
    (∀ filter, conjunct = some filter → EachLeaf P filter) →
      Option.Rel (Leafwise R) conjunct conjunct' →
        Predicate.WidensTo (compileConjunct conjunct) (compileConjunct conjunct')
  | none, _, _, hrel => by
    cases hrel
    exact Predicate.widensTo_nil _
  | some (.any []), _, _, hrel => by
    cases hrel with
    | some hrel =>
      cases hrel with
      | any hrel =>
        cases hrel
        rw [compileConjunct]
        exact Predicate.widensTo_nil _
  | some (.any (first :: rest)), _, h, hrel => by
    cases hrel with
    | some hrel =>
      cases hrel with
      | any hrel =>
        cases h _ rfl with
        | any h =>
          have hall := widensTo_compileAll hleaf (first :: rest) _ h hrel
          cases hrel
          rw [compileConjunct, compileConjunct]
          exact Predicate.widensTo_and hall
  -- a filter that is no list stands alone under `and`
  | some (.fields conditions), _, h, hrel => by
    cases hrel with
    | some hrel =>
      have hwidens := widensTo_compile hleaf _ _ (h _ rfl) hrel
      cases hrel
      rw [compileConjunct, compileConjunct]
      · exact Predicate.widensTo_and (.cons hwidens .nil)
      all_goals simp
  | some (.logical conjunct alternatives), _, h, hrel => by
    cases hrel with
    | some hrel =>
      have hwidens := widensTo_compile hleaf _ _ (h _ rfl) hrel
      cases hrel
      rw [compileConjunct, compileConjunct]
      · exact Predicate.widensTo_and (.cons hwidens .nil)
      all_goals simp

theorem widensTo_compileAll (hleaf : WidensLeaves P R) : ∀ filters filters' : List Filter,
    (∀ filter ∈ filters, EachLeaf P filter) → List.Forall₂ (Leafwise R) filters filters' →
      List.Forall₂ Predicate.WidensTo (compileAll filters) (compileAll filters')
  | [], _, _, hrel => by
    cases hrel
    rw [compileAll]
    exact .nil
  | first :: rest, _, h, hrel => by
    rw [List.forall_mem_cons] at h
    cases hrel with
    | cons hfirst hrest =>
      rw [compileAll, compileAll]
      apply List.Forall₂.cons
      · exact widensTo_compile hleaf first _ h.1 hfirst
      · exact widensTo_compileAll hleaf rest _ h.2 hrest

end

end Filter
end DocQuery
