import DocQuery.Failure

/-!
This module contains how outcomes are put together: one after the other, and as the two sides of a
conjunction or a disjunction that is looked at from the left.
-/

namespace DocQuery
namespace Outcome

theorem ok_bind {α β : Type} (value : α) (next : α → Outcome β) :
    (.ok value : Outcome α) >>= next = next value := rfl

theorem bind_eq_ok_iff {α β : Type} {first : Outcome α} {next : α → Outcome β} {result : β} :
    first >>= next = .ok result ↔ ∃ value, first = .ok value ∧ next value = .ok result := by
  constructor
  · intro h
    cases first with
    | error => cases h
    | ok value => exact ⟨value, rfl, h⟩
  · rintro ⟨value, hfirst, hnext⟩
    rw [hfirst]
    exact hnext

theorem map_eq_ok_iff {α β : Type} {f : α → β} {outcome : Outcome α} {result : β} :
    outcome.map f = .ok result ↔ ∃ value, outcome = .ok value ∧ f value = result := by
  cases outcome with
  | error | ok => simp [Except.map]

theorem map_eq_error_iff {α β : Type} {f : α → β} {outcome : Outcome α} {failure : Failure} :
    outcome.map f = .error failure ↔ outcome = .error failure := by
  cases outcome with
  | error | ok => simp [Except.map]

theorem isOk_map {α β : Type} (f : α → β) (outcome : Outcome α) : (outcome.map f).isOk = outcome.isOk := by
  cases outcome with
  | error | ok => rfl

def both (first second : Outcome Bool) : Outcome Bool := do
  if ← first then
    second
  else
    return false

def either (first second : Outcome Bool) : Outcome Bool := do
  if ← first then
    return true
  else
    second

@[simp]
theorem both_true (second : Outcome Bool) : both (.ok true) second = second := rfl

@[simp]
theorem both_false (second : Outcome Bool) : both (.ok false) second = .ok false := rfl

@[simp]
theorem both_error (failure : Failure) (second : Outcome Bool) :
    both (.error failure) second = .error failure := rfl

@[simp]
theorem both_true_right (first : Outcome Bool) : both first (.ok true) = first := by
  cases first with
  | error => rfl
  | ok b => cases b <;> rfl

theorem both_assoc (a b c : Outcome Bool) : both (both a b) c = both a (both b c) := by
  cases a with
  | error => rfl
  | ok a => cases a <;> rfl

theorem both_eq_true_iff {first second : Outcome Bool} :
    both first second = .ok true ↔ first = .ok true ∧ second = .ok true := by
  cases first with
  | error => simp
  | ok b => cases b <;> simp

theorem either_eq_true_iff {first second : Outcome Bool} :
    either first second = .ok true ↔ first = .ok true ∨ first = .ok false ∧ second = .ok true := by
  cases first with
  | error => simp [either, bind, Except.bind]
  | ok b => cases b <;> simp [either, bind, Except.bind, pure, Except.pure]

theorem exists_both {first second : Outcome Bool} (hfirst : ∃ met, first = .ok met)
    (hsecond : ∃ met, second = .ok met) : ∃ met, both first second = .ok met := by
  rcases hfirst with ⟨met, rfl⟩
  cases met with
  | false => exact ⟨false, rfl⟩
  | true => exact hsecond

theorem exists_either {first second : Outcome Bool} (hfirst : ∃ met, first = .ok met)
    (hsecond : ∃ met, second = .ok met) : ∃ met, either first second = .ok met := by
  rcases hfirst with ⟨met, rfl⟩
  cases met with
  | false => exact hsecond
  | true => exact ⟨true, rfl⟩

end Outcome

end DocQuery
