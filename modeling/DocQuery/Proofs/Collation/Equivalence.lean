import DocQuery.Proofs.Collation.Equality
import DocQuery.Proofs.Double.Order

/-!
This module contains the proof that the equality of values is transitive, so that values in which every double
is a number fall into classes.
-/

namespace DocQuery

theorem Double.isNaN_of_beq {x y : Float} (h : (x == y) = true) : x.isNaN = false ∧ y.isNaN = false := by
  by_contra hnan
  have hnone : compare? x y = none := by
    apply compare?_of_isNaN
    simpa [or_iff_not_imp_left] using hnan
  unfold compare? at hnone
  rw [if_pos h] at hnone
  split at hnone <;> cases hnone

theorem Double.beq_trans {x y z : Float} (hxy : (x == y) = true) (hyz : (y == z) = true) :
    (x == z) = true := by
  rcases isNaN_of_beq hxy with ⟨hx, hy⟩
  rcases isNaN_of_beq hyz with ⟨-, hz⟩
  rw [beq_iff_units_eq hx hy] at hxy
  rw [beq_iff_units_eq hy hz] at hyz
  rw [beq_iff_units_eq hx hz, hxy, hyz]

namespace Collated

mutual

theorem same_trans : ∀ a b c : Collated, a.same b = true → b.same c = true → a.same c = true
  | .null, b, c, hab, hbc => by
    cases b with
    | null => exact hbc
    | _ => cases hab
  | .number x, b, c, hab, hbc => by
    cases b with
    | number y =>
      cases c with
      | number z => exact Double.beq_trans hab hbc
      | _ => cases hbc
    | _ => cases hab
  | .string s, b, c, hab, hbc => by
    cases b with
    | string t =>
      rw [eq_of_beq hab]
      exact hbc
    | _ => cases hab
  | .map as, b, c, hab, hbc => by
    cases b with
    | map bs =>
      cases c with
      | map cs => exact sameFields_trans as bs cs hab hbc
      | _ => cases hbc
    | _ => cases hab
  | .array as, b, c, hab, hbc => by
    cases b with
    | array bs =>
      cases c with
      | array cs => exact sameItems_trans as bs cs hab hbc
      | _ => cases hbc
    | _ => cases hab
  | .objectId i, b, c, hab, hbc => by
    cases b with
    | objectId j =>
      rw [eq_of_beq hab]
      exact hbc
    | _ => cases hab
  | .bool x, b, c, hab, hbc => by
    cases b with
    | bool y =>
      rw [eq_of_beq hab]
      exact hbc
    | _ => cases hab
  | .dateTime i, b, c, hab, hbc => by
    cases b with
    | dateTime j =>
      rw [eq_of_beq hab]
      exact hbc
    | _ => cases hab
  | .other s, b, c, hab, hbc => by
    cases b with
    | other t =>
      rw [eq_of_beq hab]
      exact hbc
    | _ => cases hab

theorem sameItems_trans : ∀ as bs cs : List Collated,
    sameItems as bs = true → sameItems bs cs = true → sameItems as cs = true
  | [], [], [], _, _ => rfl
  | a :: as, b :: bs, c :: cs, hab, hbc => by
    rw [sameItems, Bool.and_eq_true] at hab hbc ⊢
    exact ⟨same_trans a b c hab.1 hbc.1, sameItems_trans as bs cs hab.2 hbc.2⟩

theorem sameFields_trans : ∀ as bs cs : List (String × Collated),
    sameFields as bs = true → sameFields bs cs = true → sameFields as cs = true
  | [], [], [], _, _ => rfl
  | (l, a) :: as, (m, b) :: bs, (n, c) :: cs, hab, hbc => by
    rw [sameFields, Bool.and_eq_true, Bool.and_eq_true, beq_iff_eq] at hab hbc ⊢
    rcases hab with ⟨⟨hlm, hab⟩, habs⟩
    rcases hbc with ⟨⟨hmn, hbc⟩, hbcs⟩
    exact ⟨⟨hlm.trans hmn, same_trans a b c hab hbc⟩, sameFields_trans as bs cs habs hbcs⟩

end

end Collated

namespace Value

theorem equals_trans {a b c : Value} (hab : a.equals b = true) (hbc : b.equals c = true) :
    a.equals c = true :=
  Collated.same_trans _ _ _ hab hbc

theorem equals_iff_class_eq {a b : Value} (hb : b.holdsNumbers = true) :
    a.equals b = true ↔ a.equals = b.equals := by
  constructor
  · intro hab
    funext c
    rw [Bool.eq_iff_iff]
    constructor
    · intro hac
      rw [equals_comm] at hab
      exact equals_trans hab hac
    · exact equals_trans hab
  · intro hclass
    rw [hclass]
    exact equals_self b hb

end Value
end DocQuery
