import DocQuery.Collation
import DocQuery.Proofs.Double.Number

/-!
This module contains the laws of the equality that a store compares values by: it is the same from both
sides, and a value equals itself unless a double inside it is not a number.
-/

namespace DocQuery
namespace Collated

mutual

theorem same_comm : ∀ a b : Collated, a.same b = b.same a
  | .null, b => by cases b <;> rfl
  | .number x, b => by
    cases b with
    | number y => exact BEq.comm
    | _ => rfl
  | .string s, b => by
    cases b with
    | string t => exact Bool.beq_comm
    | _ => rfl
  | .map as, b => by
    cases b with
    | map bs => exact sameFields_comm as bs
    | _ => rfl
  | .array as, b => by
    cases b with
    | array bs => exact sameItems_comm as bs
    | _ => rfl
  | .objectId i, b => by
    cases b with
    | objectId j => exact Bool.beq_comm
    | _ => rfl
  | .bool x, b => by
    cases b with
    | bool y => exact Bool.beq_comm
    | _ => rfl
  | .dateTime i, b => by
    cases b with
    | dateTime j => exact Bool.beq_comm
    | _ => rfl
  | .other s, b => by
    cases b with
    | other t => exact Bool.beq_comm
    | _ => rfl

theorem sameItems_comm : ∀ as bs : List Collated, sameItems as bs = sameItems bs as
  | [], [] | [], _ :: _ | _ :: _, [] => rfl
  | a :: as, b :: bs => by
    rw [sameItems, sameItems, same_comm a b, sameItems_comm as bs]

theorem sameFields_comm : ∀ as bs : List (String × Collated), sameFields as bs = sameFields bs as
  | [], [] | [], _ :: _ | _ :: _, [] => rfl
  | (m, a) :: as, (n, b) :: bs => by
    have hname : (m == n) = (n == m) := Bool.beq_comm
    rw [sameFields, sameFields, hname, same_comm a b, sameFields_comm as bs]

end

theorem sameFields_cons_self {name : String} {value : Collated} {rest : List (String × Collated)} :
    sameFields ((name, value) :: rest) ((name, value) :: rest) = true
      ↔
    value.same value = true ∧ sameFields rest rest = true := by
  simp [sameFields]

theorem sameFields_insertSorted_self (fields : List (String × Collated)) (name : String)
    (value : Collated) (hv : value.same value = true) (hf : sameFields fields fields = true) :
    sameFields (Fields.insertSorted fields name value) (Fields.insertSorted fields name value)
      =
    true := by
  induction fields with
  | nil =>
    rw [Fields.insertSorted, sameFields_cons_self]
    exact ⟨hv, hf⟩
  | cons field rest ih =>
    have hfield := sameFields_cons_self.mp hf
    rw [Fields.insertSorted]
    split
    · rw [sameFields_cons_self]
      exact ⟨hv, hfield.2⟩
    · split
      · rw [sameFields_cons_self]
        exact ⟨hv, hf⟩
      · rw [sameFields_cons_self]
        exact ⟨hfield.1, ih hfield.2⟩

end Collated

namespace Value

mutual

def holdsNumbers : Value → Bool
  | .double x => !x.isNaN
  | .array items => itemsHoldNumbers items
  | .document fields => fieldsHoldNumbers fields
  | _ => true

def itemsHoldNumbers : List Value → Bool
  | [] => true
  | item :: rest => item.holdsNumbers && itemsHoldNumbers rest

def fieldsHoldNumbers : List (String × Value) → Bool
  | [] => true
  | (_, value) :: rest => value.holdsNumbers && fieldsHoldNumbers rest

end

theorem equals_comm (a b : Value) : a.equals b = b.equals a :=
  Collated.same_comm a.collate b.collate

mutual

theorem equals_self : ∀ value : Value, value.holdsNumbers = true → value.equals value = true
  | .array items, h => sameItems_collateItems_self items h
  | .document fields, h => sameFields_collateFields_self fields h
  | .double x, h => by
    rw [holdsNumbers, Bool.not_eq_true'] at h
    exact Double.beq_self h
  | .int32 n, _ => Double.beq_self (Double.isNaN_ofInt n.toInt)
  | .int64 n, _ => Double.beq_self (Double.isNaN_ofInt n.toInt)
  | .null, _ | .undefined, _ => rfl
  | .bool _, _ | .string _, _ | .dateTime _, _ | .objectId _, _ | .regex _ _, _ | .binary _ _, _
  | .timestamp _ _, _ | .decimal _, _ | .symbol _, _ | .code _, _ | .codeWithScope _ _, _ | .minKey, _
  | .maxKey, _ => beq_self_eq_true _

theorem sameItems_collateItems_self : ∀ items : List Value, itemsHoldNumbers items = true →
    Collated.sameItems (collateItems items) (collateItems items) = true
  | [], _ => rfl
  | item :: rest, h => by
    rw [itemsHoldNumbers, Bool.and_eq_true] at h
    rw [collateItems, Collated.sameItems, Bool.and_eq_true]
    exact ⟨equals_self item h.1, sameItems_collateItems_self rest h.2⟩

theorem sameFields_collateFields_self : ∀ fields : List (String × Value),
    fieldsHoldNumbers fields = true →
      Collated.sameFields (collateFields fields) (collateFields fields) = true
  | [], _ => rfl
  | (name, value) :: rest, h => by
    rw [fieldsHoldNumbers, Bool.and_eq_true] at h
    rw [collateFields]
    apply Collated.sameFields_insertSorted_self
    · exact equals_self value h.1
    · exact sameFields_collateFields_self rest h.2

end

end Value
end DocQuery
