import DocQuery.Proofs.Double.Number
import DocQuery.Proofs.Path.Repeating
import DocQuery.Value.Same

/-!
This module contains the values that are the same as themselves: those without any double that is not a number.
Writes make such documents out of such documents and values.
-/

namespace DocQuery
namespace Fields

theorem mem_insertSorted {α : Type} {fields : Fields α} {key : String} {value : α} {entry : String × α}
    (h : entry ∈ insertSorted fields key value) : entry ∈ fields ∨ entry = (key, value) := by
  induction fields with
  | nil => simpa [insertSorted] using h
  | cons field rest ih =>
    unfold insertSorted at h
    split at h
    · rw [List.mem_cons] at h ⊢
      grind
    · split at h
      · rw [List.mem_cons] at h
        grind
      · rw [List.mem_cons] at h ⊢
        grind

end Fields

namespace Value

mutual

def isFreeOfNaN : Value → Bool
  | .double x => !x.isNaN
  | .array items => itemsFreeOfNaN items
  | .document fields => fieldsFreeOfNaN fields
  | .codeWithScope _ scope => fieldsFreeOfNaN scope
  | _ => true

def itemsFreeOfNaN : List Value → Bool
  | [] => true
  | item :: rest => item.isFreeOfNaN && itemsFreeOfNaN rest

def fieldsFreeOfNaN : List (String × Value) → Bool
  | [] => true
  | (_, value) :: rest => value.isFreeOfNaN && fieldsFreeOfNaN rest

end

theorem fieldsFreeOfNaN_iff {fields : List (String × Value)} :
    fieldsFreeOfNaN fields = true ↔ ∀ field ∈ fields, field.2.isFreeOfNaN = true := by
  induction fields with
  | nil => simp [fieldsFreeOfNaN]
  | cons field rest ih => simp [fieldsFreeOfNaN, ih]

mutual

theorem isFreeOfNaN_sorted : ∀ value : Value, value.isFreeOfNaN = true → value.sorted.isFreeOfNaN = true
  | .array items, h => itemsFreeOfNaN_sortedItems items h
  | .document fields, h | .codeWithScope _ fields, h => fieldsFreeOfNaN_sortedFields fields h
  | .double _, h => h
  | .null, _ | .undefined, _ | .bool _, _ | .int32 _, _ | .int64 _, _ | .string _, _ | .dateTime _, _
  | .objectId _, _ | .regex _ _, _ | .binary _ _, _ | .timestamp _ _, _ | .decimal _, _ | .symbol _, _
  | .code _, _ | .minKey, _ | .maxKey, _ => rfl

theorem itemsFreeOfNaN_sortedItems : ∀ items : List Value, itemsFreeOfNaN items = true →
    itemsFreeOfNaN (sortedItems items) = true
  | [], _ => rfl
  | item :: rest, h => by
    simp only [itemsFreeOfNaN, sortedItems, Bool.and_eq_true] at h ⊢
    exact ⟨isFreeOfNaN_sorted item h.1, itemsFreeOfNaN_sortedItems rest h.2⟩

theorem fieldsFreeOfNaN_sortedFields : ∀ fields : List (String × Value), fieldsFreeOfNaN fields = true →
    fieldsFreeOfNaN (sortedFields fields) = true
  | [], _ => rfl
  | (name, value) :: rest, h => by
    simp only [fieldsFreeOfNaN, Bool.and_eq_true] at h
    have hvalue := isFreeOfNaN_sorted value h.1
    have hrest := fieldsFreeOfNaN_sortedFields rest h.2
    rw [sortedFields]
    rw [fieldsFreeOfNaN_iff] at hrest ⊢
    intro field hmem
    cases Fields.mem_insertSorted hmem with
    | inl hmem => exact hrest field hmem
    | inr heq =>
      rw [heq]
      exact hvalue

end

mutual

theorem identical_self : ∀ value : Value, value.isFreeOfNaN = true → value.identical value = true
  | .array items, h => identicalItems_self items h
  | .document fields, h => identicalFields_self fields h
  | .codeWithScope source scope, h => by simp [identical, identicalFields_self scope h]
  | .double x, h => by
    rw [isFreeOfNaN, Bool.not_eq_true'] at h
    exact Double.beq_self h
  | .null, _ | .undefined, _ | .minKey, _ | .maxKey, _ => rfl
  | .bool _, _ | .int32 _, _ | .int64 _, _ | .string _, _ | .dateTime _, _ | .objectId _, _ | .regex _ _, _
  | .binary _ _, _ | .timestamp _ _, _ | .decimal _, _ | .symbol _, _ | .code _, _ => by simp [identical]

theorem identicalItems_self : ∀ items : List Value, itemsFreeOfNaN items = true →
    identicalItems items items = true
  | [], _ => rfl
  | item :: rest, h => by
    simp only [itemsFreeOfNaN, Bool.and_eq_true] at h
    simp [identicalItems, identical_self item h.1, identicalItems_self rest h.2]

theorem identicalFields_self : ∀ fields : List (String × Value), fieldsFreeOfNaN fields = true →
    identicalFields fields fields = true
  | [], _ => rfl
  | (name, value) :: rest, h => by
    simp only [fieldsFreeOfNaN, Bool.and_eq_true] at h
    simp [identicalFields, identical_self value h.1, identicalFields_self rest h.2]

end

theorem same_self {value : Value} (h : value.isFreeOfNaN = true) : value.same value = true := by
  apply identical_self
  apply isFreeOfNaN_sorted
  exact h

end Value

namespace Document

def isFreeOfNaN (document : Document) : Bool := Value.fieldsFreeOfNaN document

theorem same_self {document : Document} (h : document.isFreeOfNaN = true) : document.same document = true := by
  apply Value.same_self
  exact h

theorem isFreeOfNaN_insert {document : Document} {value : Value} (name : String)
    (h : document.isFreeOfNaN = true) (hvalue : value.isFreeOfNaN = true) :
    isFreeOfNaN (Fields.insert document name value) = true := by
  unfold isFreeOfNaN at h ⊢
  rw [Value.fieldsFreeOfNaN_iff] at h ⊢
  intro field hmem
  cases Fields.mem_insert hmem with
  | inl hmem => exact h field hmem
  | inr heq =>
    rw [heq]
    exact hvalue

theorem isFreeOfNaN_under {document : Document} (name : String) (h : document.isFreeOfNaN = true) :
    (document.under name).isFreeOfNaN = true := by
  unfold under
  split
  · next inner hget => exact Value.fieldsFreeOfNaN_iff.mp h _ (Fields.mem_of_get? hget)
  · rfl

theorem isFreeOfNaN_set {document : Document} {value : Value} (path : Path)
    (h : document.isFreeOfNaN = true) (hvalue : value.isFreeOfNaN = true) :
    (document.set path value).isFreeOfNaN = true := by
  induction path using Path.induction_below generalizing document with
  | field name =>
    apply isFreeOfNaN_insert
    · exact h
    · exact hvalue
  | below name path ih =>
    rw [set_below]
    apply isFreeOfNaN_insert
    · exact h
    · apply ih
      apply isFreeOfNaN_under
      exact h

theorem isFreeOfNaN_setAll {document : Document} {writes : List (Path × Value)}
    (h : document.isFreeOfNaN = true) (hwrites : ∀ write ∈ writes, write.2.isFreeOfNaN = true) :
    (document.setAll writes).isFreeOfNaN = true := by
  induction writes generalizing document with
  | nil => exact h
  | cons write rest ih =>
    rw [List.forall_mem_cons] at hwrites
    rw [setAll_cons]
    apply ih
    · apply isFreeOfNaN_set
      · exact h
      · exact hwrites.1
    · exact hwrites.2

end Document
end DocQuery
