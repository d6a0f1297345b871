import DocQuery.Path
import DocQuery.Value.Same

/-!
This module contains what the comparison that a write is followed by says about paths: documents that are the
same hold the same at every path.
-/

namespace DocQuery
namespace Fields

variable {α : Type}

theorem get?_insertSorted (fields : Fields α) (key other : String) (value : α) :
    get? (insertSorted fields key value) other
      =
    if key = other then some value else get? fields other := by
  induction fields with
  | nil => rfl
  | cons field rest ih =>
    rcases field with ⟨name, old⟩
    unfold insertSorted
    split
    · next hname =>
      -- the new value takes the place of the old one
      rw [get?_cons, get?_cons, hname]
      split <;> rfl
    · next hname =>
      split
      · rfl
      · rw [get?_cons, get?_cons, ih]
        by_cases hold : name = other
        · rw [if_pos hold, if_pos hold, if_neg (hold ▸ hname)]
        · rw [if_neg hold, if_neg hold]

end Fields

namespace Value

theorem sortedItems_eq_map (items : List Value) : sortedItems items = items.map sorted := by
  induction items with
  | nil => rfl
  | cons item rest ih => rw [sortedItems, ih, List.map_cons]

theorem get?_sortedFields (fields : List (String × Value)) (name : String) :
    Fields.get? (sortedFields fields) name = (Fields.get? fields name).map sorted := by
  induction fields with
  | nil => rfl
  | cons field rest ih =>
    rw [sortedFields, Fields.get?_insertSorted, ih, Fields.get?_cons]
    split <;> rfl

theorem child?_sorted (value : Value) (segment : String) :
    value.sorted.child? segment = (value.child? segment).map sorted := by
  cases value with
  | document fields =>
    rw [sorted, child?, child?]
    exact get?_sortedFields fields segment
  | array items =>
    rw [sorted, child?, child?, sortedItems_eq_map]
    cases Text.readIndex? segment with
    | none => rfl
    | some index => exact List.getElem?_map
  | _ => rfl

theorem descend?_sorted (value : Value) (segments : List String) :
    value.sorted.descend? segments = (value.descend? segments).map sorted := by
  induction segments generalizing value with
  | nil => rfl
  | cons segment rest ih =>
    rw [descend?, descend?, child?_sorted]
    cases value.child? segment with
    | none => rfl
    | some child => exact ih child

abbrev Agrees : Option Value → Option Value → Prop := Option.Rel fun a b => a.identical b = true

theorem agrees_get? {as bs : List (String × Value)} (h : identicalFields as bs = true) (name : String) :
    Agrees (Fields.get? as name) (Fields.get? bs name) := by
  induction as generalizing bs with
  | nil =>
    cases bs with
    | nil => exact .none
    | cons => cases h
  | cons field as ih =>
    cases bs with
    | nil => cases h
    | cons other bs =>
      rw [identicalFields, Bool.and_eq_true, Bool.and_eq_true, beq_iff_eq] at h
      rw [Fields.get?_cons, Fields.get?_cons, h.1.1]
      split
      · exact .some h.1.2
      · exact ih h.2

theorem agrees_getElem? {as bs : List Value} (h : identicalItems as bs = true) (index : Nat) :
    Agrees as[index]? bs[index]? := by
  induction as generalizing bs index with
  | nil =>
    cases bs with
    | nil => exact .none
    | cons => cases h
  | cons a as ih =>
    cases bs with
    | nil => cases h
    | cons b bs =>
      rw [identicalItems, Bool.and_eq_true] at h
      cases index with
      | zero => exact .some h.1
      | succ index => exact ih h.2 index

theorem agrees_child? {a b : Value} (h : a.identical b = true) (segment : String) :
    Agrees (a.child? segment) (b.child? segment) := by
  unfold identical at h
  split at h
  -- only arrays and documents lead further down
  any_goals exact .none
  · rw [child?, child?]
    cases Text.readIndex? segment with
    | none => exact .none
    | some index => exact agrees_getElem? h index
  · rw [child?, child?]
    exact agrees_get? h segment
  · cases h

theorem agrees_descend? {a b : Value} (h : a.identical b = true) (segments : List String) :
    Agrees (a.descend? segments) (b.descend? segments) := by
  induction segments generalizing a b with
  | nil => exact .some h
  | cons segment rest ih =>
    have hchild := agrees_child? h segment
    rw [descend?, descend?]
    generalize a.child? segment = first at hchild ⊢
    generalize b.child? segment = second at hchild ⊢
    cases hchild with
    | none => exact .none
    | some hchild => exact ih hchild

theorem same_of_agrees {first second : Option Value} (h : Agrees (first.map sorted) (second.map sorted)) :
    Option.Rel (fun a b => a.same b = true) first second := by
  cases first with
  | none =>
    cases second with
    | none => exact .none
    | some => cases h
  | some =>
    cases second with
    | none => cases h
    | some =>
      cases h with
      | some h => exact .some h

theorem asInt?_of_identical {a b : Value} (h : a.identical b = true) : a.asInt? = b.asInt? := by
  unfold identical at h
  split at h
  any_goals rfl
  · rw [eq_of_beq h]
  · rw [eq_of_beq h]
  · cases h

theorem asInt?_sorted (value : Value) : value.sorted.asInt? = value.asInt? := by
  cases value with
  | _ => rfl

theorem asInt?_of_same {a b : Value} (h : a.same b = true) : a.asInt? = b.asInt? := by
  rw [← asInt?_sorted a, ← asInt?_sorted b]
  exact asInt?_of_identical h

end Value

namespace Document

theorem lookup?_of_same {document other : Document} (h : document.same other = true) (path : Path) :
    Option.Rel (fun a b => a.same b = true) (document.lookup? path) (other.lookup? path) := by
  have hlookup : ∀ document : Document,
      (document.lookup? path).map Value.sorted
        = (Value.document document).sorted.descend? (path.head :: path.tail) := by
    intro document
    rw [Value.descend?_sorted]
    rfl
  have hagrees := Value.agrees_descend? h (path.head :: path.tail)
  rw [← hlookup, ← hlookup] at hagrees
  exact Value.same_of_agrees hagrees

end Document
end DocQuery
