import DocQuery.Proofs.Collation.Equivalence
import DocQuery.Proofs.Collation.Order

/-!
This module contains how the equality of values and their orders agree. Equal values have the same place, and values
with the same place are equal as long as every double in them is a number and there is no document in them.
-/

namespace DocQuery

theorem Double.compare?_eq_some_eq_iff {x y : Float} : compare? x y = some .eq ↔ (x == y) = true := by
  constructor
  · intro h
    unfold compare? at h
    split at h
    · cases h
    · split at h
      · next heq => exact heq
      · split at h <;> cases h
  · intro h
    rcases isNaN_of_beq h with ⟨hx, hy⟩
    rw [beq_iff_units_eq hx hy] at h
    rw [compare?_eq hx hy, h]
    exact congrArg some Std.ReflCmp.compare_self

namespace Collated

def isComparable : Collated → Bool
  | .array _ => false
  | .other _ => false
  | _ => true

theorem isComparable_of_compare? {a b : Collated} {ordering : Ordering} (h : a.compare? b = some ordering) :
    b.isComparable = true := by
  cases b with
  | array bs => cases a <;> cases h
  | other t => cases a <;> cases h
  | _ => rfl

theorem compare?_eq_some_eq_iff (a b : Collated) :
    a.compare? b = some .eq ↔ a.same b = true ∧ b.isComparable = true := by
  cases a with
  | null => cases b <;> simp [compare?, same, isComparable]
  | number x =>
    cases b with
    | number y => simp [compare?, same, isComparable, Double.compare?_eq_some_eq_iff]
    | _ => simp [compare?, same]
  | string s => cases b <;> simp [compare?, same, isComparable]
  | map as => cases b <;> simp [compare?, same, isComparable]
  | array as => cases b <;> simp [compare?, same, isComparable]
  | objectId i =>
    cases b with
    | objectId j =>
      rcases i with ⟨i⟩
      rcases j with ⟨j⟩
      simp [compare?, same, isComparable, BitVec.toNat_inj]
    | _ => simp [compare?, same]
  | bool x => cases b <;> simp [compare?, same, isComparable]
  | dateTime i => cases b <;> simp [compare?, same, isComparable, Int64.toInt_inj]
  | other s => cases b <;> simp [compare?, same, isComparable]

theorem order_of_isComparable {a b : Collated} (h : b.isComparable = true) :
    a.order b = (a.compare? b).getD (compare a.rank b.rank) := by
  cases b with
  | array bs | other t => cases h
  | _ => cases a <;> rfl

mutual

theorem order_of_same : ∀ a b : Collated, a.same b = true → a.order b = .eq
  | .array as, b, h => by
    cases b with
    | array bs => exact orderItems_of_sameItems as bs h
    | _ => cases h
  | .other s, b, h => by
    cases b with
    | other t =>
      rw [eq_of_beq h]
      apply order_self
    | _ => cases h
  | .null, b, h | .number _, b, h | .string _, b, h | .map _, b, h | .objectId _, b, h | .bool _, b, h
  | .dateTime _, b, h => by
    have hcomparable : b.isComparable = true := by
      cases b with
      | array | other => cases h
      | _ => rfl
    rw [order_of_isComparable hcomparable, (compare?_eq_some_eq_iff _ b).mpr ⟨h, hcomparable⟩]
    rfl

theorem orderItems_of_sameItems : ∀ as bs : List Collated, sameItems as bs = true → orderItems as bs = .eq
  | [], [], _ => rfl
  | a :: as, b :: bs, h => by
    rw [sameItems, Bool.and_eq_true] at h
    rw [orderItems, order_of_same a b h.1, orderItems_of_sameItems as bs h.2]
    rfl

end

mutual

/--
Do only equal values have the place of a value? Others have it too where the value is or holds a document or a double
that is not a number.
-/
def hasOwnPlace : Collated → Bool
  | .number x => !x.isNaN
  | .map _ => false
  | .array items => itemsHaveOwnPlace items
  | _ => true

def itemsHaveOwnPlace : List Collated → Bool
  | [] => true
  | item :: rest => item.hasOwnPlace && itemsHaveOwnPlace rest

end

theorem rank_eq_of_order {a b : Collated} (h : a.order b = .eq) : a.rank = b.rank := by
  cases a <;> cases b <;> first | rfl | cases h

theorem isComparable_of_rank_eq {a b : Collated} (ha : a.isComparable = true) (h : a.rank = b.rank) :
    b.isComparable = true := by
  cases a with
  | array | other => cases ha
  | _ => cases b <;> first | rfl | cases h

theorem exists_compare?_of_rank_eq {a b : Collated} (hcomparable : a.isComparable = true)
    (ha : a.hasOwnPlace = true) (hb : b.hasPlace = true) (h : a.rank = b.rank) :
    ∃ ordering, a.compare? b = some ordering := by
  cases a with
  | number x =>
    cases b with
    | number y =>
      rw [hasOwnPlace, Bool.not_eq_true'] at ha
      rw [hasPlace, Bool.not_eq_true'] at hb
      exact ⟨_, Double.compare?_eq ha hb⟩
    | _ => cases h
  | map as => cases ha
  | array as | other s => cases hcomparable
  | _ => cases b <;> first | exact ⟨_, rfl⟩ | cases h

theorem same_of_order_of_isComparable {a b : Collated} (hcomparable : a.isComparable = true)
    (ha : a.hasOwnPlace = true) (hb : b.hasPlace = true) (h : a.order b = .eq) : a.same b = true := by
  have hrank := rank_eq_of_order h
  obtain ⟨ordering, hordering⟩ := exists_compare?_of_rank_eq hcomparable ha hb hrank
  rw [order_of_isComparable (isComparable_of_rank_eq hcomparable hrank), hordering, Option.getD_some] at h
  rw [h] at hordering
  exact ((compare?_eq_some_eq_iff a b).mp hordering).1

mutual

theorem same_of_order : ∀ a b : Collated, a.hasOwnPlace = true → b.hasPlace = true → a.order b = .eq →
    a.same b = true
  | .array as, b, ha, hb, h => by
    cases b with
    | array bs => exact sameItems_of_orderItems as bs ha hb h
    | _ => cases h
  | .other s, b, _, _, h => by
    cases b with
    | other t =>
      have hcompare : compare s t = .eq := h
      rw [compare_eq_iff_eq] at hcompare
      rw [hcompare]
      exact beq_self_eq_true t
    | _ => cases h
  | .null, _, ha, hb, h | .number _, _, ha, hb, h | .string _, _, ha, hb, h | .map _, _, ha, hb, h
  | .objectId _, _, ha, hb, h | .bool _, _, ha, hb, h | .dateTime _, _, ha, hb, h =>
    same_of_order_of_isComparable rfl ha hb h

theorem sameItems_of_orderItems : ∀ as bs : List Collated, itemsHaveOwnPlace as = true → itemsHavePlace bs = true →
    orderItems as bs = .eq → sameItems as bs = true
  | [], [], _, _, _ => rfl
  | [], _ :: _, _, _, h | _ :: _, [], _, _, h => by cases h
  | a :: as, b :: bs, ha, hb, h => by
    rw [itemsHaveOwnPlace, Bool.and_eq_true] at ha
    rw [itemsHavePlace, Bool.and_eq_true] at hb
    rw [orderItems, Ordering.then_eq_eq] at h
    rw [sameItems, Bool.and_eq_true]
    exact ⟨same_of_order a b ha.1 hb.1 h.1, sameItems_of_orderItems as bs ha.2 hb.2 h.2⟩

end

end Collated

namespace Value

mutual

def holdsDocument : Value → Bool
  | .document _ => true
  | .array items => itemsHoldDocument items
  | _ => false

def itemsHoldDocument : List Value → Bool
  | [] => false
  | item :: rest => item.holdsDocument || itemsHoldDocument rest

end

mutual

theorem hasOwnPlace_collate : ∀ value : Value, value.holdsNumbers = true → value.holdsDocument = false →
    value.collate.hasOwnPlace = true
  | .array items, hnumbers, hdocument => itemsHaveOwnPlace_collateItems items hnumbers hdocument
  | .double _, hnumbers, _ => hnumbers
  | .int32 n, _, _ => Collated.hasPlace_ofInt n.toInt
  | .int64 n, _, _ => Collated.hasPlace_ofInt n.toInt
  | .null, _, _ | .undefined, _, _ | .bool _, _, _ | .string _, _, _ | .dateTime _, _, _ | .objectId _, _, _
  | .regex _ _, _, _ | .binary _ _, _, _ | .timestamp _ _, _, _ | .decimal _, _, _ | .symbol _, _, _
  | .code _, _, _ | .codeWithScope _ _, _, _ | .minKey, _, _ | .maxKey, _, _ => rfl

theorem itemsHaveOwnPlace_collateItems : ∀ items : List Value, itemsHoldNumbers items = true →
    itemsHoldDocument items = false → Collated.itemsHaveOwnPlace (collateItems items) = true
  | [], _, _ => rfl
  | item :: rest, hnumbers, hdocument => by
    rw [itemsHoldNumbers, Bool.and_eq_true] at hnumbers
    rw [itemsHoldDocument, Bool.or_eq_false_iff] at hdocument
    rw [collateItems, Collated.itemsHaveOwnPlace, Bool.and_eq_true]
    exact ⟨hasOwnPlace_collate item hnumbers.1 hdocument.1,
      itemsHaveOwnPlace_collateItems rest hnumbers.2 hdocument.2⟩

end

theorem order_of_equals {a b : Value} (h : a.equals b = true) : a.order b = .eq :=
  Collated.order_of_same _ _ h

theorem equals_of_order {a b : Value} (ha : a.holdsNumbers = true) (hb : b.holdsNumbers = true)
    (hdocument : a.holdsDocument = false) (h : a.order b = .eq) : a.equals b = true := by
  apply Collated.same_of_order
  · exact hasOwnPlace_collate a ha hdocument
  · exact hasPlace_of_holdsNumbers b hb
  · exact h

theorem equality_laws (a b c : Value) :
    a.equals b = b.equals a
      ∧ (a.equals b = true → b.equals c = true → a.equals c = true)
      ∧ (a.holdsNumbers = true → a.equals a = true)
      ∧ (a.equals b = true → a.order b = .eq)
      ∧ (a.holdsNumbers = true → b.holdsNumbers = true → a.holdsDocument = false → b.holdsDocument = false →
          a.order b = .eq → a.equals b = true) := by
  refine ⟨equals_comm a b, equals_trans, equals_self a, order_of_equals, ?_⟩
  intro ha hb hdocument _ h
  exact equals_of_order ha hb hdocument h

theorem equality_laws_mixed :
    let a : Value := .array [.int32 1, .undefined, .document [("x", .int64 2), ("y", .string "s")]]
    let b : Value := .array [.double 1, .null, .document [("y", .string "s"), ("x", .double 2)]]
    let c : Value := .array [.int64 1, .undefined, .document [("x", .int32 2), ("y", .string "s")]]
    let d : Value := .array [.int32 1, .undefined, .symbol "s"]
    let e : Value := .array [.double 1, .null, .symbol "s"]
    a.equals b = true ∧ b.equals c = true ∧ a.equals c = true ∧ a.equals a = true ∧ a.order b = .eq
      ∧ d.order e = .eq ∧ d.equals e = true := by
  intro a b c d e
  have hab : a.equals b = true := by decide
  have hbc : b.equals c = true := by decide
  have hde : d.order e = .eq := by decide
  obtain ⟨-, htrans, hself, horder, -⟩ := equality_laws a b c
  obtain ⟨-, -, -, -, hplace⟩ := equality_laws d e e
  refine ⟨hab, hbc, htrans hab hbc, hself (by decide), horder hab, hde, ?_⟩
  apply hplace
  · decide
  · decide
  · rfl
  · rfl
  · exact hde

end Value
end DocQuery
