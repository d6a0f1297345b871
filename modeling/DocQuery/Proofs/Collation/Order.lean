import DocQuery.Proofs.Collation.Equality
import DocQuery.Proofs.Double.Order

/-!
This module contains the laws of the order that values are sorted by. It is the same from both sides, and it
is transitive on values that hold a number in place of every double that is none. Documents all have the same
place, so that the doubles inside them do not matter.
-/

namespace DocQuery

structure Chained (first second both : Ordering) : Prop where
  eq_second (h : first = .eq) : both = second
  eq_first (h : second = .eq) : both = first
  eq_common (h : first = second) : both = first

namespace Chained

theorem of_compare {α : Type} [Ord α] [Std.TransOrd α] (a b c : α) :
    Chained (compare a b) (compare b c) (compare a c) := by
  constructor
  · exact Std.TransCmp.congr_left
  · intro h
    exact (Std.TransCmp.congr_right h).symm
  · intro h
    cases hab : compare a b with
    | lt => exact Std.TransCmp.lt_trans hab (h ▸ hab)
    | eq => exact Std.TransCmp.eq_trans hab (h ▸ hab)
    | gt => exact Std.TransCmp.gt_trans hab (h ▸ hab)

theorem lexicographic {first second both first' second' both' : Ordering}
    (h : Chained first second both) (h' : Chained first' second' both') :
    Chained (first.then first') (second.then second') (both.then both') := by
  rcases h with ⟨heq_second, heq_first, heq_common⟩
  rcases h' with ⟨heq_second', heq_first', heq_common'⟩
  cases first <;> cases second <;> cases both <;> constructor <;> simp_all [Ordering.then]

theorem ne_gt {first second both : Ordering} (h : Chained first second both) (hfirst : first ≠ .gt)
    (hsecond : second ≠ .gt) : both ≠ .gt := by
  rcases h with ⟨heq_second, heq_first, heq_common⟩
  cases first <;> cases second <;> simp_all

end Chained

namespace Collated

theorem compare?_swap (a b : Collated) : b.compare? a = (a.compare? b).map Ordering.swap := by
  cases a with
  | null => cases b <;> rfl
  | number x =>
    cases b with
    | number y => exact Double.compare?_swap x y
    | _ => rfl
  | string s =>
    cases b with
    | string t => exact congrArg some Std.OrientedOrd.eq_swap
    | _ => rfl
  | map as =>
    cases b with
    | map bs =>
      rw [compare?, compare?, sameFields_comm]
      split <;> rfl
    | _ => rfl
  | array as => cases b <;> rfl
  | objectId i =>
    cases b with
    | objectId j => exact congrArg some Std.OrientedOrd.eq_swap
    | _ => rfl
  | bool x =>
    cases b with
    | bool y => exact congrArg some Std.OrientedOrd.eq_swap
    | _ => rfl
  | dateTime i =>
    cases b with
    | dateTime j => exact congrArg some Std.OrientedOrd.eq_swap
    | _ => rfl
  | other s => cases b <;> rfl

theorem order_swap_of_compare? {a b : Collated}
    (hab : a.order b = (a.compare? b).getD (compare a.rank b.rank))
    (hba : b.order a = (b.compare? a).getD (compare b.rank a.rank)) :
    b.order a = (a.order b).swap := by
  rw [hab, hba, compare?_swap]
  cases a.compare? b with
  | none => exact Std.OrientedOrd.eq_swap
  | some ordering => rfl

theorem order_number (x y : Float) :
    (number x).order (number y) = (Double.compare? x y).getD .eq :=
  rfl

theorem order_map (as bs : List (String × Collated)) : (map as).order (map bs) = .eq := by
  simp only [order, compare?]
  split <;> rfl

mutual

theorem order_swap : ∀ a b : Collated, b.order a = (a.order b).swap
  | .array as, b => by
    cases b with
    | array bs => exact orderItems_swap as bs
    | _ => rfl
  | .other s, b => by
    cases b with
    | other t => exact Std.OrientedOrd.eq_swap
    | _ => rfl
  | .null, b | .number _, b | .string _, b | .map _, b | .objectId _, b | .bool _, b
  | .dateTime _, b => by
    cases b <;> exact order_swap_of_compare? rfl rfl

theorem orderItems_swap : ∀ as bs : List Collated, orderItems bs as = (orderItems as bs).swap
  | [], [] | [], _ :: _ | _ :: _, [] => rfl
  | a :: as, b :: bs => by
    rw [orderItems, orderItems, order_swap a b, orderItems_swap as bs, Ordering.swap_then]

end

theorem order_self (a : Collated) : a.order a = .eq := by
  have hswap := order_swap a a
  cases h : a.order a with
  | eq => rfl
  | lt | gt =>
    rw [h] at hswap
    contradiction

mutual

/--
Is a value a number, or an array of such values, or of another type?
-/
def hasPlace : Collated → Bool
  | .number x => !x.isNaN
  | .array items => itemsHavePlace items
  | _ => true

def itemsHavePlace : List Collated → Bool
  | [] => true
  | item :: rest => item.hasPlace && itemsHavePlace rest

end

theorem hasPlace_ofInt (n : Int) : (number (Double.ofInt n)).hasPlace = true := by
  rw [hasPlace, Double.isNaN_ofInt]
  rfl

def amount : Collated → Int
  | .number x => Double.units x
  | .objectId id => id.bits.toNat
  | .bool b => b.toNat
  | .dateTime millis => millis.toInt
  | _ => 0

def wording : Collated → String
  | .string s => s
  | .other text => text
  | _ => ""

def items : Collated → List Collated
  | .array items => items
  | _ => []

theorem itemsHavePlace_items {a : Collated} (h : a.hasPlace = true) :
    itemsHavePlace a.items = true := by
  cases a with
  | array as => exact h
  | _ => rfl

theorem order_eq {a b : Collated} (ha : a.hasPlace = true) (hb : b.hasPlace = true) :
    a.order b
      =
    (compare a.rank b.rank).then
      ((compare a.amount b.amount).then
        ((compare a.wording b.wording).then (orderItems a.items b.items))) := by
  cases a with
  | number x =>
    cases b with
    | number y =>
      rw [hasPlace, Bool.not_eq_true'] at ha hb
      have hcompare := Double.compare?_eq ha hb
      simp [order_number, hcompare, rank, amount, wording, items, orderItems]
    | _ => rfl
  | string s =>
    cases b with
    | string t => simp [order, compare?, rank, amount, wording, items, orderItems]
    | _ => rfl
  | map as =>
    cases b with
    | map bs =>
      simp only [order, compare?, rank, amount, wording, items, orderItems]
      split <;> rfl
    | _ => rfl
  | objectId i =>
    cases b with
    | objectId j =>
      -- the amount of an id is the number that its bytes stand for
      have hcompare := Double.compare_natCast i.bits.toNat j.bits.toNat
      simp [order, compare?, hcompare, rank, amount, wording, items, orderItems]
    | _ => rfl
  | bool x =>
    cases b with
    | bool y => cases x <;> cases y <;> rfl
    | _ => rfl
  | dateTime i =>
    cases b with
    | dateTime j => simp [order, compare?, rank, amount, wording, items, orderItems]
    | _ => rfl
  | other s =>
    cases b with
    | other t => simp [order, rank, amount, wording, items, orderItems]
    | _ => rfl
  | _ => cases b <;> rfl

theorem chained_nil (bs cs : List Collated) :
    Chained (orderItems [] bs) (orderItems bs cs) (orderItems [] cs) := by
  cases bs <;> cases cs <;> constructor <;> simp [orderItems]

theorem chained_cons {a : Collated} {as : List Collated}
    (ha : ∀ b c : Collated, b.hasPlace = true → c.hasPlace = true →
      Chained (a.order b) (b.order c) (a.order c))
    (has : ∀ bs cs : List Collated, itemsHavePlace bs = true → itemsHavePlace cs = true →
      Chained (orderItems as bs) (orderItems bs cs) (orderItems as cs))
    {bs cs : List Collated} (hbs : itemsHavePlace bs = true) (hcs : itemsHavePlace cs = true) :
    Chained (orderItems (a :: as) bs) (orderItems bs cs) (orderItems (a :: as) cs) := by
  cases bs with
  | nil => cases cs <;> constructor <;> simp [orderItems]
  | cons b bs =>
    cases cs with
    | nil => constructor <;> simp +contextual [orderItems]
    | cons c cs =>
      rw [itemsHavePlace, Bool.and_eq_true] at hbs hcs
      rw [orderItems, orderItems, orderItems]
      apply Chained.lexicographic
      · exact ha b c hbs.1 hcs.1
      · exact has bs cs hbs.2 hcs.2

theorem chained_of_items {a : Collated} (ha : a.hasPlace = true)
    (hitems : ∀ bs cs : List Collated, itemsHavePlace bs = true → itemsHavePlace cs = true →
      Chained (orderItems a.items bs) (orderItems bs cs) (orderItems a.items cs))
    {b c : Collated} (hb : b.hasPlace = true) (hc : c.hasPlace = true) :
    Chained (a.order b) (b.order c) (a.order c) := by
  rw [order_eq ha hb, order_eq hb hc, order_eq ha hc]
  apply Chained.lexicographic
  · apply Chained.of_compare
  · apply Chained.lexicographic
    · apply Chained.of_compare
    · apply Chained.lexicographic
      · apply Chained.of_compare
      · exact hitems b.items c.items (itemsHavePlace_items hb) (itemsHavePlace_items hc)

mutual

theorem order_chained : ∀ a : Collated, a.hasPlace = true → ∀ b c : Collated,
    b.hasPlace = true → c.hasPlace = true → Chained (a.order b) (b.order c) (a.order c)
  -- arrays go by their items, and all other values by type, amount and wording
  | .array as, ha => fun _ _ => chained_of_items ha (orderItems_chained as ha)
  | .null, ha | .number _, ha | .string _, ha | .map _, ha | .objectId _, ha | .bool _, ha
  | .dateTime _, ha | .other _, ha => fun _ _ => chained_of_items ha fun bs cs _ _ => chained_nil bs cs

theorem orderItems_chained : ∀ as : List Collated, itemsHavePlace as = true →
    ∀ bs cs : List Collated, itemsHavePlace bs = true → itemsHavePlace cs = true →
      Chained (orderItems as bs) (orderItems bs cs) (orderItems as cs)
  | [], _ => fun bs cs _ _ => chained_nil bs cs
  | a :: as, h => by
    rw [itemsHavePlace, Bool.and_eq_true] at h
    intro bs cs
    apply chained_cons
    · exact order_chained a h.1
    · exact orderItems_chained as h.2

end

end Collated

namespace Value

def hasPlace (value : Value) : Bool := value.collate.hasPlace

mutual

theorem hasPlace_of_holdsNumbers : ∀ value : Value, value.holdsNumbers = true → value.hasPlace = true
  | .double _, h => h
  | .array items, h => itemsHavePlace_of_itemsHoldNumbers items h
  | .int32 n, _ => Collated.hasPlace_ofInt n.toInt
  | .int64 n, _ => Collated.hasPlace_ofInt n.toInt
  | .null, _ | .undefined, _ | .bool _, _ | .string _, _ | .document _, _ | .dateTime _, _
  | .objectId _, _ | .regex _ _, _ | .binary _ _, _ | .timestamp _ _, _ | .decimal _, _
  | .symbol _, _ | .code _, _ | .codeWithScope _ _, _ | .minKey, _ | .maxKey, _ => rfl

theorem itemsHavePlace_of_itemsHoldNumbers : ∀ items : List Value, itemsHoldNumbers items = true →
    Collated.itemsHavePlace (collateItems items) = true
  | [], _ => rfl
  | item :: rest, h => by
    rw [itemsHoldNumbers, Bool.and_eq_true] at h
    rw [collateItems, Collated.itemsHavePlace, Bool.and_eq_true]
    exact ⟨hasPlace_of_holdsNumbers item h.1, itemsHavePlace_of_itemsHoldNumbers rest h.2⟩

end

mutual

def replaceNaN (n : Int32) : Value → Value
  | .double x => if x.isNaN then .int32 n else .double x
  | .array items => .array (replaceItemsNaN n items)
  | value => value

def replaceItemsNaN (n : Int32) : List Value → List Value
  | [] => []
  | item :: rest => item.replaceNaN n :: replaceItemsNaN n rest

end

mutual

theorem hasPlace_replaceNaN (n : Int32) : ∀ value : Value, (value.replaceNaN n).hasPlace = true
  | .double x => by
    rw [replaceNaN]
    split
    · apply Collated.hasPlace_ofInt
    · next h =>
      rw [hasPlace, collate, Collated.hasPlace, Bool.not_eq_true']
      exact Bool.eq_false_iff.mpr h
  | .array items => itemsHavePlace_replaceItemsNaN n items
  | .int32 m => Collated.hasPlace_ofInt m.toInt
  | .int64 m => Collated.hasPlace_ofInt m.toInt
  | .null | .undefined | .bool _ | .string _ | .document _ | .dateTime _ | .objectId _ | .regex _ _
  | .binary _ _ | .timestamp _ _ | .decimal _ | .symbol _ | .code _ | .codeWithScope _ _ | .minKey
  | .maxKey => rfl

theorem itemsHavePlace_replaceItemsNaN (n : Int32) : ∀ items : List Value,
    Collated.itemsHavePlace (collateItems (replaceItemsNaN n items)) = true
  | [] => rfl
  | item :: rest => by
    rw [replaceItemsNaN, collateItems, Collated.itemsHavePlace, Bool.and_eq_true]
    exact ⟨hasPlace_replaceNaN n item, itemsHavePlace_replaceItemsNaN n rest⟩

end

theorem order_self (value : Value) : value.order value = .eq :=
  Collated.order_self value.collate

theorem order_swap (a b : Value) : b.order a = (a.order b).swap :=
  Collated.order_swap a.collate b.collate

mutual

theorem order_replaceNaN (n : Int32) : ∀ value : Value, (value.replaceNaN n).order value = .eq
  | .double x => by
    rw [replaceNaN]
    split
    · next h =>
      have hcompare := Double.compare?_of_isNaN (Or.inr h : (Double.ofInt n.toInt).isNaN ∨ x.isNaN)
      rw [order, collate, collate, Collated.order_number, hcompare]
      rfl
    · apply order_self
  | .array items => orderItems_replaceItemsNaN n items
  | .int32 _ | .int64 _ | .null | .undefined | .bool _ | .string _ | .document _ | .dateTime _
  | .objectId _ | .regex _ _ | .binary _ _ | .timestamp _ _ | .decimal _ | .symbol _ | .code _
  | .codeWithScope _ _ | .minKey | .maxKey => order_self _

theorem orderItems_replaceItemsNaN (n : Int32) : ∀ items : List Value,
    Collated.orderItems (collateItems (replaceItemsNaN n items)) (collateItems items) = .eq
  | [] => rfl
  | item :: rest => by
    have hitem : (item.replaceNaN n).collate.order item.collate = .eq := order_replaceNaN n item
    rw [replaceItemsNaN, collateItems, collateItems, Collated.orderItems, hitem,
      orderItems_replaceItemsNaN n rest]
    rfl

end

theorem order_int32_two_one : (int32 2).order (int32 1) = .gt := by
  decide

mutual

theorem order_replaceNaN_two_one : ∀ value : Value,
    (value.replaceNaN 2).order (value.replaceNaN 1) = if value.hasPlace then .eq else .gt
  | .double x => by
    rw [hasPlace, collate, Collated.hasPlace, replaceNaN, replaceNaN]
    cases x.isNaN with
    | false => exact order_self _
    | true => exact order_int32_two_one
  | .array items => orderItems_replaceItemsNaN_two_one items
  | .int32 m => (order_self (int32 m)).trans (if_pos (Collated.hasPlace_ofInt m.toInt)).symm
  | .int64 m => (order_self (int64 m)).trans (if_pos (Collated.hasPlace_ofInt m.toInt)).symm
  | .null | .undefined | .bool _ | .string _ | .document _ | .dateTime _ | .objectId _ | .regex _ _
  | .binary _ _ | .timestamp _ _ | .decimal _ | .symbol _ | .code _ | .codeWithScope _ _ | .minKey
  | .maxKey => order_self _

theorem orderItems_replaceItemsNaN_two_one : ∀ items : List Value,
    Collated.orderItems (collateItems (replaceItemsNaN 2 items)) (collateItems (replaceItemsNaN 1 items))
      =
    if Collated.itemsHavePlace (collateItems items) then .eq else .gt
  | [] => rfl
  | item :: rest => by
    have hitem : (item.replaceNaN 2).collate.order (item.replaceNaN 1).collate
      = if item.collate.hasPlace then .eq else .gt := order_replaceNaN_two_one item
    rw [replaceItemsNaN, replaceItemsNaN, collateItems, collateItems, collateItems, Collated.orderItems,
      Collated.itemsHavePlace, hitem, orderItems_replaceItemsNaN_two_one rest]
    cases item.collate.hasPlace with
    | false | true => rfl

end

theorem order_laws (b : Value) :
    b.order b = .eq ∧ (∀ a : Value, b.order a = (a.order b).swap) ∧
      ((∀ a c : Value, a.hasPlace = true → c.hasPlace = true →
          a.order b ≠ .gt → b.order c ≠ .gt → a.order c ≠ .gt)
        ↔
      b.hasPlace = true) := by
  refine ⟨order_self b, fun a => order_swap a b, ?_⟩
  constructor
  · -- with 2 and with 1 for what is no number, the value is on both sides of itself
    intro h
    have hleft : (b.replaceNaN 2).order b ≠ .gt := by
      rw [order_replaceNaN]
      nofun
    have hright : b.order (b.replaceNaN 1) ≠ .gt := by
      rw [order_swap, order_replaceNaN]
      nofun
    have hne := h _ _ (hasPlace_replaceNaN 2 b) (hasPlace_replaceNaN 1 b) hleft hright
    rw [order_replaceNaN_two_one] at hne
    by_contra hplace
    exact hne (if_neg hplace)
  · intro hb a c ha hc hab hbc
    exact (Collated.order_chained a.collate ha b.collate c.collate hb hc).ne_gt hab hbc

theorem not_order_trans :
    ¬∀ a b c : Value, a.order b ≠ .gt → b.order c ≠ .gt → a.order c ≠ .gt := by
  intro h
  have hleft : (int32 2).order (double (0 / 0)) ≠ .gt := by decide
  have hright : (double (0 / 0)).order (int32 1) ≠ .gt := by decide
  exact h _ _ _ hleft hright order_int32_two_one

end Value
end DocQuery
