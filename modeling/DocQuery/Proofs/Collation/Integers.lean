import DocQuery.Proofs.Collation.Order
import DocQuery.Proofs.Double.Integers
import DocQuery.Proofs.Pipeline.Grouping
import DocQuery.Proofs.Predicate.Evaluation
import DocQuery.Proofs.Sorting.Stable
import DocQuery.Proofs.Update.Identity
import DocQuery.Store

/-!
This module contains the proof that integers are compared as what they are rounded to: by predicates, in
sorting and grouping, in the search for distinct values, and where an id is looked for among the ids of a
collection.
-/

namespace DocQuery

open Double

namespace Value

def isInt (value : Value) : Bool := value.asInt?.isSome

def integer (value : Value) : Int := value.asInt?.getD 0

theorem collate_of_isInt {value : Value} (h : value.isInt = true) :
    value.collate = .number (Double.ofInt value.integer) := by
  cases value with
  | int32 | int64 => rfl
  | _ => cases h

theorem natAbs_integer_lt (value : Value) : value.integer.natAbs < 2 ^ 64 := by
  cases value with
  | int32 n =>
    have hlow := n.le_toInt
    have hhigh := n.toInt_lt
    change n.toInt.natAbs < _
    omega
  | int64 n =>
    have hlow := n.le_toInt
    have hhigh := n.toInt_lt
    change n.toInt.natAbs < _
    omega
  | _ => exact Nat.two_pow_pos 64

section

variable {v w : Value} (hv : v.isInt = true) (hw : w.isInt = true)

include hv hw

theorem compare?_of_isInt :
    v.collate.compare? w.collate = some (compare (nearest v.integer) (nearest w.integer)) := by
  rw [collate_of_isInt hv, collate_of_isInt hw]
  exact compare?_ofInt v.natAbs_integer_lt w.natAbs_integer_lt

theorem equals_of_isInt : v.equals w = (nearest v.integer == nearest w.integer) := by
  rw [equals, collate_of_isInt hv, collate_of_isInt hw]
  exact beq_ofInt v.natAbs_integer_lt w.natAbs_integer_lt

theorem order_of_isInt : v.order w = compare (nearest v.integer) (nearest w.integer) := by
  rw [order, collate_of_isInt hv, collate_of_isInt hw, Collated.order_number,
    compare?_ofInt v.natAbs_integer_lt w.natAbs_integer_lt, Option.getD_some]

theorem meets_of_isInt : v.meets w = (nearest v.integer == nearest w.integer) := by
  rw [← equals_of_isInt hv hw]
  cases v with
  | int32 | int64 => exact Bool.or_false _
  | _ => cases hv

theorem compares_of_isInt (accept : Ordering → Bool) :
    v.compares accept w = accept (compare (nearest v.integer) (nearest w.integer)) := by
  have hcompare := compare?_of_isInt hv hw
  cases v with
  | int32 | int64 =>
    unfold compares
    dsimp only
    rw [hcompare]
    exact Bool.or_false _
  | _ => cases hv

end

end Value

/--
Are integers, of either type, compared as what they are rounded to? A comparison of integers as they are is
one with the identity for rounding.
-/
structure IntegersComparedBy [Pattern.Engine] (round : Int → Int) : Prop where
  equals_eq {v w : Value} (hv : v.isInt = true) (hw : w.isInt = true) :
    v.equals w = (round v.integer == round w.integer)
  order_eq {v w : Value} (hv : v.isInt = true) (hw : w.isInt = true) :
    v.order w = compare (round v.integer) (round w.integer)
  holds_literal {document : Document} {field : String} {v w : Value}
    (hfield : Predicate.isConnective field = false)
    (hfound : document.resolve? (.ofString field) = some v) (hv : v.isInt = true) (hw : w.isInt = true) :
    Predicate.holds document [(field, w)] = .ok (round v.integer == round w.integer)
  holds_lt {document : Document} {field : String} {v w : Value}
    (hfield : Predicate.isConnective field = false)
    (hfound : document.resolve? (.ofString field) = some v) (hv : v.isInt = true) (hw : w.isInt = true) :
    Predicate.holds document [(field, .document [("$lt", w)])] = .ok (round v.integer < round w.integer)
  holds_gte {document : Document} {field : String} {v w : Value}
    (hfield : Predicate.isConnective field = false)
    (hfound : document.resolve? (.ofString field) = some v) (hv : v.isInt = true) (hw : w.isInt = true) :
    Predicate.holds document [(field, .document [("$gte", w)])] = .ok (round w.integer ≤ round v.integer)
  holds_in {document : Document} {field : String} {v : Value} {members : List Value}
    (hfield : Predicate.isConnective field = false)
    (hfound : document.resolve? (.ofString field) = some v) (hv : v.isInt = true)
    (hmembers : ∀ w ∈ members, w.isInt = true) :
    Predicate.holds document [(field, .document [("$in", .array members)])]
      =
    .ok (members.any fun w => round v.integer == round w.integer)
  sortDocuments_eq {documents : List Document} {field : String} (order : Value)
    (h : ∀ document ∈ documents, (document.sortValue field).isInt = true) :
    sortDocuments [(field, order)] documents
      =
    sortStable
      (fun a b =>
        if order.isDescending then
          round (b.sortValue field).integer < round (a.sortValue field).integer
        else
          round (a.sortValue field).integer < round (b.sortValue field).integer)
      documents
  groups_eq {documents : List Document} {keyExpr : Value}
    (h : ∀ document ∈ documents, (document.evaluate keyExpr).isInt = true) :
    (Group.ofDocuments keyExpr documents).map (Group.keyed fun key => round key.integer)
      =
    groupedBy (fun document => round (document.evaluate keyExpr).integer) documents
  distinct_eq {values : List Value} (h : ∀ value ∈ values, value.isInt = true) :
    (distinctValues values).map (fun value => round value.integer)
      =
    (values.map fun value => round value.integer).eraseDups
  checkUnique_eq {documents : List Document} {id : Value} (collection : String)
    (h : ∀ document ∈ documents, ∃ taken, document.id? = some taken ∧ taken.isInt = true)
    (hid : id.isInt = true) :
    Store.checkUnique documents id collection
      =
    if some (round id.integer) ∈ documents.map (fun document => document.id?.map (round ·.integer)) then
      .error (.invalidDocument (.duplicateId id collection))
    else
      .ok ()

namespace Predicate

variable [Pattern.Engine] {document : Document} {field : String} {v w : Value}
  (hfield : isConnective field = false)
  (hfound : document.resolve? (.ofString field) = some v) (hv : v.isInt = true)

include hfield hfound hv

theorem holds_literal_of_isInt (hw : w.isInt = true) :
    holds document [(field, w)] = .ok (nearest v.integer == nearest w.integer) := by
  have hliteral : isLiteral w = true := by
    cases w with
    | int32 | int64 => rfl
    | _ => cases hw
  rw [holds_literal document hfield hliteral, hfound, meetsLiteral, Value.meets_of_isInt hv hw]

theorem holds_comparison_of_isInt (hw : w.isInt = true) {op : String} {accept : Ordering → Bool}
    (hop : isMarked op = true) (hne : op ≠ "$options")
    (hpasses : ∀ value? ops, passes value? ops op w = .ok (compares accept value? w)) :
    holds document [(field, .document [(op, w)])]
      =
    .ok (accept (compare (nearest v.integer) (nearest w.integer))) := by
  rw [holds_operator document w hfield hop hne, hpasses, hfound, compares, Option.any_some,
    Value.compares_of_isInt hv hw]

theorem holds_in_of_isInt {members : List Value} (hmembers : ∀ w ∈ members, w.isInt = true) :
    holds document [(field, .document [("$in", .array members)])]
      =
    .ok (members.any fun w => nearest v.integer == nearest w.integer) := by
  have hany : members.any (meetsLiteral (some v))
      = members.any fun w => nearest v.integer == nearest w.integer := by
    apply any_congr_of_mem
    intro w hw
    rw [meetsLiteral, Value.meets_of_isInt hv (hmembers w hw)]
  rw [holds_operator document _ hfield (by decide) (by decide), hfound, passes, isMember, hany]

end Predicate

theorem sortDocuments_of_isInt {documents : List Document} {field : String} (order : Value)
    (h : ∀ document ∈ documents, (document.sortValue field).isInt = true) :
    sortDocuments [(field, order)] documents
      =
    sortStable
      (fun a b =>
        if order.isDescending then
          nearest (b.sortValue field).integer < nearest (a.sortValue field).integer
        else
          nearest (a.sortValue field).integer < nearest (b.sortValue field).integer)
      documents := by
  apply sortStable_congr
  intro a ha b hb
  have hless : ∀ m n : Int, (compare m n == .lt) = decide (m < n) := by
    intro m n
    rw [Bool.eq_iff_iff, beq_iff_eq, decide_eq_true_iff, compare_lt_iff_lt]
  rw [Document.compareBy, Document.compareBy, Document.compareAt, Ordering.then_eq,
    Value.order_of_isInt (h a ha) (h b hb), Value.order_of_isInt (h b hb) (h a ha)]
  cases order.isDescending with
  | true | false => apply hless

theorem keyedBy_nearest {values : List Value} (h : ∀ value ∈ values, value.isInt = true) :
    KeyedBy (fun value => nearest value.integer) values :=
  fun a ha b hb => Value.equals_of_isInt (h a ha) (h b hb)

theorem checkUnique_of_isInt {documents : List Document} {id : Value} (collection : String)
    (h : ∀ document ∈ documents, ∃ taken, document.id? = some taken ∧ taken.isInt = true)
    (hid : id.isInt = true) :
    Store.checkUnique documents id collection
      =
    if some (nearest id.integer) ∈ documents.map (fun document => document.id?.map (nearest ·.integer)) then
      .error (.invalidDocument (.duplicateId id collection))
    else
      .ok () := by
  have hany : documents.any (·.hasId id) = true
      ↔ some (nearest id.integer) ∈ documents.map fun document => document.id?.map (nearest ·.integer) := by
    rw [List.any_eq_true, List.mem_map]
    apply exists_congr
    intro document
    apply and_congr_right
    intro hdocument
    obtain ⟨taken, htaken, hint⟩ := h document hdocument
    rw [Document.hasId, ← Document.id?, htaken, meetsLiteral, Value.meets_of_isInt hint hid, Option.map_some,
      Option.some_inj, beq_iff_eq]
  unfold Store.checkUnique
  by_cases htaken : documents.any (·.hasId id) = true
  · rw [if_pos htaken, if_pos (hany.mp htaken)]
  · rw [if_neg htaken, if_neg (mt hany.mpr htaken)]

theorem integersComparedBy_nearest [Pattern.Engine] : IntegersComparedBy nearest where
  equals_eq := Value.equals_of_isInt
  order_eq := Value.order_of_isInt
  holds_literal := Predicate.holds_literal_of_isInt
  holds_lt hfield hfound hv hw := by
    rw [Predicate.holds_comparison_of_isInt hfield hfound hv hw (by decide) (by decide) fun _ _ => rfl]
    congr 1
    rw [Bool.eq_iff_iff, decide_eq_true_iff, Ordering.isLT_iff_eq_lt, compare_lt_iff_lt]
  holds_gte hfield hfound hv hw := by
    rw [Predicate.holds_comparison_of_isInt hfield hfound hv hw (by decide) (by decide) fun _ _ => rfl]
    congr 1
    rw [Bool.eq_iff_iff, decide_eq_true_iff, Ordering.isGE_iff_ne_lt, ← ne_eq, compare_ge_iff_ge]
  holds_in hfield hfound hv hmembers := Predicate.holds_in_of_isInt hfield hfound hv hmembers
  sortDocuments_eq := sortDocuments_of_isInt
  groups_eq h := by
    apply Group.map_ofDocuments
    apply keyedBy_nearest
    rwa [List.forall_mem_map]
  distinct_eq h := map_distinctValues (keyedBy_nearest h)
  checkUnique_eq := checkUnique_of_isInt

theorem integers_compared_as_rounded [Pattern.Engine] :
    IntegersComparedBy nearest ∧ (∀ n : Int, n.natAbs ≤ 2 ^ 53 → nearest n = n) ∧
      (∀ a b : Int, a ≤ b → nearest a ≤ nearest b) ∧
      ∀ n : Int, 2 * (nearest n - n).natAbs ≤ spacing n.natAbs :=
  ⟨integersComparedBy_nearest, fun _ => nearest_eq_self, fun _ _ => nearest_mono, distance_nearest⟩

theorem integers_compared_as_rounded_tie :
    Predicate.holds [("a", .int64 9007199254740993)] [("a", .int64 9007199254740992)] = .ok true := by
  have hfield : Predicate.isConnective "a" = false := by decide
  have hfound : Document.resolve? [("a", .int64 9007199254740993)] (.ofString "a")
      = some (.int64 9007199254740993) := by cbv
  have hround : (nearest 9007199254740993 == nearest 9007199254740992) = true := by decide
  rw [← hround]
  exact integers_compared_as_rounded.1.holds_literal (w := .int64 9007199254740992) hfield hfound rfl rfl

theorem not_integersComparedBy_id : ¬IntegersComparedBy id := by
  intro h
  have hequals := h.equals_eq (v := .int64 9007199254740993) (w := .int64 9007199254740992) rfl rfl
  revert hequals
  decide

end DocQuery
