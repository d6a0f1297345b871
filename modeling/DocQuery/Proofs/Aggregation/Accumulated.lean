import DocQuery.Aggregation
import DocQuery.Proofs.Pagination.Reading
import DocQuery.Proofs.Pipeline.Rows

/-!
This module contains what the reads that condense a collection make of the documents that are selected: the
rows of a grouping, or the total of one accumulator over the values of a field.
-/

namespace DocQuery

theorem Document.evaluate_fieldRef (document : Document) (field : String) :
    document.evaluate (.string (fieldRef field)) = document.sortValue field := by
  have hmarked : (fieldRef field).toList = '$' :: field.toList := by simp [fieldRef]
  unfold evaluate sortValue
  rw [hmarked]
  simp only [String.ofList_toList]

theorem Document.map_evaluate_fieldRef (documents : List Document) (field : String) :
    documents.map (·.evaluate (.string (fieldRef field))) = documents.map (·.sortValue field) :=
  List.map_congr_left fun document _ => document.evaluate_fieldRef field

def Document.carries (field : String) (document : Document) : Bool :=
  (document.lookup? (.ofString field)).any Value.isDefined

theorem Document.carries_eq (field : String) (document : Document) :
    document.carries field = (document.sortValue field).isDefined := by
  unfold carries sortValue
  cases document.lookup? (.ofString field) with
  | none | some => rfl

theorem Group.ofDocuments_null {documents : List Document} (h : documents ≠ []) :
    ofDocuments .null documents = [⟨.null, documents⟩] := by
  induction documents using List.reverseRecOn with
  | nil => exact absurd rfl h
  | append_singleton documents document ih =>
    rw [ofDocuments_append_singleton]
    by_cases hempty : documents = []
    · rw [hempty]
      rfl
    · rw [ih hempty]
      rfl

def Accumulator.over? (accumulator : Accumulator) (field : String) : List Document → Option Value
  | [] => none
  | documents => some (accumulator.total (documents.map (·.sortValue field)))

theorem Accumulator.over?_of_ne_nil (accumulator : Accumulator) (field : String) {documents : List Document}
    (h : documents ≠ []) :
    accumulator.over? field documents = some (accumulator.total (documents.map (·.sortValue field))) := by
  cases documents with
  | nil => exact absurd rfl h
  | cons => rfl

theorem Accumulator.isDefined_total_sum (values : List Value) : (sum.total values).isDefined = true := by
  unfold total NumericSum.toValue Value.ofInt
  dsimp only
  split
  · rfl
  · split
    · rfl
    · split <;> rfl

namespace Collection

variable [Pattern.Engine] (collection : Collection) (selector : Selector) (store : Store)

def selected (collection : Collection) (selector : Selector) (store : Store) : Outcome (List Document) :=
  Predicate.select selector.compile (store.documents collection.name)

theorem find_eq_selected :
    store.find selector.compile {} collection.name = collection.selected selector store := by
  unfold Store.find selected
  cases Predicate.select selector.compile (store.documents collection.name) with
  | error | ok => rfl

theorem count_eq :
    (collection.count selector : StoreM UInt64) store
      =
    ((fun found => UInt64.ofNat found.length) <$> collection.selected selector store, store) := by
  unfold selected
  change (store.countDocuments selector.compile collection.name, store) = _
  unfold Store.countDocuments
  cases Predicate.select selector.compile (store.documents collection.name) with
  | error | ok => rfl

theorem aggregate_group (spec : Document) :
    store.aggregate [Stage.filter selector.compile, Stage.group spec] collection.name
      =
    collection.selected selector store >>= groupDocuments spec := by
  unfold Store.aggregate selected
  rw [Pipeline.run_cons, Stage.run_filter]
  congr 1
  funext found
  apply Pipeline.run_singleton

theorem group_eq (spec : Document) :
    (collection.group selector spec : StoreM (List Document)) store
      =
    (collection.selected selector store >>= groupDocuments spec, store) := by
  unfold group
  rw [Store.send_aggregate, aggregate_group]

def valueSpec (op field : String) : Document :=
  [("_id", .null), (valueField, .document [(op, .string (fieldRef field))])]

omit [Pattern.Engine] in
theorem readAll_valueSpec {op : String} {accumulator : Accumulator} (field : String)
    (hop : Accumulator.ofName? op = some accumulator) :
    GroupField.readAll (valueSpec op field) = .ok [⟨valueField, accumulator, .string (fieldRef field)⟩] := by
  unfold valueSpec GroupField.readAll
  rw [if_pos rfl]
  unfold GroupField.readAll
  rw [if_neg (by decide)]
  unfold GroupField.read
  dsimp only
  rw [hop]
  rfl

omit [Pattern.Engine] in
theorem groupDocuments_value {op : String} {accumulator : Accumulator} (field : String)
    (hop : Accumulator.ofName? op = some accumulator) (found : List Document) :
    groupDocuments (valueSpec op field) found
      =
    .ok ((accumulator.over? field found).map fun total => [("_id", .null), (valueField, total)]).toList := by
  unfold groupDocuments
  rw [readAll_valueSpec field hop]
  by_cases hempty : found = []
  · rw [hempty]
    rfl
  · have hkey : (Fields.get? (valueSpec op field) "_id").getD .null = .null := rfl
    rw [Outcome.ok_bind, hkey, Group.ofDocuments_null hempty, accumulator.over?_of_ne_nil field hempty,
      ← Document.map_evaluate_fieldRef]
    rfl

theorem accumulate_eq {op : String} {accumulator : Accumulator} (field : String)
    (hop : Accumulator.ofName? op = some accumulator) :
    (collection.accumulate selector op field : StoreM (Option Value)) store
      =
    (accumulator.over? field <$> collection.selected selector store, store) := by
  have hgroup := collection.group_eq selector store (valueSpec op field)
  refine (Store.bind_pure_of_read (fun rows => rows.head?.bind (Fields.get? · valueField)) hgroup).trans ?_
  cases collection.selected selector store with
  | error => rfl
  | ok found =>
    rw [Outcome.ok_bind, groupDocuments_value field hop]
    cases found with
    | nil | cons => rfl

theorem accumulate_defined_eq {op : String} {accumulator : Accumulator} (field : String)
    (hop : Accumulator.ofName? op = some accumulator) :
    ((do return (← collection.accumulate selector op field).filter (·.isDefined)) : StoreM (Option Value)) store
      =
    ((fun found => (accumulator.over? field found).filter (·.isDefined)) <$> collection.selected selector store,
      store) := by
  have haccumulate := collection.accumulate_eq selector store field hop
  refine (Store.bind_pure_of_read (fun total => total.filter (·.isDefined)) haccumulate).trans ?_
  cases collection.selected selector store with
  | error | ok => rfl

variable {collection selector store} in
theorem sum?_of_selected {found : List Document} (hselected : collection.selected selector store = .ok found)
    (hne : found ≠ []) (field : String) :
    (collection.sum? selector field : StoreM (Option Value)) store
      =
    (.ok (some (Accumulator.sum.total (found.map (·.sortValue field)))), store) := by
  have hsum := collection.accumulate_defined_eq selector store field
    (rfl : Accumulator.ofName? "$sum" = some .sum)
  have hover : (Accumulator.sum.over? field found).filter (·.isDefined)
      = some (Accumulator.sum.total (found.map (·.sortValue field))) := by
    rw [Accumulator.over?_of_ne_nil _ field hne, Option.filter_some, if_pos (Accumulator.isDefined_total_sum _)]
  rw [hselected] at hsum
  exact hsum.trans (congrArg (fun total => (Except.ok total, store)) hover)

theorem distinct_eq (field : String) :
    (collection.distinct selector field : StoreM (List Value)) store
      =
    ((fun found => distinctValues (found.map (·.sortValue field))) <$> collection.selected selector store,
      store) := by
  unfold distinct
  have haccumulate := collection.accumulate_eq selector store field
    (rfl : Accumulator.ofName? "$addToSet" = some .addToSet)
  cases hselected : collection.selected selector store with
  | error failure =>
    rw [hselected] at haccumulate
    exact Store.bind_of_error haccumulate
  | ok found =>
    rw [hselected] at haccumulate
    refine (Store.bind_of_ok haccumulate).trans ?_
    cases found with
    | nil | cons => rfl

end Collection
end DocQuery
