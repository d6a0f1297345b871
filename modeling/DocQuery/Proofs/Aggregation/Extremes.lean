import DocQuery.Proofs.Aggregation.Accumulated
import DocQuery.Proofs.Sorting.Least

/-!
This module contains the proof that the extrema of a field are what a read sorted by the field has first, past
the documents that have nothing there.
-/

namespace DocQuery

theorem extreme?_eq_least? (wanted : Ordering) (values : List Value) :
    extreme? wanted values
      =
    least? (fun value old => value.order old == wanted) (values.filter (·.isDefined)) := by
  unfold extreme? least?
  congr 1
  funext best value
  cases best with
  | none | some => rfl

theorem filter_getD_extreme? (wanted : Ordering) (values : List Value) :
    (some ((extreme? wanted values).getD .null)).filter (·.isDefined) = extreme? wanted values := by
  cases hextreme : extreme? wanted values with
  | none => rfl
  | some extreme =>
    rw [extreme?_eq_least?] at hextreme
    have hdefined := (List.mem_filter.mp (mem_of_least?_eq_some hextreme)).2
    rw [Option.getD_some, Option.filter_some, if_pos hdefined]

def Value.Seeks (order : Value) (wanted : Ordering) : Prop :=
  ∀ (field : String) (a b : Document),
    (Document.compareBy [(field, order)] a b == .lt) = ((a.sortValue field).order (b.sortValue field) == wanted)

theorem Value.seeks_ascending : (Value.int32 1).Seeks .lt := by
  intro field a b
  have hcompare : Document.compareBy [(field, .int32 1)] a b = (a.sortValue field).order (b.sortValue field) :=
    Ordering.then_eq
  rw [hcompare]

theorem Value.seeks_descending : (Value.int32 (-1)).Seeks .gt := by
  intro field a b
  have hcompare : Document.compareBy [(field, .int32 (-1))] a b = (b.sortValue field).order (a.sortValue field) :=
    Ordering.then_eq
  rw [hcompare, Value.order_swap]
  cases (a.sortValue field).order (b.sortValue field) with
  | lt | eq | gt => rfl

theorem extreme?_eq_head? {order : Value} {wanted : Ordering} {field : String} {documents : List Document}
    (hseeks : order.Seeks wanted) (h : ∀ document ∈ documents, (document.sortValue field).hasPlace = true) :
    extreme? wanted (documents.map (·.sortValue field))
      =
    ((sortDocuments [(field, order)] documents).filter (·.carries field)).head?.map (·.sortValue field) := by
  have horders : Orders (fun a b => Document.compareBy [(field, order)] a b == .lt) documents := by
    apply Document.orders_compareBy
    intro document hdocument
    exact List.forall_mem_singleton.mpr (h document hdocument)
  have hcarries : (fun document : Document => (document.sortValue field).isDefined) = (·.carries field) :=
    funext fun document => (document.carries_eq field).symm
  have hprecedes : (fun a b => Document.compareBy [(field, order)] a b == .lt)
      = fun a b => (a.sortValue field).order (b.sortValue field) == wanted :=
    funext fun a => funext fun b => hseeks field a b
  rw [sortDocuments, ← sortStable_filter _ horders,
    head?_sortStable (horders.subset (List.filter_subset_self _)), hprecedes, extreme?_eq_least?,
    List.filter_map, least?_map]
  exact congrArg (fun p => (least? _ (documents.filter p)).map (·.sortValue field)) hcarries

namespace Collection

variable (collection : Collection) (selector : Selector) (store : Store) (field : String)

section

variable [Pattern.Engine]

theorem find_sorted (sort : Document) :
    store.find selector.compile { sort := some sort } collection.name
      =
    sortDocuments sort <$> collection.selected selector store := by
  unfold Store.find selected
  cases Predicate.select selector.compile (store.documents collection.name) with
  | error | ok => rfl

theorem extreme_eq_sorted {op : String} {accumulator : Accumulator} {order : Value} {wanted : Ordering}
    (hop : Accumulator.ofName? op = some accumulator)
    (htotal : ∀ values, accumulator.total values = (extreme? wanted values).getD .null)
    (hseeks : order.Seeks wanted)
    (h : ∀ found, collection.selected selector store = .ok found →
      ∀ document ∈ found, (document.sortValue field).hasPlace = true) :
    ((do return (← collection.accumulate selector op field).filter (·.isDefined)) : StoreM (Option Value)) store
      =
    ((fun rows => (rows.filter (·.carries field)).head?.map (·.sortValue field))
      <$> store.find selector.compile { sort := some [(field, order)] } collection.name, store) := by
  rw [collection.accumulate_defined_eq selector store field hop, find_sorted]
  cases hselected : collection.selected selector store with
  | error => rfl
  | ok found =>
    have hhead := extreme?_eq_head? hseeks (h found hselected)
    have hover : (accumulator.over? field found).filter (·.isDefined)
        = extreme? wanted (found.map (·.sortValue field)) := by
      by_cases hempty : found = []
      · rw [hempty]
        rfl
      · rw [accumulator.over?_of_ne_nil field hempty, htotal, filter_getD_extreme?]
    exact congrArg (fun extreme => (Except.ok extreme, store)) (hover.trans hhead)

theorem extrema_eq_sorted
    (h : ∀ found, store.find selector.compile {} collection.name = .ok found →
      ∀ document ∈ found, (document.sortValue field).hasPlace = true) :
    (collection.min? selector field : StoreM (Option Value)) store
        =
      ((fun rows => (rows.filter (·.carries field)).head?.map (·.sortValue field))
        <$> store.find selector.compile { sort := some [(field, .int32 1)] } collection.name, store)
      ∧
    (collection.max? selector field : StoreM (Option Value)) store
        =
      ((fun rows => (rows.filter (·.carries field)).head?.map (·.sortValue field))
        <$> store.find selector.compile { sort := some [(field, .int32 (-1))] } collection.name, store) := by
  rw [find_eq_selected] at h
  constructor
  · exact collection.extreme_eq_sorted selector store field rfl (fun _ => rfl) Value.seeks_ascending h
  · exact collection.extreme_eq_sorted selector store field rfl (fun _ => rfl) Value.seeks_descending h

end

theorem extrema_eq_sorted_mixed :
    let entry (id : Int32) (value : Value) : Document := [("_id", .int32 id), ("n", value)]
    let documents : List Document :=
      [entry 1 (.string "b"), entry 2 .null, entry 3 (.double 1), [("_id", .int32 4)], entry 5 (.int32 1),
        entry 6 .undefined, entry 7 (.document [("a", .double (0 / 0))]), entry 8 (.document []),
        entry 9 (.int64 1)]
    let store : Store := ⟨[("c", documents)], Store.firstId⟩
    (∀ found, store.find Selector.all.compile {} "c" = .ok found →
        ∀ document ∈ found, (document.sortValue "n").hasPlace = true)
      ∧
    (min? ⟨"c", {}⟩ .all "n" : StoreM (Option Value)) store = (.ok (some (.double 1)), store)
      ∧
    (max? ⟨"c", {}⟩ .all "n" : StoreM (Option Value)) store
      = (.ok (some (.document [("a", .double (0 / 0))])), store) := by
  intro entry documents store
  have hplaces : ∀ found, store.find Selector.all.compile {} "c" = .ok found →
      ∀ document ∈ found, (document.sortValue "n").hasPlace = true := by
    intro found hfound
    cases hfound
    decide
  have hextrema := extrema_eq_sorted ⟨"c", {}⟩ .all store "n" hplaces
  refine ⟨hplaces, ?_, ?_⟩
  · rw [hextrema.1]
    dsimp only [store, documents, entry]
    rfl
  · rw [hextrema.2]
    dsimp only [store, documents, entry]
    rfl

end Collection
end DocQuery
