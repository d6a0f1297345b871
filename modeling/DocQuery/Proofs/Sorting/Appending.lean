import DocQuery.Proofs.Path.Segments
import DocQuery.Proofs.Path.Writing
import DocQuery.Proofs.Sorting.Order

/-!
This module contains what a key that is appended to an order does. The documents that the order tells apart stay as
they are and the key breaks ties, unless the field has a key already: then the appended direction takes effect at the
place of that key, and where it is another one, documents change places.
-/

namespace DocQuery
namespace Fields

variable {α : Type}

theorem ofList_append_singleton (entries : List (String × α)) (key : String) (value : α) :
    ofList (entries ++ [(key, value)]) = insert (ofList entries) key value := by
  unfold ofList merge
  rw [List.foldl_append]
  rfl

theorem nodup_names_ofList (entries : List (String × α)) : (names (ofList entries)).Nodup :=
  nodup_names_merge [] entries List.nodup_nil

end Fields

namespace Value

theorem fieldsHoldNumbers_iff {fields : List (String × Value)} :
    fieldsHoldNumbers fields = true ↔ ∀ field ∈ fields, field.2.holdsNumbers = true := by
  induction fields with
  | nil => simp [fieldsHoldNumbers]
  | cons field rest ih => simp [fieldsHoldNumbers, ih]

theorem itemsHoldNumbers_iff {items : List Value} :
    itemsHoldNumbers items = true ↔ ∀ item ∈ items, item.holdsNumbers = true := by
  induction items with
  | nil => simp [itemsHoldNumbers]
  | cons item rest ih => simp [itemsHoldNumbers, ih]

theorem holdsNumbers_child? {value child : Value} {segment : String} (h : value.holdsNumbers = true)
    (hchild : value.child? segment = some child) : child.holdsNumbers = true := by
  unfold child? at hchild
  split at hchild
  · exact fieldsHoldNumbers_iff.mp h _ (Fields.mem_of_get? hchild)
  · obtain ⟨index, -, hitem⟩ := Option.bind_eq_some_iff.mp hchild
    exact itemsHoldNumbers_iff.mp h _ (List.mem_of_getElem? hitem)
  · cases hchild

theorem holdsNumbers_descend? {value found : Value} {segments : List String} (h : value.holdsNumbers = true)
    (hfound : value.descend? segments = some found) : found.holdsNumbers = true := by
  induction segments generalizing value with
  | nil =>
    cases hfound
    exact h
  | cons segment rest ih =>
    obtain ⟨child, hchild, hrest⟩ := Option.bind_eq_some_iff.mp hfound
    exact ih (holdsNumbers_child? h hchild) hrest

end Value

namespace Document

def holdsNumbers (document : Document) : Bool := Value.fieldsHoldNumbers document

theorem holdsNumbers_sortValue {document : Document} (h : document.holdsNumbers = true) (field : String) :
    (document.sortValue field).holdsNumbers = true := by
  unfold sortValue
  cases hlookup : document.lookup? (.ofString field) with
  | none => rfl
  | some value =>
    obtain ⟨first, hfirst, hrest⟩ := Option.bind_eq_some_iff.mp hlookup
    have hnumbers : first.holdsNumbers = true := Value.fieldsHoldNumbers_iff.mp h _ (Fields.mem_of_get? hfirst)
    exact Value.holdsNumbers_descend? hnumbers hrest

theorem hasPlaces_of_holdsNumbers {document : Document} (h : document.holdsNumbers = true) (sort : Document) :
    HasPlaces sort document :=
  fun key _ => Value.hasPlace_of_holdsNumbers _ (holdsNumbers_sortValue h key.1)

def decider? (sort a b : Document) : Option (String × Value) :=
  sort.find? fun key => compareAt key.1 key.2 a b != .eq

theorem decider?_cons (key : String × Value) (rest a b : Document) :
    decider? (key :: rest) a b = if compareAt key.1 key.2 a b = .eq then decider? rest a b else some key := by
  unfold decider?
  rw [List.find?_cons]
  cases compareAt key.1 key.2 a b with
  | lt | eq | gt => rfl

theorem compareAt_of_isDescending_eq {order other : Value} (h : order.isDescending = other.isDescending)
    (field : String) (a b : Document) : compareAt field order a b = compareAt field other a b := by
  unfold compareAt
  rw [h]

theorem compareAt_of_isDescending_ne {order other : Value} (h : order.isDescending ≠ other.isDescending)
    (field : String) (a b : Document) : compareAt field other a b = (compareAt field order a b).swap := by
  have hother : other.isDescending = !order.isDescending := Bool.eq_not.mpr h.symm
  unfold compareAt
  rw [hother]
  cases order.isDescending with
  | true | false => exact Value.order_swap _ _

theorem compareAt_eq_eq_iff (field : String) (order other : Value) (a b : Document) :
    compareAt field other a b = .eq ↔ compareAt field order a b = .eq := by
  by_cases h : order.isDescending = other.isDescending
  · rw [compareAt_of_isDescending_eq h]
  · rw [compareAt_of_isDescending_ne h, Ordering.swap_eq_eq]

theorem mem_of_decider?_eq_some {sort a b : Document} {key : String × Value} (h : decider? sort a b = some key) :
    key ∈ sort :=
  List.mem_of_find?_eq_some h

theorem compareBy_insert_eq_lt_iff {sort a b : Document} (hnodup : (Fields.names sort).Nodup) (field : String)
    (order : Value) (h : compareBy sort a b = .lt) :
    compareBy (Fields.insert sort field order) a b = .lt
      ↔
    ∀ old, decider? sort a b = some (field, old) → old.isDescending = order.isDescending := by
  induction sort with
  | nil => cases h
  | cons key rest ih =>
    rcases key with ⟨name, old⟩
    rw [Fields.names, List.map_cons, List.nodup_cons] at hnodup
    rw [compareBy] at h
    rw [Fields.insert]
    cases hkey : compareAt name old a b with
    | eq =>
      -- a later key tells the documents apart
      rw [hkey] at h
      rw [decider?_cons, if_pos hkey]
      split
      · next hname =>
        rw [compareBy, (compareAt_eq_eq_iff name old order a b).mpr hkey]
        apply iff_of_true h
        intro other hother
        have hmem : field ∈ Fields.names rest := List.mem_map_of_mem (mem_of_decider?_eq_some hother)
        exact absurd (hname ▸ hmem) hnodup.1
      · rw [compareBy, hkey]
        exact ih hnodup.2 h
    | lt =>
      have hdecider : decider? ((name, old) :: rest) a b = some (name, old) := by
        rw [decider?_cons, hkey]
        rfl
      rw [hdecider]
      split
      · next hname =>
        subst hname
        simp only [Option.some.injEq, Prod.mk.injEq, true_and, forall_eq']
        rw [compareBy]
        by_cases hsense : old.isDescending = order.isDescending
        · rw [← compareAt_of_isDescending_eq hsense, hkey]
          exact iff_of_true rfl hsense
        · rw [compareAt_of_isDescending_ne hsense, hkey]
          apply iff_of_false
          · simp [Ordering.then]
          · exact hsense
      · next hname =>
        rw [compareBy, hkey]
        apply iff_of_true rfl
        rintro other hother
        cases hother
        exact absurd rfl hname
    | gt =>
      rw [hkey] at h
      cases h

def lone (field : String) (n : Int32) : Document := set [] (.ofString field) (.int32 n)

theorem sortValue_lone (field : String) (n : Int32) : (lone field n).sortValue field = .int32 n := by
  unfold sortValue lone
  rw [lookup?_set]
  rfl

theorem sortValue_lone_of_ne {field other : String} (h : other ≠ field) :
    (∀ n, (lone field n).sortValue other = .null) ∨ ∀ n, ∃ inner, (lone field n).sortValue other = .document inner := by
  have hpath : Path.ofString other ≠ Path.ofString field := fun heq => h (Path.ofString_injective heq)
  have hnull : (∀ n, (lone field n).lookup? (.ofString other) = none) →
      ∀ n, (lone field n).sortValue other = .null := by
    intro hnone n
    rw [sortValue, hnone]
    rfl
  by_cases hother : (Path.ofString other).LeadsTo (.ofString field)
  · right
    intro n
    obtain ⟨inner, hinner⟩ := lookup?_set_of_leadsTo [] (.int32 n) hother hpath
    refine ⟨inner, ?_⟩
    rw [sortValue, lone, hinner]
    rfl
  · left
    apply hnull
    intro n
    by_cases hfield : (Path.ofString field).LeadsTo (.ofString other)
    · exact lookup?_set_of_leadsTo_other [] (fun _ => rfl) hfield hpath.symm
    · exact lookup?_set_of_apart (.int32 n) ⟨hfield, hother⟩ (not_sharesArray_nil _ _)

theorem compareAt_lone_of_ne {field other : String} (h : other ≠ field) (order : Value) (m n : Int32) :
    compareAt other order (lone field m) (lone field n) = .eq := by
  have horder : ∀ m n, ((lone field m).sortValue other).order ((lone field n).sortValue other) = .eq := by
    intro m n
    rcases sortValue_lone_of_ne h with hnull | hdocument
    · rw [hnull m, hnull n]
      rfl
    · obtain ⟨inner, hm⟩ := hdocument m
      obtain ⟨inner', hn⟩ := hdocument n
      rw [hm, hn]
      exact Collated.order_map _ _
  unfold compareAt
  split
  · exact horder n m
  · exact horder m n

theorem holdsNumbers_set_nil {value : Value} (path : Path) (h : value.holdsNumbers = true) :
    holdsNumbers (set [] path value) = true := by
  induction path using Path.induction_below with
  | field name => simp [set, setAt, Fields.insert, holdsNumbers, Value.fieldsHoldNumbers, h]
  | below name path ih =>
    rw [set_below]
    simpa [under, Fields.insert, holdsNumbers, Value.fieldsHoldNumbers, Value.holdsNumbers] using ih

theorem holdsNumbers_lone (field : String) (n : Int32) : (lone field n).holdsNumbers = true := by
  apply holdsNumbers_set_nil
  rfl

theorem exists_told_apart (field : String) (order : Value) :
    ∃ a b : Document, a.holdsNumbers = true ∧ b.holdsNumbers = true ∧ compareAt field order a b = .lt
      ∧ ∀ other direction, other ≠ field → compareAt other direction a b = .eq := by
  cases hsense : order.isDescending with
  | false =>
    refine ⟨lone field 1, lone field 2, holdsNumbers_lone _ _, holdsNumbers_lone _ _, ?_, ?_⟩
    · rw [compareAt, hsense, sortValue_lone, sortValue_lone]
      decide
    · exact fun other direction hne => compareAt_lone_of_ne hne direction 1 2
  | true =>
    refine ⟨lone field 2, lone field 1, holdsNumbers_lone _ _, holdsNumbers_lone _ _, ?_, ?_⟩
    · rw [compareAt, hsense, sortValue_lone, sortValue_lone]
      decide
    · exact fun other direction hne => compareAt_lone_of_ne hne direction 2 1

theorem decided_of_told_apart {sort a b : Document} {field : String} {order : Value}
    (hget : Fields.get? sort field = some order) (hfield : compareAt field order a b = .lt)
    (hothers : ∀ other direction, other ≠ field → compareAt other direction a b = .eq) :
    decider? sort a b = some (field, order) ∧ compareBy sort a b = .lt := by
  induction sort with
  | nil => cases hget
  | cons key rest ih =>
    rcases key with ⟨name, direction⟩
    rw [Fields.get?_cons] at hget
    rw [decider?_cons, compareBy]
    split at hget
    · next hname =>
      cases hget
      subst hname
      rw [hfield]
      exact ⟨rfl, rfl⟩
    · next hname =>
      rw [hothers name direction hname]
      exact ih hget

end Document

def SortOrder.native (order : SortOrder) : Document := order.compile?.getD []

namespace SortOrder

theorem native_eq (order : SortOrder) :
    order.native = .ofList (order.keys.map fun key => (key.1, key.2.compile)) := by
  unfold native compile?
  cases order.keys with
  | nil | cons => rfl

theorem native_thenBy (order : SortOrder) (field : String) (direction : Direction) :
    (order.thenBy field direction).native = Fields.insert order.native field direction.compile := by
  rw [native_eq, native_eq, thenBy, List.map_append]
  exact Fields.ofList_append_singleton _ _ _

theorem nodup_names_native (order : SortOrder) : (Fields.names order.native).Nodup := by
  rw [native_eq]
  apply Fields.nodup_names_ofList

/--
Does an order put every copy of one document before every copy of another one, whatever else is sorted with them and
in whatever order they come, as long as every double in the documents is a number?
-/
def PutsBefore (order : SortOrder) (a b : Document) : Prop :=
  ∀ documents : List Document, (∀ document ∈ documents, document.holdsNumbers = true) →
    (sortDocuments order.native documents).Pairwise fun earlier later => ¬(earlier = b ∧ later = a)

theorem putsBefore_iff {order : SortOrder} {a b : Document} (ha : a.holdsNumbers = true)
    (hb : b.holdsNumbers = true) : order.PutsBefore a b ↔ Document.compareBy order.native a b = .lt := by
  constructor
  · intro h
    have hpair := h [b, a] (by simp [ha, hb])
    by_contra hlt
    have hsorted : sortDocuments order.native [b, a] = [b, a] := by
      simp [sortDocuments, sortStable, insertFromEnd, hlt]
    rw [hsorted] at hpair
    simp at hpair
  · intro hlt documents hnumbers
    have hplaces : ∀ document ∈ documents, Document.HasPlaces order.native document :=
      fun document hdocument => Document.hasPlaces_of_holdsNumbers (hnumbers document hdocument) _
    apply (isSorting_sortDocuments hplaces).ordered.imp
    rintro earlier later hordered ⟨rfl, rfl⟩
    exact hordered (Document.compareBy_eq_lt_iff.mp hlt)

theorem breaks_ties_thenBy_iff (order : SortOrder) (field : String) (direction : Direction) :
    (∀ a b : Document, a.holdsNumbers = true → b.holdsNumbers = true → order.PutsBefore a b →
        ((order.thenBy field direction).PutsBefore a b
          ↔
        ∀ old, order.native.decider? a b = some (field, old) → old.isDescending = direction.compile.isDescending))
      ∧
    ((∀ a b : Document, a.holdsNumbers = true → b.holdsNumbers = true → order.PutsBefore a b →
        (order.thenBy field direction).PutsBefore a b)
      ↔
    ∀ old, Fields.get? order.native field = some old → old.isDescending = direction.compile.isDescending) := by
  have heach : ∀ a b : Document, a.holdsNumbers = true → b.holdsNumbers = true → order.PutsBefore a b →
      ((order.thenBy field direction).PutsBefore a b
        ↔
      ∀ old, order.native.decider? a b = some (field, old) →
        old.isDescending = direction.compile.isDescending) := by
    intro a b ha hb h
    rw [putsBefore_iff ha hb] at h
    rw [putsBefore_iff ha hb, native_thenBy]
    exact Document.compareBy_insert_eq_lt_iff order.nodup_names_native field _ h
  refine ⟨heach, ?_⟩
  constructor
  · intro h old hget
    obtain ⟨a, b, ha, hb, hfield, hothers⟩ := Document.exists_told_apart field old
    obtain ⟨hdecider, hlt⟩ := Document.decided_of_told_apart hget hfield hothers
    have hbefore : order.PutsBefore a b := (putsBefore_iff ha hb).mpr hlt
    exact (heach a b ha hb hbefore).mp (h a b ha hb hbefore) old hdecider
  · intro h a b ha hb hbefore
    apply (heach a b ha hb hbefore).mpr
    intro old hdecider
    apply h
    apply Fields.get?_of_mem order.nodup_names_native
    exact Document.mem_of_decider?_eq_some hdecider

theorem breaks_ties_thenBy_iff_tie :
    let order := (SortOrder.natural.thenBy "n" .descending).thenBy "meta.tag" .ascending
    let a : Document := [("n", .int32 2), ("meta", .document [("tag", .string "a")])]
    let b : Document := [("n", .double 2), ("meta", .document [("tag", .string "b")])]
    a.holdsNumbers = true ∧ b.holdsNumbers = true ∧ order.PutsBefore a b
      ∧
    (order.thenBy "n" .ascending).PutsBefore a b
      ∧
    (order.thenBy "meta" .ascending).PutsBefore a b := by
  intro order a b
  have ha : a.holdsNumbers = true := by decide
  have hb : b.holdsNumbers = true := by decide
  have hbefore : order.PutsBefore a b := by
    rw [putsBefore_iff ha hb]
    decide
  have hdecider : order.native.decider? a b = some ("meta.tag", .int32 1) := by rfl
  have hget : Fields.get? order.native "meta" = none := by decide
  refine ⟨ha, hb, hbefore, ?_, ?_⟩
  · apply ((breaks_ties_thenBy_iff order "n" .ascending).1 a b ha hb hbefore).mpr
    intro old hold
    simp [hdecider] at hold
  · apply (breaks_ties_thenBy_iff order "meta" .ascending).2.mpr
    · intro old hold
      simp [hget] at hold
    · exact ha
    · exact hb
    · exact hbefore

theorem not_breaks_ties_of_repeated_field :
    ¬∀ (order : SortOrder) (field : String) (direction : Direction) (a b : Document),
      a.holdsNumbers = true → b.holdsNumbers = true → order.PutsBefore a b →
        (order.thenBy field direction).PutsBefore a b := by
  intro h
  have hbefore : (SortOrder.natural.thenBy "x" .ascending).PutsBefore [("x", .int32 1)] [("x", .int32 2)] := by
    rw [putsBefore_iff rfl rfl]
    decide
  have hafter := h _ "x" .descending _ _ rfl rfl hbefore
  rw [putsBefore_iff rfl rfl] at hafter
  revert hafter
  decide

end SortOrder
end DocQuery
