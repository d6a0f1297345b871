import DocQuery.Proofs.Aggregation.Accumulated

/-!
This module contains what the distinct values of a field say about the documents: which values are listed, and
where one is listed that no document has, since a document without the field counts as one that holds null.
-/

namespace DocQuery

theorem any_distinctValues {values : List Value} (h : ∀ value ∈ values, value.holdsNumbers = true)
    (value : Value) : (distinctValues values).any (·.equals value) = values.any (·.equals value) := by
  rw [Bool.eq_iff_iff, List.any_eq_true, List.any_eq_true]
  constructor
  · rintro ⟨old, hold, hequals⟩
    exact ⟨old, distinctValues_subset values hold, hequals⟩
  · rintro ⟨old, hold, hequals⟩
    obtain ⟨key, hkey, hsame⟩ := exists_mem_distinctValues hold h
    exact ⟨key, hkey, Value.equals_trans hsame hequals⟩

theorem mem_distinctValues_append_singleton {values : List Value}
    (h : ∀ value ∈ values, value.holdsNumbers = true) (last value : Value) :
    value ∈ distinctValues (values ++ [last])
      ↔
    value ∈ distinctValues values ∨ value = last ∧ values.find? (·.equals last) = none := by
  rw [distinctValues_append_singleton, any_distinctValues h, ← List.isSome_find?]
  cases hold : values.find? (·.equals last) with
  | none =>
    rw [if_neg (by simp), List.mem_append, List.mem_singleton]
    simp
  | some first =>
    rw [if_pos Option.isSome_some]
    simp

theorem mem_distinctValues_iff {values : List Value} (h : ∀ value ∈ values, value.holdsNumbers = true)
    (value : Value) : value ∈ distinctValues values ↔ values.find? (·.equals value) = some value := by
  induction values using List.reverseRecOn with
  | nil => simp [distinctValues]
  | append_singleton values last ih =>
    rw [List.forall_mem_append] at h
    have hlast : last.equals last = true := Value.equals_self last (h.2 last (List.mem_singleton_self last))
    rw [mem_distinctValues_append_singleton h.1, ih h.1, List.find?_append, Option.or_eq_some_iff,
      List.find?_singleton]
    apply or_congr_right
    constructor
    · rintro ⟨rfl, hnew⟩
      exact ⟨hnew, if_pos hlast⟩
    · rintro ⟨hnew, hfind⟩
      split at hfind
      · cases hfind
        exact ⟨rfl, hnew⟩
      · cases hfind

theorem Value.equals_null (value : Value) : value.equals .null = !value.isDefined := by
  cases value <;> rfl

theorem Value.equals_of_not_defined {value : Value} (h : value.isDefined = false) (other : Value) :
    other.equals value = !other.isDefined := by
  cases value with
  | null => exact other.equals_null
  | undefined => exact other.equals_null
  | _ => cases h

theorem Document.sortValue_of_lookup? {document : Document} {field : String} {value : Value}
    (h : document.lookup? (.ofString field) = some value) : document.sortValue field = value := by
  rw [sortValue, h]
  rfl

theorem Document.sortValue_of_lookup?_eq_none {document : Document} {field : String}
    (h : document.lookup? (.ofString field) = none) : document.sortValue field = .null := by
  rw [sortValue, h]
  rfl

theorem Document.equals_sortValue_of_not_defined (field : String) {value : Value} (h : value.isDefined = false) :
    (fun document : Document => (document.sortValue field).equals value)
      =
    fun document => !document.carries field := by
  funext document
  rw [Value.equals_of_not_defined h, carries_eq]

theorem length_eq_ncard {values : List Value} (h : ∀ value ∈ values, value.holdsNumbers = true)
    (hunequal : values.Pairwise fun earlier later => earlier.equals later = false) :
    values.length = Set.ncard {held : Value → Bool | ∃ value ∈ values, value.equals = held} := by
  classical
  have hnodup : (values.map Value.equals).Nodup := by
    rw [List.Nodup, List.pairwise_map]
    apply hunequal.imp_of_mem
    intro earlier later _ hlater hdiffer hsame
    rw [hsame, Value.equals_self later (h later hlater)] at hdiffer
    cases hdiffer
  have hset : {held : Value → Bool | ∃ value ∈ values, value.equals = held}
      = ↑(values.map Value.equals).toFinset := by
    ext held
    simp
  rw [hset, Set.ncard_coe_finset, List.toFinset_card_of_nodup hnodup, List.length_map]

def heldAlike (field : String) (documents : List Document) : Set (Value → Bool) :=
  {alike | ∃ document ∈ documents, ∃ value, document.lookup? (.ofString field) = some value ∧ value.equals = alike}

/--
A list has one value for all the equal ones that documents hold at a field, and no others.
-/
structure ListsHeld (field : String) (documents : List Document) (values : List Value) : Prop where
  unequal : values.Pairwise fun earlier later => earlier.equals later = false
  held : ∀ value ∈ values, ∃ document ∈ documents, document.lookup? (.ofString field) = some value
  complete : ∀ document ∈ documents, ∀ value, document.lookup? (.ofString field) = some value →
    ∃ listed ∈ values, listed.equals value = true
  counted : values.length = (heldAlike field documents).ncard

def NullIsHeld (field : String) (documents : List Document) : Prop :=
  ∀ first, documents.find? (fun document => !document.carries field) = some first →
    (first.lookup? (.ofString field)).isSome
      ∨
    ∃ document ∈ documents, document.lookup? (.ofString field) = some .null

def AbsentIsHeld (field : String) (documents : List Document) : Prop :=
  (∀ document ∈ documents, (document.lookup? (.ofString field)).isSome)
    ∨
  ∃ document ∈ documents, ∃ value, document.lookup? (.ofString field) = some value ∧ value.isDefined = false

theorem NullIsHeld.absentIsHeld {field : String} {documents : List Document} (h : NullIsHeld field documents) :
    AbsentIsHeld field documents := by
  cases hfirst : documents.find? (fun document => !document.carries field) with
  | none =>
    left
    intro document hdocument
    have hcarries := List.find?_eq_none.mp hfirst document hdocument
    unfold Document.carries at hcarries
    cases hlookup : document.lookup? (.ofString field) with
    | some => rfl
    | none =>
      rw [hlookup] at hcarries
      exact absurd rfl hcarries
  | some first =>
    right
    rcases h first hfirst with hsome | ⟨document, hdocument, hlookup⟩
    · obtain ⟨value, hlookup⟩ := Option.isSome_iff_exists.mp hsome
      have hcarries := List.find?_some hfirst
      rw [Document.carries, hlookup, Option.any_some, Bool.not_eq_true'] at hcarries
      exact ⟨first, List.mem_of_find?_eq_some hfirst, value, hlookup, hcarries⟩
    · exact ⟨document, hdocument, .null, hlookup, rfl⟩

theorem holdsNumbers_of_all {field : String} {documents : List Document}
    (h : ∀ document ∈ documents, (document.lookup? (.ofString field)).all (·.holdsNumbers) = true) :
    ∀ document ∈ documents, ∀ value, document.lookup? (.ofString field) = some value →
      value.holdsNumbers = true := by
  intro document hdocument value hlookup
  have hvalue := h document hdocument
  rwa [hlookup, Option.all_some] at hvalue

theorem heldAlike_subset {field : String} {documents : List Document} :
    heldAlike field documents ⊆ {alike | ∃ document ∈ documents, (document.sortValue field).equals = alike} := by
  rintro alike ⟨document, hdocument, value, hlookup, rfl⟩
  exact ⟨document, hdocument, congrArg Value.equals (Document.sortValue_of_lookup? hlookup)⟩

section

variable {field : String} {documents : List Document}
  (h : ∀ document ∈ documents, ∀ value, document.lookup? (.ofString field) = some value →
    value.holdsNumbers = true)

include h

theorem holdsNumbers_sortValue : ∀ value ∈ documents.map (·.sortValue field), value.holdsNumbers = true := by
  rw [List.forall_mem_map]
  intro document hdocument
  cases hlookup : document.lookup? (.ofString field) with
  | none =>
    rw [Document.sortValue_of_lookup?_eq_none hlookup]
    rfl
  | some value =>
    rw [Document.sortValue_of_lookup? hlookup]
    exact h document hdocument value hlookup

theorem complete_distinctValues {document : Document} (hdocument : document ∈ documents) {value : Value}
    (hlookup : document.lookup? (.ofString field) = some value) :
    ∃ listed ∈ distinctValues (documents.map (·.sortValue field)), listed.equals value = true := by
  have hmem : document.sortValue field ∈ documents.map (·.sortValue field) := List.mem_map_of_mem hdocument
  rw [Document.sortValue_of_lookup? hlookup] at hmem
  exact exists_mem_distinctValues hmem (holdsNumbers_sortValue h)

theorem mem_distinctValues_sortValue_iff (value : Value) :
    value ∈ distinctValues (documents.map (·.sortValue field))
      ↔
    ∃ first, documents.find? (fun document => (document.sortValue field).equals value) = some first
      ∧ first.sortValue field = value := by
  rw [mem_distinctValues_iff (holdsNumbers_sortValue h), List.find?_map, Option.map_eq_some_iff]
  rfl

theorem held_distinctValues_iff :
    (∀ value ∈ distinctValues (documents.map (·.sortValue field)),
        ∃ document ∈ documents, document.lookup? (.ofString field) = some value)
      ↔
    NullIsHeld field documents := by
  constructor
  · intro hheld first hfirst
    cases hlookup : first.lookup? (.ofString field) with
    | some => exact .inl rfl
    | none =>
      right
      apply hheld
      rw [mem_distinctValues_sortValue_iff h, Document.equals_sortValue_of_not_defined field rfl]
      exact ⟨first, hfirst, Document.sortValue_of_lookup?_eq_none hlookup⟩
  · intro hnull value hvalue
    obtain ⟨first, hfirst, rfl⟩ := (mem_distinctValues_sortValue_iff h value).mp hvalue
    cases hlookup : first.lookup? (.ofString field) with
    | some held =>
      rw [Document.sortValue_of_lookup? hlookup]
      exact ⟨first, List.mem_of_find?_eq_some hfirst, hlookup⟩
    | none =>
      -- the value is null, which the first document without one stands for
      have hgap := Document.sortValue_of_lookup?_eq_none hlookup
      rw [hgap, Document.equals_sortValue_of_not_defined field rfl] at hfirst
      have hother := hnull first hfirst
      rw [hlookup] at hother
      rw [hgap]
      exact hother.resolve_left nofun

theorem alike_distinctValues :
    {alike | ∃ value ∈ distinctValues (documents.map (·.sortValue field)), value.equals = alike}
      =
    {alike | ∃ document ∈ documents, (document.sortValue field).equals = alike} := by
  have hnumbers := holdsNumbers_sortValue h
  ext alike
  constructor
  · rintro ⟨value, hvalue, rfl⟩
    obtain ⟨document, hdocument, rfl⟩ := List.mem_map.mp (distinctValues_subset _ hvalue)
    exact ⟨document, hdocument, rfl⟩
  · rintro ⟨document, hdocument, rfl⟩
    have hmem := List.mem_map_of_mem (f := (·.sortValue field)) hdocument
    obtain ⟨value, hvalue, hequals⟩ := exists_mem_distinctValues hmem hnumbers
    exact ⟨value, hvalue, (Value.equals_iff_class_eq (hnumbers _ hmem)).mp hequals⟩

theorem length_distinctValues :
    (distinctValues (documents.map (·.sortValue field))).length
      =
    {alike | ∃ document ∈ documents, (document.sortValue field).equals = alike}.ncard := by
  have hnumbers := holdsNumbers_sortValue h
  rw [← alike_distinctValues h]
  apply length_eq_ncard
  · exact fun value hvalue => hnumbers value (distinctValues_subset _ hvalue)
  · apply pairwise_distinctValues

theorem length_distinctValues_of_absentIsHeld (hheld : AbsentIsHeld field documents) :
    (distinctValues (documents.map (·.sortValue field))).length = (heldAlike field documents).ncard := by
  rw [length_distinctValues h]
  congr 1
  apply Set.Subset.antisymm _ heldAlike_subset
  rintro alike ⟨document, hdocument, rfl⟩
  cases hlookup : document.lookup? (.ofString field) with
  | some value =>
    rw [Document.sortValue_of_lookup? hlookup]
    exact ⟨document, hdocument, value, hlookup, rfl⟩
  | none =>
    rw [Document.sortValue_of_lookup?_eq_none hlookup]
    rcases hheld with hall | ⟨other, hother, value, hvalue, hundefined⟩
    · have hsome := hall document hdocument
      rw [hlookup] at hsome
      cases hsome
    · refine ⟨other, hother, value, hvalue, ?_⟩
      rw [← Value.equals_iff_class_eq rfl, Value.equals_null, hundefined]
      rfl

theorem length_distinctValues_of_not_held {document : Document} (hdocument : document ∈ documents)
    (hnone : document.lookup? (.ofString field) = none)
    (hdefined : ∀ other ∈ documents, ∀ value, other.lookup? (.ofString field) = some value →
      value.isDefined = true) :
    (distinctValues (documents.map (·.sortValue field))).length = (heldAlike field documents).ncard + 1 := by
  have hset : {alike | ∃ document ∈ documents, (document.sortValue field).equals = alike}
      = insert Value.null.equals (heldAlike field documents) := by
    apply Set.Subset.antisymm
    · rintro alike ⟨other, hother, rfl⟩
      cases hlookup : other.lookup? (.ofString field) with
      | none =>
        rw [Document.sortValue_of_lookup?_eq_none hlookup]
        exact Set.mem_insert _ _
      | some value =>
        rw [Document.sortValue_of_lookup? hlookup]
        exact Set.mem_insert_of_mem _ ⟨other, hother, value, hlookup, rfl⟩
    · rw [Set.insert_subset_iff]
      refine ⟨⟨document, hdocument, ?_⟩, heldAlike_subset⟩
      rw [Document.sortValue_of_lookup?_eq_none hnone]
  -- without this `ncard` could not tell the two sets apart, as it is zero for infinite ones
  have hfinite : (heldAlike field documents).Finite := by
    apply (documents.map fun document => (document.sortValue field).equals).finite_toSet.subset
    intro alike halike
    obtain ⟨other, hother, rfl⟩ := heldAlike_subset halike
    exact List.mem_map.mpr ⟨other, hother, rfl⟩
  have hnew : Value.null.equals ∉ heldAlike field documents := by
    rintro ⟨other, hother, value, hlookup, halike⟩
    have hequals : value.equals .null = true := by
      rw [halike]
      rfl
    rw [Value.equals_null, hdefined other hother value hlookup] at hequals
    cases hequals
  rw [length_distinctValues h, hset, Set.ncard_insert_of_notMem hnew hfinite]

theorem length_distinctValues_eq_iff :
    (distinctValues (documents.map (·.sortValue field))).length = (heldAlike field documents).ncard
      ↔
    AbsentIsHeld field documents := by
  constructor
  · intro hlength
    by_contra hgap
    rw [AbsentIsHeld, not_or] at hgap
    obtain ⟨hlacks, hnone⟩ := hgap
    have hdefined : ∀ other ∈ documents, ∀ value, other.lookup? (.ofString field) = some value →
        value.isDefined = true := by
      intro other hother value hlookup
      rw [← Bool.not_eq_false]
      exact fun hundefined => hnone ⟨other, hother, value, hlookup, hundefined⟩
    apply hlacks
    intro document hdocument
    rw [Option.isSome_iff_ne_none]
    intro hlookup
    have hmore := length_distinctValues_of_not_held h hdocument hlookup hdefined
    omega
  · exact length_distinctValues_of_absentIsHeld h

theorem listsHeld_distinctValues_iff :
    ListsHeld field documents (distinctValues (documents.map (·.sortValue field))) ↔ NullIsHeld field documents := by
  constructor
  · intro hlists
    exact (held_distinctValues_iff h).mp hlists.held
  · intro hnull
    constructor
    · apply pairwise_distinctValues
    · exact (held_distinctValues_iff h).mpr hnull
    · exact fun document hdocument value hlookup => complete_distinctValues h hdocument hlookup
    · exact length_distinctValues_of_absentIsHeld h hnull.absentIsHeld

end

namespace Collection

theorem distinctCount_of_distinct [Pattern.Engine] {collection : Collection} {selector : Selector}
    {field : String} {store : Store} {values : List Value}
    (h : (collection.distinct selector field : StoreM (List Value)) store = (.ok values, store)) :
    (collection.distinctCount selector field : StoreM Nat) store = (.ok values.length, store) :=
  Store.bind_of_ok h

theorem distinct_listsHeld_iff [Pattern.Engine] (collection : Collection) (selector : Selector)
    (store : Store) (field : String)
    {found : List Document} (hfound : store.find selector.compile {} collection.name = .ok found)
    (h : ∀ document ∈ found, ∀ value, document.lookup? (.ofString field) = some value →
      value.holdsNumbers = true) :
    ∃ values,
      (collection.distinct selector field : StoreM (List Value)) store = (.ok values, store)
        ∧
      (collection.distinctCount selector field : StoreM Nat) store = (.ok values.length, store)
        ∧
      values.Pairwise (fun earlier later => earlier.equals later = false)
        ∧
      (∀ document ∈ found, ∀ value, document.lookup? (.ofString field) = some value →
        ∃ listed ∈ values, listed.equals value = true)
        ∧
      (ListsHeld field found values ↔ NullIsHeld field found)
        ∧
      (values.length = (heldAlike field found).ncard ↔ AbsentIsHeld field found) := by
  rw [find_eq_selected] at hfound
  have hdistinct := collection.distinct_eq selector store field
  rw [hfound] at hdistinct
  refine ⟨_, hdistinct, distinctCount_of_distinct hdistinct, pairwise_distinctValues _, ?_,
    listsHeld_distinctValues_iff h, length_distinctValues_eq_iff h⟩
  exact fun document hdocument value hlookup => complete_distinctValues h hdocument hlookup

theorem distinct_listsHeld_iff_undefined :
    let documents : List Document :=
      [[("_id", .int32 1), ("f", .undefined)], [("_id", .int32 2)], [("_id", .int32 3), ("f", .int32 1)],
        [("_id", .int32 4), ("f", .double 1)],
        [("_id", .int32 5), ("f", .document [("a", .null), ("b", .int32 2)])],
        [("_id", .int32 6), ("f", .document [("a", .null), ("b", .int64 2)])]]
    let store : Store := ⟨[("c", documents)], Store.firstId⟩
    let values : List Value := [.undefined, .int32 1, .document [("a", .null), ("b", .int32 2)]]
    store.find Selector.all.compile {} "c" = .ok documents
      ∧
    (∀ document ∈ documents, ∀ value, document.lookup? (.ofString "f") = some value →
      value.holdsNumbers = true)
      ∧
    (distinct ⟨"c", {}⟩ .all "f" : StoreM (List Value)) store = (.ok values, store)
      ∧
    (distinctCount ⟨"c", {}⟩ .all "f" : StoreM Nat) store = (.ok 3, store)
      ∧
    ListsHeld "f" documents values := by
  intro documents store values
  have hfound : store.find Selector.all.compile {} "c" = .ok documents := rfl
  have hnumbers : ∀ document ∈ documents, ∀ value, document.lookup? (.ofString "f") = some value →
      value.holdsNumbers = true := by
    apply holdsNumbers_of_all
    decide
  have hnull : NullIsHeld "f" documents := by
    intro first hfirst
    have hundefined : documents.find? (fun document => !document.carries "f")
        = some [("_id", .int32 1), ("f", .undefined)] := rfl
    rw [hundefined] at hfirst
    cases hfirst
    exact .inl rfl
  have hvalues : (distinct ⟨"c", {}⟩ .all "f" : StoreM (List Value)) store = (.ok values, store) := by
    dsimp only [store, documents]
    rfl
  obtain ⟨listed, hlisted, hcount, -, -, hlists, -⟩ :=
    distinct_listsHeld_iff ⟨"c", {}⟩ .all store "f" hfound hnumbers
  rw [hvalues] at hlisted
  cases hlisted
  exact ⟨hfound, hnumbers, hvalues, hcount, hlists.mpr hnull⟩

theorem not_listsHeld_of_missing_field :
    ¬∀ (collection : Collection) (selector : Selector) (store : Store) (field : String)
        (found : List Document) (values : List Value) (n : Nat),
      store.find selector.compile {} collection.name = .ok found →
        (∀ document ∈ found, ∀ value, document.lookup? (.ofString field) = some value →
          value.holdsNumbers = true) →
        (collection.distinct selector field : StoreM (List Value)) store = (.ok values, store) →
          (collection.distinctCount selector field : StoreM Nat) store = (.ok n, store) →
            (∀ value ∈ values, ∃ document ∈ found, document.lookup? (.ofString field) = some value)
              ∧
            n = (heldAlike field found).ncard := by
  intro h
  let documents : List Document := [[("_id", .int32 1), ("f", .int32 1)], [("_id", .int32 2)]]
  have hnumbers : ∀ document ∈ documents, ∀ value, document.lookup? (.ofString "f") = some value →
      value.holdsNumbers = true := by
    apply holdsNumbers_of_all
    decide
  have hheld := (h ⟨"c", {}⟩ .all ⟨[("c", documents)], Store.firstId⟩ "f" documents [.int32 1, .null] 2 rfl
    hnumbers rfl rfl).1 .null (by simp)
  have hnone : ∀ document ∈ documents, document.lookup? (.ofString "f") ≠ some .null := by
    intro document hdocument
    rcases List.mem_pair.mp hdocument with rfl | rfl <;> exact nofun
  obtain ⟨document, hdocument, hlookup⟩ := hheld
  exact hnone document hdocument hlookup

end Collection
end DocQuery
