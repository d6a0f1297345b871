import DocQuery.Proofs.Aggregation.Accumulated
import DocQuery.Proofs.Predicate.Evaluation
import DocQuery.Proofs.Store.Run

/-!
This module contains the sums of several fields over the groups of documents that share the value of another
field. There is one row for each value, but a field that is asked for twice is taken out of its group twice, and
the second time nothing is left.
-/

namespace DocQuery
namespace Group

def apartFrom (key : Document → Value) (first : Document) (documents : List Document) : List Document :=
  documents.filter fun document => !(key first).equals (key document)

def classes (key : Document → Value) : List Document → List Group
  | [] => []
  | first :: rest =>
    ⟨key first, first :: rest.filter fun document => (key first).equals (key document)⟩
      :: classes key (apartFrom key first rest)
termination_by documents => documents.length
decreasing_by
  exact Nat.lt_succ_of_le (List.length_filter_le _ _)

theorem classes_eq_nil_iff {key : Document → Value} {documents : List Document} :
    classes key documents = [] ↔ documents = [] := by
  cases documents with
  | nil => simp [classes]
  | cons => simp [classes]

theorem foldl_place_cons (keyExpr : Value) (group : Group) (groups : List Group) (documents : List Document) :
    documents.foldl (fun groups document => place (document.evaluate keyExpr) document groups) (group :: groups)
      =
    ⟨group.key, group.members ++ documents.filter fun document => group.key.equals (document.evaluate keyExpr)⟩
      :: (documents.filter fun document => !group.key.equals (document.evaluate keyExpr)).foldl
        (fun groups document => place (document.evaluate keyExpr) document groups) groups := by
  induction documents generalizing group groups with
  | nil => simp
  | cons document rest ih =>
    rw [List.foldl_cons, place]
    cases hsame : group.key.equals (document.evaluate keyExpr) with
    | true =>
      rw [if_pos rfl, ih]
      simp [hsame]
    | false =>
      rw [if_neg Bool.false_ne_true, ih]
      simp [hsame]

theorem ofDocuments_eq_classes (keyExpr : Value) (documents : List Document) :
    ofDocuments keyExpr documents = classes (·.evaluate keyExpr) documents := by
  fun_induction classes (fun document : Document => document.evaluate keyExpr) documents with
  | case1 => rfl
  | case2 first rest ih =>
    rw [← ih]
    exact foldl_place_cons keyExpr ⟨first.evaluate keyExpr, [first]⟩ [] rest

theorem classes_sortValue (field : String) (documents : List Document) :
    classes (·.sortValue field) documents = ofDocuments (.string (fieldRef field)) documents := by
  rw [ofDocuments_eq_classes]
  congr 1
  funext document
  exact (document.evaluate_fieldRef field).symm

end Group

namespace GroupField

def sumOf (name : String) : GroupField := ⟨name, .sum, .string (fieldRef name)⟩

theorem total_sumOf (name : String) (members : List Document) :
    (sumOf name).total members = Accumulator.sum.total (members.map (·.sortValue name)) := by
  rw [total, ← Document.map_evaluate_fieldRef]
  rfl

theorem readAll_of_sums {spec : Document}
    (h : ∀ entry ∈ spec, entry.1 ≠ "_id" → entry.2 = .document [("$sum", .string (fieldRef entry.1))]) :
    readAll spec = .ok (((Fields.names spec).filter (· ≠ "_id")).map sumOf) := by
  induction spec with
  | nil => rfl
  | cons entry rest ih =>
    rcases entry with ⟨name, value⟩
    rw [List.forall_mem_cons] at h
    rw [readAll, Fields.names, List.map_cons, ← Fields.names]
    split
    · next hid =>
      rw [List.filter_cons_of_neg (by simpa using hid)]
      exact ih h.2
    · next hid =>
      have hvalue := h.1 hid
      dsimp only at hvalue
      rw [List.filter_cons_of_pos (by simpa using hid), List.map_cons, hvalue, ih h.2]
      rfl

end GroupField

namespace Collection

def sumSpec (field : String) (fields : List String) : Document :=
  Fields.merge [("_id", .string (fieldRef field))] <|
    fields.map fun name => (name, .document [("$sum", .string (fieldRef name))])

theorem names_sums (fields : List String) :
    Fields.names (fields.map fun name => (name, Value.document [("$sum", .string (fieldRef name))])) = fields := by
  rw [Fields.names, List.map_map]
  exact List.map_id' fields

def moveField (state : Document × Document) (name : String) : Document × Document :=
  (Fields.insert state.1 name ((Fields.get? state.2 name).getD .null), Fields.erase state.2 name)

theorem get?_foldl_moveField (fields : List String) (state : Document × Document) (name : String) :
    Fields.get? (fields.foldl moveField state).1 name
      =
    if name ∈ fields then
      some (if fields.count name = 1 then (Fields.get? state.2 name).getD .null else .null)
    else
      Fields.get? state.1 name := by
  induction fields generalizing state with
  | nil => rfl
  | cons first rest ih =>
    rw [List.foldl_cons, ih, moveField]
    by_cases hfirst : first = name
    · rw [hfirst, Fields.get?_erase_self, Fields.get?_insert_self, List.count_cons_self]
      by_cases hmem : name ∈ rest
      · have hcount : 0 < rest.count name := List.count_pos_iff.mpr hmem
        rw [if_pos hmem, if_pos List.mem_cons_self, if_neg (by omega : ¬rest.count name + 1 = 1)]
        simp
      · rw [if_neg hmem, if_pos List.mem_cons_self, List.count_eq_zero_of_not_mem hmem]
        simp
    · rw [Fields.get?_erase_of_ne _ hfirst, Fields.get?_insert_of_ne _ _ hfirst, List.count_cons_of_ne hfirst]
      simp [Ne.symm hfirst]

section

variable {field : String} {fields : List String}

theorem get?_row_key (hfield : field ∉ fields) (group : Document) :
    Fields.get? (groupSum.row field fields group) field = some ((Fields.get? group "_id").getD .null) := by
  have hrow := get?_foldl_moveField fields
    ([(field, (Fields.get? group "_id").getD .null)], Fields.erase group "_id") field
  rw [if_neg hfield] at hrow
  refine hrow.trans ?_
  rw [Fields.get?_cons, if_pos rfl]

theorem get?_row_name {name : String} (hname : name ∈ fields) (hid : "_id" ≠ name) (group : Document) :
    Fields.get? (groupSum.row field fields group) name
      =
    some (if fields.count name = 1 then (Fields.get? group name).getD .null else .null) := by
  have hrow := get?_foldl_moveField fields
    ([(field, (Fields.get? group "_id").getD .null)], Fields.erase group "_id") name
  rw [if_pos hname, Fields.get?_erase_of_ne _ hid] at hrow
  exact hrow

variable (hid : "_id" ∉ fields)

include hid

theorem get?_sumSpec_id : Fields.get? (sumSpec field fields) "_id" = some (.string (fieldRef field)) := by
  rw [sumSpec, Fields.get?_merge_of_not_mem]
  · rfl
  · rwa [names_sums]

theorem exists_readAll_sumSpec (field : String) :
    ∃ sums, GroupField.readAll (sumSpec field fields) = .ok sums
      ∧ ("_id" :: sums.map (·.name)).Nodup
      ∧ ∀ name ∈ fields, .sumOf name ∈ sums := by
  have hread : GroupField.readAll (sumSpec field fields)
      = .ok (((Fields.names (sumSpec field fields)).filter (· ≠ "_id")).map .sumOf) := by
    apply GroupField.readAll_of_sums
    intro entry hentry hne
    rcases Fields.mem_merge hentry with hkey | hsum
    · rw [List.mem_singleton.mp hkey] at hne
      exact absurd rfl hne
    · obtain ⟨name, -, rfl⟩ := List.mem_map.mp hsum
      rfl
  refine ⟨_, hread, ?_, ?_⟩
  · apply GroupField.nodup_names hread
    exact Fields.nodup_names_merge _ _ (List.nodup_singleton _)
  · intro name hname
    apply List.mem_map_of_mem
    have hne : name ≠ "_id" := fun heq => hid (heq ▸ hname)
    rw [List.mem_filter, sumSpec, Fields.mem_names_merge_iff, names_sums]
    exact ⟨.inr hname, decide_eq_true hne⟩

end

variable {collection : Collection} {selector : Selector} {store : Store} {field : String} {fields : List String}

section

variable [Pattern.Engine]

theorem groupSum_eq {found : List Document} {sums : List GroupField}
    (hselected : collection.selected selector store = .ok found) (hid : "_id" ∉ fields)
    (hsums : GroupField.readAll (sumSpec field fields) = .ok sums) :
    (collection.groupSum selector field fields : StoreM (List Document)) store
      =
    (.ok ((Group.classes (·.sortValue field) found).map fun group => groupSum.row field fields (group.row sums)),
      store) := by
  have hgroup := collection.group_eq selector store (sumSpec field fields)
  rw [hselected, Outcome.ok_bind, groupDocuments, hsums, Outcome.ok_bind, get?_sumSpec_id hid,
    Option.getD_some, ← Group.classes_sortValue] at hgroup
  refine (Store.bind_of_ok hgroup).trans ?_
  rw [List.map_map]
  rfl

theorem distinct_eq_classes {found : List Document}
    (hselected : collection.selected selector store = .ok found) (field : String) :
    (collection.distinct selector field : StoreM (List Value)) store
      =
    (.ok ((Group.classes (·.sortValue field) found).map (·.key)), store) := by
  rw [distinct_eq, hselected, Group.classes_sortValue, Group.map_key_ofDocuments, Document.map_evaluate_fieldRef]
  rfl

theorem selected_all_put (members : List Document) :
    collection.selected .all (store.put collection.name members) = .ok members := by
  have hmet : ∀ document ∈ members, Predicate.holds document Selector.all.compile = .ok true := fun _ _ => rfl
  rw [selected, Store.documents_put, if_pos rfl, Predicate.select_eq_filter hmet, List.filter_true]

/--
A row holds the key of a group at a field, and at each of some names the sum over the members: the one that is read
off a store in which the collection has no other documents.
-/
structure SumsUp (collection : Collection) (store : Store) (field : String) (names : List String) (group : Group)
    (row : Document) : Prop where
  key : Fields.get? row field = some group.key
  sums : ∀ name ∈ names, ∃ total,
    (collection.sum? .all name : StoreM (Option Value)) (store.put collection.name group.members)
        = (.ok (some total), store.put collection.name group.members)
      ∧ Fields.get? row name = some total

theorem not_sumsUp_of_null {names : List String} {group : Group} {row : Document} {name : String}
    (hne : group.members ≠ []) (hname : name ∈ names) (hnull : Fields.get? row name = some .null) :
    ¬collection.SumsUp store field names group row := by
  intro h
  obtain ⟨total, hsum, hrow⟩ := h.sums name hname
  rw [sum?_of_selected (selected_all_put _) hne] at hsum
  cases hsum
  rw [hnull] at hrow
  have hdefined := Accumulator.isDefined_total_sum (group.members.map (·.sortValue name))
  rw [← Option.some.inj hrow] at hdefined
  cases hdefined

end

section

variable {sums : List GroupField} (hnames : ("_id" :: sums.map (·.name)).Nodup) (hid : "_id" ∉ fields)
  (hmem : ∀ name ∈ fields, .sumOf name ∈ sums)

include hnames hid hmem

theorem get?_row_sum (group : Group) {name : String} (hname : name ∈ fields) :
    Fields.get? (groupSum.row field fields (group.row sums)) name
      =
    some (if fields.count name = 1 then
      Accumulator.sum.total (group.members.map (·.sortValue name))
    else
      .null) := by
  have hrow : Fields.get? (group.row sums) name = some ((GroupField.sumOf name).total group.members) :=
    Group.get?_row hnames group (hmem name hname)
  rw [get?_row_name hname (fun heq => hid (heq ▸ hname)), hrow, GroupField.total_sumOf, Option.getD_some]

theorem sumsUp_row [Pattern.Engine] (hfield : field ∉ fields) {group : Group} (hne : group.members ≠ [])
    {names : List String} (honce : ∀ name ∈ names, name ∈ fields ∧ fields.count name = 1) :
    collection.SumsUp store field names group (groupSum.row field fields (group.row sums)) where
  key := by
    rw [get?_row_key hfield, Group.row_eq hnames]
    rfl
  sums name hname := by
    refine ⟨_, sum?_of_selected (selected_all_put _) hne name, ?_⟩
    rw [get?_row_sum hnames hid hmem group (honce name hname).1, if_pos (honce name hname).2]

end

theorem members_ne_nil_of_classes {documents : List Document} :
    ∀ group ∈ Group.classes (·.sortValue field) documents, group.members ≠ [] := by
  rw [Group.classes_sortValue]
  exact Group.members_ne_nil _ _

theorem groupSum_sumsUp_iff [Pattern.Engine] (collection : Collection) (selector : Selector) (store : Store)
    (hfield : field ∉ fields) (hid : "_id" ∉ fields) {found : List Document}
    (hfound : store.find selector.compile {} collection.name = .ok found) :
    ∃ rows,
      (collection.groupSum selector field fields : StoreM (List Document)) store = (.ok rows, store)
        ∧
      (collection.distinct selector field : StoreM (List Value)) store
        = (.ok ((Group.classes (·.sortValue field) found).map (·.key)), store)
        ∧
      List.Forall₂ (collection.SumsUp store field (fields.filter (fields.count · = 1)))
        (Group.classes (·.sortValue field) found) rows
        ∧
      (∀ row ∈ rows, ∀ name ∈ fields, fields.count name ≠ 1 → Fields.get? row name = some .null)
        ∧
      (List.Forall₂ (collection.SumsUp store field fields) (Group.classes (·.sortValue field) found) rows
        ↔ fields.Nodup ∨ found = []) := by
  rw [find_eq_selected] at hfound
  obtain ⟨sums, hsums, hnames, hmem⟩ := exists_readAll_sumSpec hid field
  have hforall : ∀ names : List String, (∀ name ∈ names, name ∈ fields ∧ fields.count name = 1) →
      List.Forall₂ (collection.SumsUp store field names) (Group.classes (·.sortValue field) found)
        ((Group.classes (·.sortValue field) found).map fun group =>
          groupSum.row field fields (group.row sums)) := by
    intro names honce
    rw [List.forall₂_map_right_iff, List.forall₂_same]
    intro group hgroup
    exact sumsUp_row hnames hid hmem hfield (members_ne_nil_of_classes group hgroup) honce
  refine ⟨_, groupSum_eq hfound hid hsums, distinct_eq_classes hfound field, ?_, ?_, ?_⟩
  · apply hforall
    intro name hname
    rw [List.mem_filter, decide_eq_true_eq] at hname
    exact hname
  · rw [List.forall_mem_map]
    intro group _ name hname hcount
    rw [get?_row_sum hnames hid hmem group hname, if_neg hcount]
  · constructor
    · intro hall
      rw [or_iff_not_imp_right, List.nodup_iff_count_le_one]
      intro hfound name
      by_contra hcount
      -- a name that is listed twice leaves null in the row of any group
      have hname : name ∈ fields := List.count_pos_iff.mp (by omega)
      obtain ⟨group, hgroup⟩ := List.exists_mem_of_ne_nil _ (mt Group.classes_eq_nil_iff.mp hfound)
      rw [List.forall₂_map_right_iff, List.forall₂_same] at hall
      apply not_sumsUp_of_null (members_ne_nil_of_classes group hgroup) hname _ (hall group hgroup)
      rw [get?_row_sum hnames hid hmem group hname, if_neg (by omega)]
    · rintro (hnodup | rfl)
      · apply hforall
        intro name hname
        exact ⟨hname, List.count_eq_one_of_mem hnodup hname⟩
      · rw [Group.classes_eq_nil_iff.mpr rfl]
        exact .nil

theorem groupSum_sumsUp_iff_mixed :
    let documents : List Document :=
      [[("_id", .int32 1), ("k", .int32 1), ("n", .int32 2), ("m", .int64 5)],
        [("_id", .int32 2), ("n", .int32 3), ("m", .string "x")],
        [("_id", .int32 3), ("k", .double 1), ("n", .int32 4)],
        [("_id", .int32 4), ("k", .null), ("m", .int32 7)]]
    let store : Store := ⟨[("c", documents)], Store.firstId⟩
    let groups : List Group :=
      [⟨.int32 1,
          [[("_id", .int32 1), ("k", .int32 1), ("n", .int32 2), ("m", .int64 5)],
            [("_id", .int32 3), ("k", .double 1), ("n", .int32 4)]]⟩,
        ⟨.null,
          [[("_id", .int32 2), ("n", .int32 3), ("m", .string "x")],
            [("_id", .int32 4), ("k", .null), ("m", .int32 7)]]⟩]
    let rows : List Document :=
      [[("k", .int32 1), ("m", .int64 5), ("n", .int32 6)], [("k", .null), ("m", .int32 7), ("n", .int32 3)]]
    "k" ∉ ["m", "n"]
      ∧
    "_id" ∉ ["m", "n"]
      ∧
    store.find Selector.all.compile {} "c" = .ok documents
      ∧
    (groupSum ⟨"c", {}⟩ .all "k" ["m", "n"] : StoreM (List Document)) store = (.ok rows, store)
      ∧
    List.Forall₂ (SumsUp ⟨"c", {}⟩ store "k" ["m", "n"]) groups rows := by
  intro documents store groups rows
  have hfield : "k" ∉ ["m", "n"] := by decide
  have hid : "_id" ∉ ["m", "n"] := by decide
  have hfound : store.find Selector.all.compile {} "c" = .ok documents := rfl
  have hrows : (groupSum ⟨"c", {}⟩ .all "k" ["m", "n"] : StoreM (List Document)) store = (.ok rows, store) := by
    dsimp only [store, documents]
    rfl
  have hgroups : Group.classes (·.sortValue "k") documents = groups := by
    rw [Group.classes_sortValue]
    dsimp only [documents]
    rfl
  obtain ⟨found, hgrouped, -, -, -, hsums⟩ :=
    groupSum_sumsUp_iff ⟨"c", {}⟩ .all store hfield hid hfound
  rw [hrows] at hgrouped
  cases hgrouped
  rw [hgroups] at hsums
  exact ⟨hfield, hid, hfound, hrows, hsums.mpr (.inl (by decide))⟩

theorem not_sumsUp_of_repeated_name :
    ¬∀ (collection : Collection) (selector : Selector) (store : Store) (field : String) (fields : List String)
        (found rows : List Document),
      field ∉ fields →
        "_id" ∉ fields →
          store.find selector.compile {} collection.name = .ok found →
            (collection.groupSum selector field fields : StoreM (List Document)) store = (.ok rows, store) →
              List.Forall₂ (collection.SumsUp store field fields) (Group.classes (·.sortValue field) found)
                rows := by
  intro h
  let document : Document := [("_id", .int32 1), ("k", .string "a"), ("n", .int32 2)]
  let row : Document := [("k", .string "a"), ("n", .null)]
  have hgroups : Group.classes (·.sortValue "k") [document] = [⟨.string "a", [document]⟩] := by
    rw [Group.classes_sortValue]
    rfl
  have hsums := h ⟨"c", {}⟩ .all ⟨[("c", [document])], Store.firstId⟩ "k" ["n", "n"] [document] [row] (by decide)
    (by decide) rfl rfl
  rw [hgroups] at hsums
  cases hsums with
  | cons hsum _ => exact not_sumsUp_of_null (List.cons_ne_nil _ _) List.mem_cons_self rfl hsum

end Collection
end DocQuery
