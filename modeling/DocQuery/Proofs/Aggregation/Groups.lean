import DocQuery.Proofs.Aggregation.Accumulated

/-!
This module contains the proof that grouping partitions documents by the classes of equal keys, and that the
distinct values of a field are the keys of its groups.
-/

namespace DocQuery

/--
The rows of a grouping of documents by an expression. The keys are those of the documents, each where it first
appears, and what a row holds is the total over the documents with its key, in their order. A field that sums
up ones counts every document once.
-/
structure IsGrouping (keyExpr : Value) (fields : List GroupField) (documents rows : List Document) :
    Prop where
  rows_eq : rows = (Group.keysOf keyExpr documents).map fun key =>
    ("_id", key) :: fields.map fun field => (field.name, field.total (Group.sharing keyExpr documents key))
  unequal : (Group.keysOf keyExpr documents).Pairwise fun earlier later => earlier.equals later = false
  one_key : ∀ document ∈ documents,
    ∃ key, (Group.keysOf keyExpr documents).filter (·.equals (document.evaluate keyExpr)) = [key]
  counted : documents.length < 2 ^ 63 → ∀ field ∈ fields, field.countsMembers →
    ∃ counts : List Int, rows.map (fun row => (Fields.get? row field.name).bind Value.asInt?)
        = counts.map some
      ∧ counts.sum = documents.length

def groupKey (spec : Document) : Value := (Fields.get? spec "_id").getD .null

theorem counts_rows {keyExpr : Value} {fields : List GroupField} {documents : List Document}
    (hnames : ("_id" :: fields.map (·.name)).Nodup) (hlength : documents.length < 2 ^ 63)
    {field : GroupField} (hfield : field ∈ fields) (hcounts : field.countsMembers) :
    ((Group.ofDocuments keyExpr documents).map (Group.row fields)).map
        (fun row => (Fields.get? row field.name).bind Value.asInt?)
      =
    ((Group.ofDocuments keyExpr documents).map fun group => (group.members.length : Int)).map some := by
  rw [List.map_map, List.map_map]
  apply List.map_congr_left
  intro group hgroup
  have hle := Group.length_members_le hgroup
  rw [Function.comp_apply, Function.comp_apply, Group.get?_row hnames group hfield, Option.bind_some,
    GroupField.asInt?_total hcounts (by omega)]

theorem isGrouping_rows {keyExpr : Value} {fields : List GroupField} {documents : List Document}
    (hnames : ("_id" :: fields.map (·.name)).Nodup)
    (h : ∀ document ∈ documents, (document.evaluate keyExpr).holdsNumbers = true) :
    IsGrouping keyExpr fields documents ((Group.ofDocuments keyExpr documents).map (Group.row fields)) where
  rows_eq := by
    rw [Group.ofDocuments_eq_map_keysOf h, List.map_map]
    apply List.map_congr_left
    intro key _
    exact Group.row_eq hnames _
  unequal := by
    rw [Group.keysOf, ← distinctValues_eq_eraseDupsBy]
    apply pairwise_distinctValues
  one_key _ hdocument := Group.exists_filter_keysOf h hdocument
  counted hlength field hfield hcounts := by
    refine ⟨_, counts_rows hnames hlength hfield hcounts, ?_⟩
    rw [← Group.sum_length_members keyExpr documents, Nat.cast_list_sum, List.map_map]
    rfl

theorem keys_rows {fields : List GroupField} (hnames : ("_id" :: fields.map (·.name)).Nodup)
    (groups : List Group) :
    (groups.map (Group.row fields)).map (fun row => (Fields.get? row "_id").getD .null)
      =
    groups.map (·.key) := by
  rw [List.map_map]
  apply List.map_congr_left
  intro group _
  rw [Function.comp_apply, Group.row_eq hnames, Fields.get?_cons, if_pos rfl]
  rfl

theorem Collection.distinct_eq_keys [Pattern.Engine] (collection : Collection) (selector : Selector)
    (store : Store) {spec : Document} {fields : List GroupField} {field : String}
    (hnames : ("_id" :: fields.map (·.name)).Nodup) (hfields : GroupField.readAll spec = .ok fields)
    (hkey : groupKey spec = .string (fieldRef field)) :
    (collection.distinct selector field : StoreM (List Value)) store
      =
    (List.map (fun row => (Fields.get? row "_id").getD .null)
      <$> store.aggregate [Stage.filter selector.compile, Stage.group spec] collection.name, store) := by
  rw [distinct_eq, aggregate_group]
  cases collection.selected selector store with
  | error => rfl
  | ok found =>
    have hkeys := keys_rows hnames (Group.ofDocuments (groupKey spec) found)
    rw [Group.map_key_ofDocuments] at hkeys
    nth_rewrite 2 [hkey] at hkeys
    rw [Document.map_evaluate_fieldRef] at hkeys
    rw [Outcome.ok_bind, groupDocuments, hfields]
    exact congrArg (fun values => (Except.ok values, store)) hkeys.symm

theorem grouping_partitions [Pattern.Engine] {spec : Document} {fields : List GroupField}
    (hspec : (Fields.names spec).Nodup) (hfields : GroupField.readAll spec = .ok fields) :
    (∀ (collections : Collections) (documents : List Document),
      (∀ document ∈ documents, (document.evaluate (groupKey spec)).holdsNumbers = true) →
        ∃ rows, Stage.run collections documents (Stage.group spec) = .ok rows
          ∧ IsGrouping (groupKey spec) fields documents rows)
      ∧
    ∀ (collection : Collection) (selector : Selector) (store : Store) (field : String),
      groupKey spec = .string (fieldRef field) →
        (collection.distinct selector field : StoreM (List Value)) store
          =
        (List.map (fun row => (Fields.get? row "_id").getD .null)
          <$> store.aggregate [Stage.filter selector.compile, Stage.group spec] collection.name, store) := by
  have hnames := GroupField.nodup_names hfields hspec
  constructor
  · intro collections documents h
    refine ⟨_, ?_, isGrouping_rows hnames h⟩
    change groupDocuments spec documents = _
    rw [groupDocuments, hfields]
    rfl
  · intro collection selector store field hkey
    exact collection.distinct_eq_keys selector store hnames hfields hkey

theorem grouping_partitions_mixed :
    let entry (id : Int32) (key : Value) : Document := [("_id", .int32 id), ("k", key)]
    let documents : List Document :=
      [entry 1 (.int32 1), entry 2 (.document [("a", .null), ("b", .int64 2)]), entry 3 (.double 1),
        [("_id", .int32 4)], entry 5 (.document [("b", .double 2), ("a", .undefined)]), entry 6 .null]
    let spec : Document :=
      [("n", .document [("$sum", .int32 1)]), ("_id", .string "$k"),
        ("ids", .document [("$push", .string "$_id")])]
    let fields : List GroupField := [⟨"n", .sum, .int32 1⟩, ⟨"ids", .push, .string "$_id"⟩]
    let rows : List Document :=
      [[("_id", .int32 1), ("n", .int32 2), ("ids", .array [.int32 1, .int32 3])],
        [("_id", .document [("a", .null), ("b", .int64 2)]), ("n", .int32 2),
          ("ids", .array [.int32 2, .int32 5])],
        [("_id", .null), ("n", .int32 2), ("ids", .array [.int32 4, .int32 6])]]
    let store : Store := ⟨[("c", documents)], Store.firstId⟩
    (Fields.names spec).Nodup
      ∧
    GroupField.readAll spec = .ok fields
      ∧
    (∀ document ∈ documents, (document.evaluate (groupKey spec)).holdsNumbers = true)
      ∧
    IsGrouping (groupKey spec) fields documents rows
      ∧
    (Collection.distinct ⟨"c", {}⟩ .all "k" : StoreM (List Value)) store
      = (.ok [.int32 1, .document [("a", .null), ("b", .int64 2)], .null], store) := by
  intro entry documents spec fields rows store
  have hspec : (Fields.names spec).Nodup := by decide
  have hfields : GroupField.readAll spec = .ok fields := rfl
  have hkeys : ∀ document ∈ documents, (document.evaluate (groupKey spec)).holdsNumbers = true := by decide
  have hpartitions := grouping_partitions hspec hfields
  have hrun : Stage.run [] documents (Stage.group spec) = .ok rows := by
    dsimp only [rows, documents, spec, entry]
    rfl
  obtain ⟨found, hfound, hgrouping⟩ := hpartitions.1 [] documents hkeys
  rw [hrun] at hfound
  cases hfound
  refine ⟨hspec, hfields, hkeys, hgrouping, ?_⟩
  rw [hpartitions.2 ⟨"c", {}⟩ .all store "k" rfl]
  rfl

end DocQuery
