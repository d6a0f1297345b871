import DocQuery.Proofs.Aggregation.Accumulated
import DocQuery.Proofs.Predicate.Evaluation

/-!
This module contains what becomes of the documents that are counted by the values of a field. The counts are
written under the texts of the values, where a later one takes the place of an earlier one, so that documents
are lost exactly if two values of the field read the same.
-/

namespace DocQuery
namespace Fields

variable {α : Type} {weight : α → Int}

def total (weight : α → Int) (fields : Fields α) : Int := (fields.map fun field => weight field.2).sum

theorem total_nil (weight : α → Int) : total weight [] = 0 := rfl

theorem total_cons (weight : α → Int) (field : String × α) (rest : Fields α) :
    total weight (field :: rest) = weight field.2 + total weight rest :=
  List.sum_cons

theorem total_insert (weight : α → Int) (fields : Fields α) (key : String) (value : α) :
    total weight (insert fields key value) + ((get? fields key).map weight).getD 0
      =
    total weight fields + weight value := by
  induction fields with
  | nil => simp [insert, total]
  | cons field rest ih =>
    rw [insert, get?_cons]
    split
    · rw [total_cons, total_cons, Option.map_some, Option.getD_some]
      dsimp only
      omega
    · rw [total_cons, total_cons, Int.add_assoc, ih, Int.add_assoc]

theorem total_insert_of_not_mem {fields : Fields α} {key : String} (value : α) (h : key ∉ names fields) :
    total weight (insert fields key value) = total weight fields + weight value := by
  have hinsert := total_insert weight fields key value
  rwa [(get?_eq_none_iff fields key).mpr h, Option.map_none, Option.getD_none, Int.add_zero] at hinsert

theorem total_insert_lt {fields : Fields α} {key : String} (value : α)
    (hpos : ∀ field ∈ fields, 0 < weight field.2) (h : key ∈ names fields) :
    total weight (insert fields key value) < total weight fields + weight value := by
  have hinsert := total_insert weight fields key value
  cases hold : get? fields key with
  | none => exact absurd h ((get?_eq_none_iff fields key).mp hold)
  | some old =>
    have hweight : 0 < weight old := hpos _ (mem_of_get? hold)
    rw [hold, Option.map_some, Option.getD_some] at hinsert
    omega

theorem pos_insert {fields : Fields α} (key : String) {value : α}
    (hpos : ∀ field ∈ fields, 0 < weight field.2) (hvalue : 0 < weight value) :
    ∀ field ∈ insert fields key value, 0 < weight field.2 := by
  intro field hfield
  cases mem_insert hfield with
  | inl hfield => exact hpos field hfield
  | inr heq =>
    rw [heq]
    exact hvalue

theorem total_merge_le {fields : Fields α} {entries : List (String × α)}
    (hfields : ∀ field ∈ fields, 0 < weight field.2) (hentries : ∀ entry ∈ entries, 0 < weight entry.2) :
    total weight (merge fields entries) ≤ total weight fields + total weight entries := by
  induction entries generalizing fields with
  | nil => exact Int.le_of_eq (Int.add_zero _).symm
  | cons entry rest ih =>
    rw [List.forall_mem_cons] at hentries
    have hrest := ih (pos_insert entry.1 hfields hentries.1) hentries.2
    have hinsert : total weight (insert fields entry.1 entry.2) ≤ total weight fields + weight entry.2 := by
      by_cases hmem : entry.1 ∈ names fields
      · exact Int.le_of_lt (total_insert_lt entry.2 hfields hmem)
      · exact Int.le_of_eq (total_insert_of_not_mem entry.2 hmem)
    rw [merge, List.foldl_cons, ← merge, total_cons]
    omega

theorem total_merge_eq_iff {fields : Fields α} {entries : List (String × α)}
    (hfields : ∀ field ∈ fields, 0 < weight field.2) (hentries : ∀ entry ∈ entries, 0 < weight entry.2)
    (hnames : (names fields).Nodup) :
    total weight (merge fields entries) = total weight fields + total weight entries
      ↔ (names (fields ++ entries)).Nodup := by
  induction entries generalizing fields with
  | nil =>
    rw [List.append_nil]
    exact iff_of_true (Int.add_zero _).symm hnames
  | cons entry rest ih =>
    rw [List.forall_mem_cons] at hentries
    have hpos := pos_insert entry.1 hfields hentries.1
    rw [merge, List.foldl_cons, ← merge, total_cons]
    by_cases hmem : entry.1 ∈ names fields
    · have hlt := total_insert_lt entry.2 hfields hmem
      have hle := total_merge_le hpos hentries.2
      apply iff_of_false
      · omega
      · rw [names, List.map_append, List.map_cons, List.nodup_append]
        intro hnodup
        exact hnodup.2.2 _ hmem _ List.mem_cons_self rfl
    · have hrest := ih hpos hentries.2 (nodup_names_insert fields entry.1 entry.2 hnames)
      rw [total_insert_of_not_mem entry.2 hmem, insert_of_not_mem entry.2 hmem, List.append_assoc,
        List.singleton_append] at hrest
      rw [← Int.add_assoc, insert_of_not_mem entry.2 hmem]
      exact hrest

end Fields

def GroupField.counter : GroupField := ⟨Collection.countField, .sum, .int32 1⟩

def Group.countEntry (field : String) (group : Group) : String × Value :=
  (field ++ "_" ++ group.key.groupText, GroupField.counter.total group.members)

theorem Group.entry_row (field : String) (group : Group) :
    Collection.groupCount.entry field (row [GroupField.counter] group) = group.countEntry field := by
  rw [row_eq (by decide)]
  rfl

theorem Group.names_countEntry (field : String) (groups : List Group) :
    Fields.names (groups.map (·.countEntry field))
      =
    ((groups.map (·.key)).map (·.groupText)).map (field ++ "_" ++ ·) := by
  rw [Fields.names, List.map_map, List.map_map, List.map_map]
  rfl

theorem Group.nodup_names_countEntry_iff (field : String) (groups : List Group) :
    (Fields.names (groups.map (·.countEntry field))).Nodup
      ↔
    ((groups.map (·.key)).map (·.groupText)).Nodup := by
  rw [names_countEntry]
  apply List.nodup_map_iff
  intro first second heq
  exact String.append_right_inj _ |>.mp heq

def Value.tally (value : Value) : Int := value.asInt?.getD 0

namespace Group

variable (keyExpr : Value) (field : String) {documents : List Document}

section

variable (hlength : documents.length < 2 ^ 63)

include hlength

theorem asInt?_countEntry {group : Group} (hgroup : group ∈ ofDocuments keyExpr documents) :
    (group.countEntry field).2.asInt? = some (group.members.length : Int) := by
  have hcounts : GroupField.counter.countsMembers := ⟨rfl, rfl⟩
  have hle := length_members_le hgroup
  exact GroupField.asInt?_total hcounts (by omega)

theorem tally_countEntry {group : Group} (hgroup : group ∈ ofDocuments keyExpr documents) :
    (group.countEntry field).2.tally = group.members.length := by
  rw [Value.tally, asInt?_countEntry keyExpr field hlength hgroup]
  rfl

theorem pos_countEntry :
    ∀ entry ∈ (ofDocuments keyExpr documents).map (·.countEntry field), 0 < entry.2.tally := by
  rw [List.forall_mem_map]
  intro group hgroup
  rw [tally_countEntry keyExpr field hlength hgroup, Int.natCast_pos]
  exact List.length_pos_iff.mpr (members_ne_nil keyExpr documents group hgroup)

theorem total_countEntry :
    Fields.total Value.tally ((ofDocuments keyExpr documents).map (·.countEntry field)) = documents.length := by
  have htallies : ((ofDocuments keyExpr documents).map (·.countEntry field)).map (fun entry => entry.2.tally)
      = (ofDocuments keyExpr documents).map fun group => (group.members.length : Int) := by
    rw [List.map_map]
    exact List.map_congr_left fun group hgroup => tally_countEntry keyExpr field hlength hgroup
  rw [Fields.total, htallies, ← sum_length_members keyExpr documents, Nat.cast_list_sum, List.map_map]
  rfl

theorem asInt?_counts :
    (Fields.ofList ((ofDocuments keyExpr documents).map (·.countEntry field))).map (·.2.asInt?)
      =
    ((Fields.ofList ((ofDocuments keyExpr documents).map (·.countEntry field))).map (·.2.tally)).map some := by
  rw [List.map_map]
  apply List.map_congr_left
  intro entry hentry
  obtain ⟨group, hgroup, heq⟩ := List.mem_map.mp (Fields.mem_ofList hentry)
  rw [← heq, Function.comp_apply, tally_countEntry keyExpr field hlength hgroup,
    asInt?_countEntry keyExpr field hlength hgroup]

theorem total_counts_le :
    Fields.total Value.tally (Fields.ofList ((ofDocuments keyExpr documents).map (·.countEntry field)))
      ≤ documents.length := by
  have hnone : ∀ entry ∈ ([] : Fields Value), 0 < entry.2.tally := by nofun
  have hmerge := Fields.total_merge_le hnone (pos_countEntry keyExpr field hlength)
  rwa [total_countEntry keyExpr field hlength, Fields.total_nil, Int.zero_add] at hmerge

theorem total_counts_eq_iff :
    Fields.total Value.tally (Fields.ofList ((ofDocuments keyExpr documents).map (·.countEntry field)))
        = documents.length
      ↔
    ((distinctValues (documents.map (·.evaluate keyExpr))).map (·.groupText)).Nodup := by
  have hnone : ∀ entry ∈ ([] : Fields Value), 0 < entry.2.tally := by nofun
  have hmerge := Fields.total_merge_eq_iff hnone (pos_countEntry keyExpr field hlength) .nil
  rw [total_countEntry keyExpr field hlength, Fields.total_nil, Int.zero_add, List.nil_append,
    nodup_names_countEntry_iff, map_key_ofDocuments] at hmerge
  exact hmerge

end

end Group

/--
Counts of `n` documents by the texts of their values. They add up to `n` exactly if no two of the values read the
same, and to less otherwise.
-/
def CountsBy (values : List Value) (n : Nat) (counts : Document) : Prop :=
  ∃ totals : List Int, counts.map (·.2.asInt?) = totals.map some
    ∧ totals.sum ≤ n
    ∧ (totals.sum = n ↔ (values.map (·.groupText)).Nodup)

namespace Collection

variable (collection : Collection) (selector : Selector) (store : Store) (field : String)

theorem groupCount_eq [Pattern.Engine] :
    (collection.groupCount selector field : StoreM Document) store
      =
    ((fun found => Fields.ofList ((Group.ofDocuments (.string (fieldRef field)) found).map (·.countEntry field)))
      <$> collection.selected selector store, store) := by
  have hgroup := collection.group_eq selector store
    [("_id", .string (fieldRef field)), (countField, .document [("$sum", .int32 1)])]
  refine (Store.bind_pure_of_read (fun rows => Fields.ofList (rows.map (groupCount.entry field))) hgroup).trans ?_
  cases collection.selected selector store with
  | error => rfl
  | ok found =>
    have hentries : ∀ groups : List Group,
        (groups.map (Group.row [GroupField.counter])).map (groupCount.entry field)
          = groups.map (·.countEntry field) := by
      intro groups
      rw [List.map_map]
      exact List.map_congr_left fun group _ => group.entry_row field
    exact congrArg (fun entries => (Except.ok (Fields.ofList entries), store)) (hentries _)

theorem groupCount_complete_iff [Pattern.Engine] {counts : Document}
    (hstored : (store.documents collection.name).length < 2 ^ 63)
    (h : (collection.groupCount selector field : StoreM Document) store = (.ok counts, store)) :
    ∃ (values : List Value) (n : UInt64),
      (collection.distinct selector field : StoreM (List Value)) store = (.ok values, store)
        ∧ (collection.count selector : StoreM UInt64) store = (.ok n, store)
        ∧ CountsBy values n.toNat counts := by
  rw [groupCount_eq] at h
  rw [distinct_eq, count_eq]
  cases hselected : collection.selected selector store with
  | error =>
    rw [hselected] at h
    cases h
  | ok found =>
    rw [hselected] at h
    cases h
    have hle := (Predicate.sublist_of_select hselected).length_le
    have hlength : found.length < 2 ^ 63 := by omega
    have htoNat : (UInt64.ofNat found.length).toNat = found.length := by
      rw [UInt64.toNat_ofNat']
      omega
    refine ⟨distinctValues (found.map (·.sortValue field)), UInt64.ofNat found.length, rfl, rfl, ?_⟩
    refine ⟨_, Group.asInt?_counts _ field hlength, ?_, ?_⟩
    · rw [htoNat]
      exact Group.total_counts_le _ field hlength
    · rw [htoNat, ← Document.map_evaluate_fieldRef]
      exact Group.total_counts_eq_iff _ field hlength

theorem groupCount_complete_iff_mixed :
    let entry (id : Int32) (value : Value) : Document := [("_id", .int32 id), ("f", value)]
    let documents : List Document :=
      [entry 1 (.int32 1), entry 2 (.string "a"), entry 3 (.double 1), [("_id", .int32 4)], entry 5 .null]
    let store : Store := ⟨[("c", documents)], Store.firstId⟩
    let counts : Document := [("f_1", .int32 2), ("f_a", .int32 1), ("f_null", .int32 2)]
    (store.documents "c").length < 2 ^ 63
      ∧
    (groupCount ⟨"c", {}⟩ .all "f" : StoreM Document) store = (.ok counts, store)
      ∧
    CountsBy [.int32 1, .string "a", .null] 5 counts := by
  intro entry documents store counts
  have hstored : (store.documents "c").length < 2 ^ 63 := by decide
  have hcounts : (groupCount ⟨"c", {}⟩ .all "f" : StoreM Document) store = (.ok counts, store) := by
    dsimp only [store, documents, entry]
    rfl
  have hdistinct : (distinct ⟨"c", {}⟩ .all "f" : StoreM (List Value)) store
      = (.ok [.int32 1, .string "a", .null], store) := by
    dsimp only [store, documents, entry]
    rfl
  have hcount : (count ⟨"c", {}⟩ .all : StoreM UInt64) store = (.ok 5, store) := rfl
  obtain ⟨values, n, hvalues, hn, hcountsBy⟩ :=
    groupCount_complete_iff ⟨"c", {}⟩ .all store "f" hstored hcounts
  rw [hdistinct] at hvalues
  rw [hcount] at hn
  cases hvalues
  cases hn
  exact ⟨hstored, hcounts, hcountsBy⟩

theorem not_complete_of_same_text :
    ¬∀ (collection : Collection) (selector : Selector) (store : Store) (field : String) (counts : Document)
        (n : UInt64),
      (collection.groupCount selector field : StoreM Document) store = (.ok counts, store) →
        (collection.count selector : StoreM UInt64) store = (.ok n, store) →
          ∃ totals : List Int, counts.map (·.2.asInt?) = totals.map some ∧ totals.sum = n.toNat := by
  intro h
  let documents : List Document :=
    [[("_id", .int32 1), ("f", .int32 1)], [("_id", .int32 2), ("f", .string "1")]]
  let store : Store := ⟨[("c", documents)], Store.firstId⟩
  have hcounts : (groupCount ⟨"c", {}⟩ .all "f" : StoreM Document) store
      = (.ok [("f_1", .int32 1)], store) := by
    dsimp only [store, documents]
    rfl
  obtain ⟨totals, htotals, hsum⟩ := h ⟨"c", {}⟩ .all store "f" _ 2 hcounts rfl
  have hone : totals = [1] := (List.map_inj_right fun _ _ => Option.some.inj).mp htotals.symm
  rw [hone] at hsum
  cases hsum

end Collection
end DocQuery
