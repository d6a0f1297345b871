import DocQuery.Proofs.Pagination.Partition

/-!
This module contains the proof that the ways of reading a collection agree: a plain read with options is
what the pipeline of the same options yields, and counting documents is reading them and measuring the list.
-/

namespace DocQuery

namespace FindOptions

def stages (options : FindOptions) : Pipeline :=
  (options.sort.map Stage.sort).toList
    ++ (options.skip.map Stage.skip).toList
    ++ (options.limit.map Stage.limit).toList
    ++ (options.projection.map Stage.project).toList

def pipeline (options : FindOptions) (predicate : Document) : Pipeline :=
  Stage.filter predicate :: options.stages

end FindOptions

namespace Pipeline

variable (collections : Collections) (rows : List Document)

section

variable {rows} (h : rows.length ≤ Word.signedLimit)

include h

variable [Pattern.Engine]

theorem run_skip? (skip : Option UInt64) :
    run collections (skip.map Stage.skip).toList rows = .ok (rows.drop (skip.getD 0).toNat) := by
  cases skip with
  | none => rfl
  | some skip =>
    rw [Option.map_some, Option.toList_some, run_singleton, Stage.run_skip, drop_min _ h]
    rfl

theorem run_limit? (limit : Option UInt64) :
    run collections (limit.map Stage.limit).toList rows
      =
    .ok (limit.elim rows fun limit => rows.take limit.toNat) := by
  cases limit with
  | none => rfl
  | some limit =>
    rw [Option.map_some, Option.toList_some, run_singleton, Stage.run_limit, take_min _ h]
    rfl

theorem run_stages (options : FindOptions) :
    run collections options.stages rows = .ok (Store.arrange options rows) := by
  have hsorted : (options.sort.elim rows (sortDocuments · rows)).length ≤ Word.signedLimit := by
    cases options.sort with
    | none => exact h
    | some sort =>
      rw [Option.elim_some, length_sortDocuments]
      exact h
  have hskipped : ((options.sort.elim rows (sortDocuments · rows)).drop (options.skip.getD 0).toNat).length
      ≤ Word.signedLimit := by
    rw [List.length_drop]
    omega
  unfold FindOptions.stages
  rw [run_append, run_append, run_append, run_sort?, Outcome.ok_bind, run_skip? _ hsorted, Outcome.ok_bind,
    run_limit? _ hskipped, Outcome.ok_bind, run_project?]
  unfold Store.arrange
  cases options.sort <;> cases options.limit <;> cases options.projection <;> rfl

end

end Pipeline

theorem readCount_countRows {field : String} {selected rows : List Document}
    (hrows : Stage.countRows (.string field) selected = .ok rows)
    (hfits : selected.length ≤ Word.signedLimit) :
    ((rows.head?.map (readCount · field)).getD 0).toNat = selected.length := by
  cases selected with
  | nil =>
    cases hrows
    rfl
  | cons row rest =>
    cases hrows
    rw [List.head?_cons, Option.map_some, Option.getD_some]
    exact toNat_readCount_ofInt field hfits

theorem Predicate.exists_select_error [Pattern.Engine] {predicate document : Document}
    {documents : List Document} {failure : Failure} (hmem : document ∈ documents)
    (herror : holds document predicate = .error failure) :
    ∃ first, select predicate documents = .error first := by
  induction documents with
  | nil => cases hmem
  | cons next rest ih =>
    rw [select]
    cases hnext : holds next predicate with
    | error first => exact ⟨first, rfl⟩
    | ok met =>
      cases List.mem_cons.mp hmem with
      | inl heq =>
        rw [heq, hnext] at herror
        cases herror
      | inr hrest =>
        rcases ih hrest with ⟨first, hfirst⟩
        refine ⟨first, ?_⟩
        rw [hfirst]
        cases met <;> rfl

namespace Store

variable {store : Store} {collection : String} (predicate : Document)

section

variable (hstored : (store.documents collection).length ≤ Word.signedLimit)

include hstored

variable [Pattern.Engine]

theorem length_select_le {selected : List Document}
    (h : Predicate.select predicate (store.documents collection) = .ok selected) :
    selected.length ≤ Word.signedLimit :=
  Nat.le_trans (Predicate.sublist_of_select h).length_le hstored

theorem find_eq_aggregate (options : FindOptions) :
    store.find predicate options collection
      =
    store.aggregate (options.pipeline predicate) collection := by
  unfold find aggregate FindOptions.pipeline
  rw [Pipeline.run_cons, Stage.run_filter]
  cases hselect : Predicate.select predicate (store.documents collection) with
  | error => rfl
  | ok selected =>
    have hselected := length_select_le predicate hstored hselect
    exact (Pipeline.run_stages store.collections hselected options).symm

theorem toNat_countDocuments :
    (·.toNat) <$> store.countDocuments predicate collection
      =
    (·.length) <$> store.find predicate {} collection := by
  unfold countDocuments find
  cases hselect : Predicate.select predicate (store.documents collection) with
  | error => rfl
  | ok selected =>
    have hselected := length_select_le predicate hstored hselect
    apply congrArg Except.ok
    apply Reading.toNat_count_plain
    unfold Word.signedLimit Word.limit at *
    omega

theorem countDocuments_eq_readCount (field : String) :
    store.countDocuments predicate collection
      =
    (fun rows => (rows.head?.map (readCount · field)).getD 0)
      <$> store.aggregate [Stage.filter predicate, Stage.count field] collection := by
  unfold countDocuments aggregate
  rw [Pipeline.run_cons, Stage.run_filter]
  cases hselect : Predicate.select predicate (store.documents collection) with
  | error => rfl
  | ok selected =>
    have hselected := length_select_le predicate hstored hselect
    rw [Outcome.ok_bind, Outcome.ok_bind, Pipeline.run_singleton, Stage.run_count]
    cases hrows : Stage.countRows (.string field) selected with
    | error => cases selected <;> cases hrows
    | ok rows =>
      apply congrArg Except.ok
      rw [← UInt64.toNat_inj, readCount_countRows hrows hselected]
      apply Reading.toNat_count_plain
      unfold Word.signedLimit Word.limit at *
      omega

end

theorem reads_agree [Pattern.Engine] (options : FindOptions)
    (hstored : (store.documents collection).length < 2 ^ 63) :
    store.find predicate options collection = store.aggregate (options.pipeline predicate) collection
      ∧
    (·.toNat) <$> store.countDocuments predicate collection
      = (·.length) <$> store.find predicate {} collection
      ∧
    (∀ field, store.countDocuments predicate collection
      = (fun rows => (rows.head?.map (readCount · field)).getD 0)
          <$> store.aggregate [Stage.filter predicate, Stage.count field] collection)
      ∧
    ∀ document ∈ store.documents collection, ∀ failure,
      Predicate.holds document predicate = .error failure →
        ∃ first,
          store.find predicate options collection = .error first
            ∧
          store.aggregate (options.pipeline predicate) collection = .error first
            ∧
          store.countDocuments predicate collection = .error first
            ∧
          ∀ field, store.aggregate [Stage.filter predicate, Stage.count field] collection
            = .error first := by
  have hfits : (store.documents collection).length ≤ Word.signedLimit := by
    unfold Word.signedLimit
    omega
  have hfind := find_eq_aggregate predicate hfits options
  refine ⟨hfind, toNat_countDocuments predicate hfits, countDocuments_eq_readCount predicate hfits, ?_⟩
  intro document hmem failure herror
  rcases Predicate.exists_select_error hmem herror with ⟨first, hfirst⟩
  refine ⟨first, ?_⟩
  rw [← hfind]
  unfold find countDocuments aggregate
  simp only [Pipeline.run_cons, Stage.run_filter, hfirst]
  exact ⟨rfl, rfl, rfl, fun _ => rfl⟩

theorem reads_agree_beyond_signed :
    let entry (id : Int32) (tag : Value) : Document := [("_id", .int32 id), ("tag", tag)]
    let store : Store :=
      ⟨[("c", [entry 1 (.string "a"), entry 2 .null, entry 3 (.string "c"), entry 4 (.string "b")])],
        Store.firstId⟩
    let predicate : Document := [("tag", .document [("$ne", .null)])]
    let options : FindOptions := {
      projection := some [("tag", .int32 0)]
      sort := some [("tag", .int32 (-1))]
      skip := some 1
      limit := some 18446744073709551615
    }
    (store.documents "c").length < 2 ^ 63
      ∧
    store.aggregate (options.pipeline predicate) "c" = .ok [[("_id", .int32 4)], [("_id", .int32 1)]]
      ∧
    (·.length) <$> store.find predicate {} "c" = .ok 3
      ∧
    ∀ field, .ok 3 = (fun rows => (rows.head?.map (readCount · field)).getD 0)
      <$> store.aggregate [Stage.filter predicate, Stage.count field] "c" := by
  intro entry store predicate options
  have hstored : (store.documents "c").length < 2 ^ 63 := by decide
  have hagree := reads_agree predicate options hstored
  have hfind : store.find predicate options "c" = .ok [[("_id", .int32 4)], [("_id", .int32 1)]] := by
    rfl
  have hcount : store.countDocuments predicate "c" = .ok 3 := by
    rfl
  refine ⟨hstored, ?_, ?_, ?_⟩
  · rw [← hagree.1, hfind]
  · rw [← hagree.2.1, hcount]
    rfl
  · rw [← hcount]
    exact hagree.2.2.1

end Store

end DocQuery
