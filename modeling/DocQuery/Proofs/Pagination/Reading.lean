import DocQuery.Pagination
import DocQuery.Proofs.Pipeline.Stages
import DocQuery.Proofs.Sorting.Stable
import DocQuery.Proofs.Store.Run

/-!
This module contains the three ways of reading pages as one: each of them selects rows, counts them,
brings them into order and shape, and cuts a window out of them.
-/

namespace DocQuery
namespace Store

variable {α β : Type}

theorem bind_of_read {first : StoreM α} {next : α → StoreM β} {store : Store} {answer : Outcome α}
    {result : α → Outcome β} (hfirst : first store = (answer, store))
    (hnext : ∀ value, next value store = (result value, store)) :
    (first >>= next) store = (answer >>= result, store) := by
  have hbind : (first >>= next) store = ExceptT.bindCont next (first store).1 (first store).2 := rfl
  rw [hbind, hfirst]
  cases answer with
  | error => rfl
  | ok value => exact hnext value

theorem bind_pure_of_read {first : StoreM α} {store : Store} {answer : Outcome α} (f : α → β)
    (hfirst : first store = (answer, store)) :
    (first >>= fun value => pure (f value)) store = (f <$> answer, store) := by
  have hpure : ∀ value, (pure (f value) : StoreM β) store = (.ok (f value), store) := fun _ => rfl
  rw [bind_of_read hfirst hpure]
  cases answer with
  | error => rfl
  | ok => rfl

variable [Pattern.Engine]

theorem send_aggregate (store : Store) (pipeline : Pipeline) (collection : String) :
    (send (.aggregate pipeline collection) : StoreM (List Document)) store
      =
    (store.aggregate pipeline collection, store) := rfl

theorem send_find (store : Store) (predicate : Document) (options : FindOptions) (collection : String) :
    (send (.find predicate options collection) : StoreM (List Document)) store
      =
    (store.find predicate options collection, store) := rfl

theorem send_countDocuments (store : Store) (predicate : Document) (collection : String) :
    (send (.countDocuments predicate collection) : StoreM UInt64) store
      =
    (store.countDocuments predicate collection, store) := rfl

end Store

namespace Query

def sortRows (query : Query) (rows : List Document) : List Document :=
  sortDocuments (query.order?.getD []) rows

theorem length_sortRows (query : Query) (rows : List Document) :
    (query.sortRows rows).length = rows.length := by
  apply length_sortDocuments

theorem sortRows_map {query : Query} {rows : List Document} {f : Document → Document}
    (h : ∀ row ∈ rows, ∀ key ∈ query.order?.getD [], (f row).sortValue key.1 = row.sortValue key.1) :
    query.sortRows (rows.map f) = (query.sortRows rows).map f := by
  apply sortDocuments_map
  intro a ha b hb
  rw [Document.compareBy_map (h a ha) (h b hb)]

def projectRow (query : Query) (row : Document) : Document :=
  match query.projection? with
  | some projection => row.project projection
  | none => row

theorem projectRow_of_all {query : Query} (hall : query.projection? = none) : query.projectRow = id := by
  unfold projectRow
  rw [hall]
  rfl

end Query

theorem sortDocuments_nil (rows : List Document) : sortDocuments [] rows = rows := by
  have hfold : ∀ sorted : List Document,
      rows.foldl
        (fun sorted row => insertFromEnd (fun a b => Document.compareBy [] a b == .lt) row sorted) sorted
        =
      rows.reverse ++ sorted := by
    induction rows with
    | nil => simp
    | cons row rest ih =>
      intro sorted
      rw [List.foldl_cons, ih, List.reverse_cons, List.append_assoc]
      cases sorted <;> rfl
  unfold sortDocuments sortStable
  rw [hfold, List.append_nil, List.reverse_reverse]

theorem Store.arrange_eq (query : Query) (skip limit : Option UInt64) (rows : List Document) :
    arrange { projection := query.projection?, sort := query.order?, skip, limit } rows
      =
    arrange { skip, limit } ((query.sortRows rows).map query.projectRow) := by
  unfold arrange Query.sortRows Query.projectRow
  cases query.order? with
  | none => cases query.projection? <;> cases limit <;> simp [sortDocuments_nil]
  | some order => cases query.projection? <;> cases limit <;> simp

namespace Pipeline

variable [Pattern.Engine] (collections : Collections) (query : Query) (rows : List Document)

theorem run_project_toList :
    run collections (query.projection?.map Stage.project).toList rows
      =
    .ok (rows.map query.projectRow) := by
  rw [run_project?]
  unfold Query.projectRow
  cases query.projection? with
  | none => simp
  | some projection => rfl

theorem run_sort_toList :
    run collections (query.order?.map Stage.sort).toList rows = .ok (query.sortRows rows) := by
  rw [run_sort?]
  unfold Query.sortRows
  cases query.order? with
  | none => simp [sortDocuments_nil]
  | some order => rfl

def slice {α : Type} (skip limit : UInt64) (rows : List α) : List α :=
  (rows.drop (min skip.toNat Word.signedLimit)).take (min limit.toNat Word.signedLimit)

theorem run_skip_limit (skip limit : UInt64) :
    run collections [Stage.skip skip, Stage.limit limit] rows = .ok (slice skip limit rows) := by
  rw [run_cons, Stage.run_skip, Outcome.ok_bind, run_singleton, Stage.run_limit, slice]

end Pipeline

namespace Store

variable [Pattern.Engine]

theorem aggregate_append (store : Store) (first second : Pipeline) (collection : String) :
    store.aggregate (first ++ second) collection
      =
    store.aggregate first collection >>= Pipeline.run store.collections second := by
  apply Pipeline.run_append

theorem aggregate_arranged (store : Store) (head : Pipeline) (query : Query) (collection : String) :
    store.aggregate
        (head
          ++ (query.projection?.map Stage.project).toList
          ++ (query.order?.map Stage.sort).toList)
        collection
      =
    (fun selected => query.sortRows (selected.map query.projectRow)) <$> store.aggregate head collection := by
  rw [aggregate_append, aggregate_append]
  cases store.aggregate head collection with
  | error => rfl
  | ok selected =>
    rw [Outcome.ok_bind, Pipeline.run_project_toList, Outcome.ok_bind, Pipeline.run_sort_toList]
    rfl

end Store

namespace Collection

def countedRows (selected : List Document) : List Document :=
  match selected with
  | [] => []
  | _ => [[(totalField, .ofInt selected.length)]]

def pipelineTotal (selected : List Document) : UInt64 :=
  ((countedRows selected).head?.map (readCount · totalField)).getD 0

theorem pipelineTotal_cons (row : Document) (rest : List Document) :
    pipelineTotal (row :: rest)
      =
    readCount [(totalField, .ofInt (row :: rest).length)] totalField := by
  unfold pipelineTotal countedRows
  rw [List.head?_cons, Option.map_some, Option.getD_some]

variable [Pattern.Engine]

theorem aggregate_count (store : Store) (head : Pipeline) (collection : String) :
    store.aggregate (head ++ [Stage.count totalField]) collection
      =
    countedRows <$> store.aggregate head collection := by
  have hcount : ∀ selected, Pipeline.run store.collections [Stage.count totalField] selected
      = .ok (countedRows selected) := by
    intro selected
    rw [Pipeline.run_singleton, Stage.run_count]
    cases selected with
    | nil => rfl
    | cons row rest => rfl
  rw [Store.aggregate_append, funext hcount]
  cases store.aggregate head collection with
  | error => rfl
  | ok => rfl

theorem aggregate_window (store : Store) (head : Pipeline) (query : Query) (skip limit : UInt64)
    (collection : String) :
    store.aggregate
        (head
          ++ (query.projection?.map Stage.project).toList
          ++ (query.order?.map Stage.sort).toList
          ++ [Stage.skip skip, Stage.limit limit])
        collection
      =
    (fun selected => Pipeline.slice skip limit (query.sortRows (selected.map query.projectRow)))
      <$> store.aggregate head collection := by
  rw [Store.aggregate_append, Store.aggregate_arranged]
  cases store.aggregate head collection with
  | error => rfl
  | ok selected => exact Pipeline.run_skip_limit store.collections _ skip limit

theorem pageOf_eq (collection : Collection) (head : Pipeline) (query : Query) (cursor : Cursor)
    (store : Store) :
    (collection.pageOf head query cursor : StoreM (Page Document)) store
      =
    ((fun selected =>
        let total := if cursor.computeTotal then some (pipelineTotal selected) else none
        Page.serve cursor total
          (Pipeline.slice (cursor.offset total) cursor.size
            (query.sortRows (selected.map query.projectRow))))
      <$> store.aggregate head collection.name, store) := by
  have hfetch : ∀ total : Option UInt64,
      (do return Page.serve cursor total (← send (.aggregate
        (head
          ++ (query.projection?.map Stage.project).toList
          ++ (query.order?.map Stage.sort).toList
          ++ [Stage.skip (cursor.offset total), Stage.limit cursor.size]) collection.name)) :
        StoreM (Page Document)) store
        =
      ((fun selected => Page.serve cursor total
          (Pipeline.slice (cursor.offset total) cursor.size
            (query.sortRows (selected.map query.projectRow))))
        <$> store.aggregate head collection.name, store) := by
    intro total
    rw [Store.bind_pure_of_read _ (Store.send_aggregate store _ _), aggregate_window, Functor.map_map]
  unfold pageOf
  split
  · next hcounted =>
    have hread := Store.bind_of_read (Store.send_aggregate store (head ++ [Stage.count totalField])
      collection.name) fun rows => hfetch (some ((rows.head?.map (readCount · totalField)).getD 0))
    refine Eq.trans hread ?_
    rw [aggregate_count]
    cases store.aggregate head collection.name with
    | error => rfl
    | ok => rfl
  · exact hfetch none

end Collection

namespace Store

variable [Pattern.Engine]

theorem find_eq (store : Store) (query : Query) (skip limit : Option UInt64) (collection : String) :
    store.find query.predicate
        { projection := query.projection?, sort := query.order?, skip, limit } collection
      =
    (fun selected => arrange { skip, limit } ((query.sortRows selected).map query.projectRow))
      <$> store.aggregate [Stage.filter query.predicate] collection := by
  unfold find aggregate
  rw [Pipeline.run_singleton, Stage.run_filter]
  cases Predicate.select query.predicate (store.documents collection) with
  | error => rfl
  | ok selected => exact congrArg Except.ok (arrange_eq query skip limit selected)

theorem countDocuments_eq (store : Store) (predicate : Document) (collection : String) :
    store.countDocuments predicate collection
      =
    (fun selected => UInt64.ofNat selected.length)
      <$> store.aggregate [Stage.filter predicate] collection := by
  unfold countDocuments aggregate
  rw [Pipeline.run_singleton, Stage.run_filter]
  cases Predicate.select predicate (store.documents collection) with
  | error => rfl
  | ok => rfl

end Store

theorem Collection.page_eq [Pattern.Engine] (collection : Collection) (query : Query) (cursor : Cursor)
    (store : Store) :
    (collection.page query cursor : StoreM (Page Document)) store
      =
    ((fun selected =>
        let cursor := cursor.normalized collection.config.limits
        let total := if cursor.computeTotal then some (UInt64.ofNat selected.length) else none
        Page.serve cursor total
          (((query.sortRows selected).map query.projectRow).drop (cursor.offset total).toNat
            |>.take cursor.size.toNat))
      <$> store.aggregate [Stage.filter query.predicate] collection.name, store) := by
  unfold page
  generalize cursor.normalized collection.config.limits = cursor
  -- the fetch is the same with a total as without one
  have hfetch : ∀ total : Option UInt64,
      (do return Page.serve cursor total (← send (.find query.predicate {
          projection := query.projection?
          sort := query.order?
          skip := some (cursor.offset total)
          limit := some cursor.size
        } collection.name)) : StoreM (Page Document)) store
        =
      ((fun selected => Page.serve cursor total
          (((query.sortRows selected).map query.projectRow).drop (cursor.offset total).toNat
            |>.take cursor.size.toNat))
        <$> store.aggregate [Stage.filter query.predicate] collection.name, store) := by
    intro total
    rw [Store.bind_pure_of_read _ (Store.send_find store _ _ _), Store.find_eq, Functor.map_map]
    rfl
  dsimp only
  split
  · next hcounted =>
    have hread := Store.bind_of_read (Store.send_countDocuments store query.predicate collection.name)
      fun total => hfetch (some total)
    rw [bind_map_left, hread, Store.countDocuments_eq]
    cases store.aggregate [Stage.filter query.predicate] collection.name with
    | error => rfl
    | ok => rfl
  · exact hfetch none

inductive Reading where
  | plain
  | unwound (field : String)
  | joined (join : Join)

def Collection.pageBy {m : Type → Type} [Monad m] [MonadStore m] (collection : Collection)
    (reading : Reading) (query : Query) (cursor : Cursor) : m (Page Document) :=
  match reading with
  | .plain => collection.page query cursor
  | .unwound field => collection.pageUnwound field query cursor
  | .joined join => collection.pageJoined join query cursor

namespace Reading

def head (reading : Reading) (query : Query) : Pipeline :=
  match reading with
  | plain => [Stage.filter query.predicate]
  | unwound field => [Stage.unwind field, Stage.filter query.predicate]
  | joined join => [join.stage, Stage.filter query.predicate]

section

variable [Pattern.Engine]

def select (reading : Reading) (store : Store) (collection : String) (query : Query) :
    Outcome (List Document) :=
  store.aggregate (reading.head query) collection

def rows (reading : Reading) (store : Store) (collection : String) (query : Query) :
    Outcome (List Document) :=
  match reading with
  | plain =>
    store.find query.predicate { projection := query.projection?, sort := query.order? } collection
  | unwound _ => arranged
  | joined join => join.reshape <$> arranged
where
  arranged : Outcome (List Document) :=
    store.aggregate
      (reading.head query
        ++ (query.projection?.map Stage.project).toList
        ++ (query.order?.map Stage.sort).toList)
      collection

def count (reading : Reading) (selected : List Document) : UInt64 :=
  match reading with
  | plain => UInt64.ofNat selected.length
  | _ => Collection.pipelineTotal selected

def arrange (reading : Reading) (query : Query) (selected : List Document) : List Document :=
  match reading with
  | plain => (query.sortRows selected).map query.projectRow
  | unwound _ => query.sortRows (selected.map query.projectRow)
  | joined join => join.reshape (query.sortRows (selected.map query.projectRow))

def slice {α : Type} (reading : Reading) (skip limit : UInt64) (rows : List α) : List α :=
  match reading with
  | plain => (rows.drop skip.toNat).take limit.toNat
  | _ => Pipeline.slice skip limit rows

def total (reading : Reading) (cursor : Cursor) (selected : List Document) : Option UInt64 :=
  if cursor.computeTotal then some (reading.count selected) else none

def serve (reading : Reading) (query : Query) (cursor : Cursor) (selected : List Document) :
    Page Document :=
  .serve cursor (reading.total cursor selected)
    (reading.slice (cursor.offset (reading.total cursor selected)) cursor.size
      (reading.arrange query selected))

omit [Pattern.Engine] in
theorem toNat_count_plain {selected : List Document} (h : selected.length ≤ Word.limit) :
    (plain.count selected).toNat = selected.length := by
  unfold Word.limit at h
  rw [count, UInt64.toNat_ofNat']
  omega

theorem rows_eq (reading : Reading) (store : Store) (collection : String) (query : Query) :
    reading.rows store collection query
      =
    reading.arrange query <$> reading.select store collection query := by
  unfold rows rows.arranged select
  cases reading with
  | plain =>
    dsimp only
    rw [Store.find_eq store query none none collection]
    rfl
  | unwound field => apply Store.aggregate_arranged
  | joined join =>
    dsimp only
    rw [Store.aggregate_arranged, Functor.map_map]
    rfl

end

theorem slice_map {α β : Type} (reading : Reading) (skip limit : UInt64) (f : α → β) (rows : List α) :
    reading.slice skip limit (rows.map f) = (reading.slice skip limit rows).map f := by
  cases reading with
  | plain => simp [slice]
  | unwound | joined => simp [slice, Pipeline.slice]

end Reading

theorem Join.reshape_slice (join : Join) (reading : Reading) (skip limit : UInt64)
    (rows : List Document) :
    join.reshape (reading.slice skip limit rows) = reading.slice skip limit (join.reshape rows) := by
  unfold Join.reshape
  split
  · rw [Reading.slice_map]
  · rfl

theorem Collection.pageBy_eq [Pattern.Engine] (collection : Collection) (reading : Reading) (query : Query)
    (cursor : Cursor) (store : Store) :
    (collection.pageBy reading query cursor : StoreM (Page Document)) store
      =
    (reading.serve query (cursor.normalized collection.config.limits)
      <$> reading.select store collection.name query, store) := by
  cases reading with
  | plain => apply page_eq
  | unwound field => apply pageOf_eq
  | joined join =>
    unfold pageBy pageJoined
    dsimp only
    rw [Store.bind_pure_of_read _ (pageOf_eq collection _ query _ store), Functor.map_map]
    congr 2
    funext selected
    unfold Reading.serve Page.mapItems Page.serve
    rw [Reading.arrange, ← Join.reshape_slice]
    rfl

end DocQuery
