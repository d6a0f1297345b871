import DocQuery.Proofs.Pagination.Reading
import DocQuery.Proofs.Pagination.Window
import DocQuery.Proofs.Predicate.Evaluation

/-!
This module contains the proof that pages of one size cut the rows of a reading into pieces without gaps
or overlaps, whatever size and whatever page is asked for.
-/

namespace DocQuery

theorem toNat_readCount_ofInt (field : String) {n : Nat} (h : n ≤ Word.signedLimit) :
    (readCount [(field, .ofInt n)] field).toNat = n := by
  unfold Word.signedLimit at h
  have hget : ∀ value : Value, Fields.get? [(field, value)] field = some value := by
    simp [Fields.get?_cons]
  by_cases hfits : Word.fits32 n = true
  · have hvalue : Value.ofInt n = .int32 (Int32.ofInt n) := if_pos hfits
    simp only [Word.fits32, Bool.and_eq_true, decide_eq_true_eq] at hfits
    rw [hvalue]
    simp only [readCount, hget]
    rw [Int32.toInt_ofInt_of_le (by omega) (by omega), UInt64.toNat_ofNat']
    omega
  · have hvalue : Value.ofInt n = .int64 (Int64.ofInt n) := if_neg hfits
    rw [hvalue]
    simp only [readCount, hget]
    rw [Int64.toInt_ofInt_of_le (by omega) (by omega), UInt64.toNat_ofNat']
    omega

namespace Reading

theorem length_arrange (reading : Reading) (query : Query) (selected : List Document) :
    (reading.arrange query selected).length = selected.length := by
  have hreshape : ∀ (join : Join) (rows : List Document), (join.reshape rows).length = rows.length := by
    intro join rows
    unfold Join.reshape
    split <;> simp
  cases reading with
  | plain | unwound => simp [arrange, Query.length_sortRows]
  | joined join => simp [arrange, hreshape, Query.length_sortRows]

theorem toNat_count (reading : Reading) {selected : List Document}
    (h : selected.length ≤ Word.signedLimit) : (reading.count selected).toNat = selected.length := by
  cases reading with
  | plain =>
    apply toNat_count_plain
    unfold Word.signedLimit Word.limit at *
    omega
  | unwound | joined =>
    cases selected with
    | nil => rfl
    | cons row rest =>
      unfold count
      dsimp only
      rw [Collection.pipelineTotal_cons]
      apply toNat_readCount_ofInt
      exact h

theorem slice_eq {α : Type} (reading : Reading) (skip limit : UInt64) {rows : List α}
    (h : rows.length ≤ Word.signedLimit) :
    reading.slice skip limit rows = (rows.drop skip.toNat).take limit.toNat := by
  cases reading with
  | plain => rfl
  | unwound | joined =>
    unfold slice Pipeline.slice
    dsimp only
    rw [drop_min _ h, take_min]
    rw [List.length_drop]
    omega

end Reading

/--
The pages that are served of some rows, with and without totals, are what a list of these rows is cut into.
-/
structure Partition {α : Type} (rows : List α) (size : UInt64) (served : Bool → UInt64 → Page α) :
    Prop where
  page_eq (counted : Bool) (page : UInt64) : (served counted page).page = max page 1
  size_eq (counted : Bool) (page : UInt64) : (served counted page).size = size
  items_eq (counted : Bool) (page : UInt64) : (served counted page).items
    = (rows.drop ((max page.toNat 1 - 1) * size.toNat)).take size.toNat
  total_eq (page : UInt64) : (served true page).total.map (·.toNat) = some rows.length
  pageCount_eq (page : UInt64) :
    (served true page).pageCount.map (·.toNat) = some (rows.length ⌈/⌉ size.toNat)
  flatMap_items (counted : Bool) :
    (List.range (rows.length ⌈/⌉ size.toNat)).flatMap
      (fun page => (served counted (UInt64.ofNat (page + 1))).items) = rows
  items_ne_nil (counted : Bool) (page : UInt64) (hfirst : 1 ≤ page.toNat)
    (hlast : page.toNat ≤ rows.length ⌈/⌉ size.toNat) : (served counted page).items ≠ []
  items_eq_nil (counted : Bool) (page : UInt64)
    (hbeyond : rows.length ⌈/⌉ size.toNat < page.toNat) : (served counted page).items = []

namespace Reading

section

variable (reading : Reading) (query : Query) {selected : List Document}

theorem items_serve {cursor : Cursor} (h : selected.length ≤ Word.signedLimit)
    (hprevious : cursor.previousTotal = 0) :
    (reading.serve query cursor selected).items
      =
    window cursor.size.toNat (cursor.page.toNat - 1) (reading.arrange query selected) := by
  have hlength := reading.length_arrange query selected
  unfold serve Page.serve window
  dsimp only
  rw [slice_eq, Cursor.toNat_offset cursor _ hprevious, drop_min]
  · unfold Word.signedLimit Word.limit at *
    omega
  · omega

theorem total_serve {cursor : Cursor} (hcounted : cursor.computeTotal = true) :
    (reading.serve query cursor selected).total = some (reading.count selected) := by
  unfold serve Page.serve total
  rw [if_pos hcounted]

theorem pageCount_serve {cursor : Cursor} (hcounted : cursor.computeTotal = true) :
    (reading.serve query cursor selected).pageCount
      =
    some (pageCount (reading.count selected) cursor.size) := by
  unfold serve Page.serve total
  rw [if_pos hcounted]
  rfl

section

variable (limits : Limits) (size : UInt64) (h : selected.length ≤ Word.signedLimit)

include h

theorem items_serve_normalized (counted : Bool) (page : UInt64) :
    (reading.serve query (Cursor.normalized { page, size, computeTotal := counted } limits) selected).items
      =
    window (limits.clamp size).toNat (max page.toNat 1 - 1) (reading.arrange query selected) := by
  rw [items_serve reading query h rfl]
  unfold Cursor.normalized
  dsimp only
  rw [Word.toNat_max]
  rfl

theorem items_serve_ofNat (counted : Bool) {page : Nat}
    (hpage : page < selected.length ⌈/⌉ (limits.clamp size).toNat) :
    (reading.serve query
      (Cursor.normalized { page := UInt64.ofNat (page + 1), size, computeTotal := counted } limits)
      selected).items
      =
    window (limits.clamp size).toNat page (reading.arrange query selected) := by
  have hpos := limits.toNat_clamp_pos size
  have hlt := (lt_ceilDiv_iff _ _ hpos).mp hpage
  have hle := Nat.le_mul_of_pos_right page hpos
  rw [items_serve_normalized reading query limits size h, UInt64.toNat_ofNat', Nat.mod_eq_of_lt]
  · congr 1
    omega
  -- there are no more pages than rows, so the number of a page that has rows fits in a word
  · unfold Word.signedLimit at h
    omega

theorem partition_serve :
    Partition (reading.arrange query selected) (limits.clamp size) fun counted page =>
      reading.serve query (Cursor.normalized { page, size, computeTotal := counted } limits) selected := by
  have hpos := limits.toNat_clamp_pos size
  have hlength := reading.length_arrange query selected
  have hitems := reading.items_serve_normalized query limits size h
  constructor
  · intro counted page
    rfl
  · intro counted page
    rfl
  · exact hitems
  · intro page
    rw [total_serve _ _ rfl, Option.map_some, toNat_count reading h, hlength]
  · intro page
    rw [pageCount_serve _ _ rfl, Option.map_some, hlength]
    unfold Cursor.normalized
    dsimp only
    rw [toNat_pageCount hpos, toNat_count reading h]
  · intro counted
    refine Eq.trans (List.flatMap_congr ?_) (flatMap_window_eq_self (reading.arrange query selected) hpos)
    intro page hpage
    rw [hlength, List.mem_range] at hpage
    exact items_serve_ofNat reading query limits size h counted hpage
  · intro counted page hfirst hlast
    rw [hitems, ne_eq, window_eq_nil_iff hpos]
    omega
  · intro counted page hbeyond
    rw [hitems, window_eq_nil_iff hpos]
    omega

end

end

theorem length_select_le [Pattern.Engine] {reading : Reading} {store : Store} {collection : String}
    {query : Query} {selected : List Document} (hok : reading.select store collection query = .ok selected)
    (hstays : ∀ field, reading ≠ .unwound field) :
    selected.length ≤ (store.documents collection).length := by
  cases reading with
  | plain =>
    unfold select head Store.aggregate at hok
    rw [Pipeline.run_singleton, Stage.run_filter] at hok
    exact (Predicate.sublist_of_select hok).length_le
  | unwound field => exact absurd rfl (hstays field)
  | joined join =>
    unfold select head Store.aggregate at hok
    rw [Pipeline.run_cons] at hok
    rcases Outcome.bind_eq_ok_iff.mp hok with ⟨attached, hattached, hok⟩
    cases hattached
    rw [Pipeline.run_singleton, Stage.run_filter] at hok
    have hlength := (Predicate.sublist_of_select hok).length_le
    rw [List.length_map] at hlength
    exact hlength

end Reading

namespace Collection

theorem pages_partition [Pattern.Engine] {collection : Collection} {reading : Reading} {query : Query}
    {store : Store} {rows : List Document} (size : UInt64)
    (hrows : reading.rows store collection.name query = .ok rows)
    (hstored : (store.documents collection.name).length < 2 ^ 63)
    (hunwound : ∀ field, reading = .unwound field → rows.length < 2 ^ 63) :
    ∃ served : Bool → UInt64 → Page Document,
      (∀ counted page,
        (collection.pageBy reading query { page, size, computeTotal := counted } : StoreM (Page Document))
          store
          =
        (.ok (served counted page), store))
        ∧
      Partition rows (collection.config.limits.clamp size) served := by
  rw [Reading.rows_eq] at hrows
  cases hselect : reading.select store collection.name query with
  | error failure =>
    rw [hselect] at hrows
    cases hrows
  | ok selected =>
    rw [hselect] at hrows
    cases hrows
    have hlength : selected.length ≤ Word.signedLimit := by
      unfold Word.signedLimit
      -- only unwinding can make more rows than there are documents
      by_cases hstays : ∀ field, reading ≠ .unwound field
      · have hle := Reading.length_select_le hselect hstays
        omega
      · rcases not_forall_not.mp hstays with ⟨field, hfield⟩
        have hlt := hunwound field hfield
        rw [Reading.length_arrange] at hlt
        omega
    refine ⟨_, ?_, reading.partition_serve query collection.config.limits size hlength⟩
    intro counted page
    rw [pageBy_eq, hselect]
    rfl

theorem pages_partition_unwound :
    let tagged (id : Int32) (tag : Value) : Document := [("_id", .int32 id), ("tags", tag)]
    let store : Store :=
      ⟨[("c", [
          tagged 1 (.array [.string "a", .string "b"]), tagged 2 .null, tagged 3 (.array [.string "c"])])],
        Store.firstId⟩
    let query : Query := { order := ⟨[("_id", .native (.int32 (-1)))]⟩ }
    let rows := [tagged 3 (.string "c"), tagged 1 (.string "a"), tagged 1 (.string "b")]
    Reading.rows (.unwound "tags") store "c" query = .ok rows
      ∧
    ∃ served : Bool → UInt64 → Page Document,
      (∀ counted page,
        (pageBy { name := "c" } (.unwound "tags") query { page, size := 2, computeTotal := counted } :
          StoreM (Page Document)) store
          =
        (.ok (served counted page), store))
        ∧
      Partition rows 2 served := by
  intro tagged store query rows
  have hselect : Reading.select (.unwound "tags") store "c" query
      = .ok [tagged 1 (.string "a"), tagged 1 (.string "b"), tagged 3 (.string "c")] := by
    rfl
  have hrows : Reading.rows (.unwound "tags") store "c" query = .ok rows := by
    rw [Reading.rows_eq, hselect]
    rfl
  refine ⟨hrows, pages_partition 2 hrows ?_ ?_⟩
  · decide
  · intro _ _
    decide

end Collection

end DocQuery
