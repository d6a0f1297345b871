import DocQuery.Proofs.Pagination.Reading
import DocQuery.Proofs.Pagination.Window
import DocQuery.Proofs.Predicate.Evaluation

/-!
This module contains the proof that a page does not move while rows come in ahead of it, if the caller
tells what total it saw before.
-/

namespace DocQuery
namespace Cursor

theorem one_lt_normalized {cursor : Cursor} {limits : Limits} (h : 1 < cursor.page) :
    1 < (cursor.normalized limits).page := by
  rw [UInt64.lt_iff_toNat_lt] at h ⊢
  unfold normalized
  dsimp only
  rw [Word.toNat_max]
  omega

theorem toNat_offset_of_drift {cursor : Cursor} {seen came : Nat} {total : UInt64}
    (hpage : 1 < cursor.page) (hseen : 0 < seen) (hprevious : cursor.previousTotal.toNat = seen)
    (htotal : total.toNat = seen + came) :
    (cursor.offset (some total)).toNat
      =
    min ((cursor.page.toNat - 1) * cursor.size.toNat + came) Word.limit := by
  have hpositive : 0 < cursor.previousTotal := by
    rw [UInt64.lt_iff_toNat_lt, hprevious]
    exact hseen
  have hdrift : (cursor.drift total).toNat = came := by
    unfold drift
    rw [if_pos ⟨hpage, hpositive⟩, Word.toNat_subSat, htotal, hprevious]
    omega
  unfold offset skip
  rw [Option.map_some, Option.getD_some]
  simp only [Word.toNat_addSat, Word.toNat_mulSat, Word.toNat_subSat, hdrift, UInt64.toNat_one]
  unfold Word.limit
  omega

end Cursor

theorem Query.sortRows_append {query : Query} {rows ahead : List Document}
    (h : ∀ new ∈ ahead, ∀ old ∈ rows, Document.compareBy (query.order?.getD []) new old = .lt) :
    query.sortRows (rows ++ ahead) = query.sortRows ahead ++ query.sortRows rows := by
  apply sortDocuments_append
  exact h

namespace Reading

theorem items_serve_append {query : Query} {rows ahead : List Document} {old new : Cursor}
    (hahead : ∀ new ∈ ahead, ∀ old ∈ rows, Document.compareBy (query.order?.getD []) new old = .lt)
    (hfits : (rows ++ ahead).length ≤ Word.limit) (hsize : new.size = old.size)
    (hoffset : (new.offset (plain.total new (rows ++ ahead))).toNat
      = min ((old.offset (plain.total old rows)).toNat + ahead.length) Word.limit) :
    (plain.serve query new (rows ++ ahead)).items = (plain.serve query old rows).items := by
  have hlength : ((query.sortRows ahead).map query.projectRow).length = ahead.length := by
    rw [List.length_map, Query.length_sortRows]
  unfold serve Page.serve slice arrange
  dsimp only
  rw [Query.sortRows_append hahead, List.map_append, hoffset, hsize, drop_min, ← hlength, Nat.add_comm,
    List.drop_length_add_append]
  rw [List.length_append, hlength, List.length_map, Query.length_sortRows, Nat.add_comm,
    ← List.length_append]
  exact hfits

theorem toNat_offset_append {rows ahead : List Document} {old new : Cursor} (hsome : 0 < rows.length)
    (hfits : (rows ++ ahead).length ≤ Word.limit) (hpage : 1 < new.page)
    (hsame : new.page = old.page ∧ new.size = old.size) (hcounted : new.computeTotal = true)
    (hseen : new.previousTotal.toNat = rows.length) (hfresh : old.previousTotal = 0) :
    (new.offset (plain.total new (rows ++ ahead))).toNat
      =
    min ((old.offset (plain.total old rows)).toNat + ahead.length) Word.limit := by
  have htotal : plain.total new (rows ++ ahead) = some (plain.count (rows ++ ahead)) := if_pos hcounted
  have hcount := toNat_count_plain hfits
  rw [List.length_append] at hcount
  rw [htotal, Cursor.toNat_offset_of_drift hpage hsome hseen hcount, Cursor.toNat_offset _ _ hfresh,
    hsame.1, hsame.2]
  -- both offsets stop at the limit, the old one before the rows that came in are added
  omega

end Reading

namespace Collection

section

variable [Pattern.Engine]

theorem page_of_filter {collection : Collection} {store : Store} {query : Query} {cursor : Cursor}
    {met : Document → Bool}
    (hmet : ∀ document ∈ store.documents collection.name,
      Predicate.holds document query.predicate = .ok (met document)) :
    (collection.page query cursor : StoreM (Page Document)) store
      =
    (.ok (Reading.plain.serve query (cursor.normalized collection.config.limits)
      ((store.documents collection.name).filter met)), store) := by
  have hselect : Reading.plain.select store collection.name query
      = .ok ((store.documents collection.name).filter met) := by
    unfold Reading.select Reading.head Store.aggregate
    rw [Pipeline.run_singleton, Stage.run_filter, Predicate.select_eq_filter hmet]
  have hpage := collection.pageBy_eq .plain query cursor store
  rw [hselect] at hpage
  exact hpage

theorem page_of_grown {collection : Collection} {query : Query} {before after : Store}
    {added : List Document} {met : Document → Bool} {page : UInt64} (size : UInt64) (counted : Bool)
    (hgrown : after.documents collection.name = before.documents collection.name ++ added)
    (hmet : ∀ document ∈ after.documents collection.name,
      Predicate.holds document query.predicate = .ok (met document))
    (hsome : 0 < ((before.documents collection.name).filter met).length)
    (hfits : ((after.documents collection.name).filter met).length < 2 ^ 64)
    (hahead : ∀ new ∈ added.filter met, ∀ old ∈ (before.documents collection.name).filter met,
      Document.compareBy (query.order?.getD []) new old = .lt)
    (hpage : 1 < page) :
    ∃ old new : Page Document,
      (collection.page query { page, size, computeTotal := counted } : StoreM (Page Document)) before
        = (.ok old, before)
        ∧
      (collection.page query {
          page, size
          previousTotal := UInt64.ofNat ((before.documents collection.name).filter met).length
        } : StoreM (Page Document)) after
        = (.ok new, after)
        ∧
      new.items = old.items
        ∧
      new.total.map (·.toNat)
        = some (((before.documents collection.name).filter met).length + (added.filter met).length) := by
  have hbefore : ∀ document ∈ before.documents collection.name,
      Predicate.holds document query.predicate = .ok (met document) := by
    intro document hmem
    apply hmet
    rw [hgrown]
    exact List.mem_append_left added hmem
  have hselected : (after.documents collection.name).filter met
      = (before.documents collection.name).filter met ++ added.filter met := by
    rw [hgrown, List.filter_append]
  have hlimit : ((before.documents collection.name).filter met ++ added.filter met).length ≤ Word.limit := by
    rw [← hselected]
    unfold Word.limit
    omega
  have hseen : (UInt64.ofNat ((before.documents collection.name).filter met).length).toNat
      = ((before.documents collection.name).filter met).length := by
    rw [List.length_append] at hlimit
    apply Reading.toNat_count_plain
    omega
  refine ⟨_, _, page_of_filter hbefore, page_of_filter hmet, ?_, ?_⟩
  · rw [hselected]
    refine Reading.items_serve_append hahead hlimit ?_ ?_
    · rfl
    · apply Reading.toNat_offset_append hsome hlimit
      · apply Cursor.one_lt_normalized
        exact hpage
      · exact ⟨rfl, rfl⟩
      · rfl
      · exact hseen
      · rfl
  · rw [hselected, ← List.length_append]
    exact congrArg some (Reading.toNat_count_plain hlimit)

end

theorem page_of_grown_descending :
    let entry (id : Int32) (seq : Int32) : Document :=
      [("_id", .int32 id), ("kind", .string "a"), ("seq", .int32 seq)]
    let other (id : Int32) : Document := [("_id", .int32 id)]
    let rows := [entry 1 1, other 2, entry 3 2, entry 4 3]
    let added := [entry 5 5, other 6, entry 7 4]
    let store (rows : List Document) : Store := ⟨[("c", rows)], Store.firstId⟩
    let query : Query := {
      selector := .matching (.fields [("kind", .equals (.string "a"))])
      order := ⟨[("seq", .native (.int32 (-1)))]⟩
    }
    ∃ old new : Page Document,
      (page { name := "c" } query { page := 2, size := 2, computeTotal := false } :
        StoreM (Page Document)) (store rows)
        = (.ok old, store rows)
        ∧
      (page { name := "c" } query { page := 2, size := 2, previousTotal := 3 } :
        StoreM (Page Document)) (store (rows ++ added))
        = (.ok new, store (rows ++ added))
        ∧
      new.items = old.items
        ∧
      new.total.map (·.toNat) = some 5 := by
  intro entry other rows added store query
  have hmet : ∀ document ∈ rows ++ added,
      Predicate.holds document query.predicate = .ok (Fields.get? document "kind").isSome := by
    simp only [rows, added, List.cons_append, List.nil_append, List.forall_mem_cons]
    refine ⟨?_, ?_, ?_, ?_, ?_, ?_, ?_, by simp⟩ <;> rfl
  have hahead : ∀ new ∈ added.filter fun document => (Fields.get? document "kind").isSome,
      ∀ old ∈ rows.filter fun document => (Fields.get? document "kind").isSome,
        Document.compareBy (query.order?.getD []) new old = .lt := by
    decide
  have hseen : (((store rows).documents "c").filter fun document =>
      (Fields.get? document "kind").isSome).length = 3 := by
    decide
  have hpage := @page_of_grown _ { name := "c" } query (store rows) (store (rows ++ added)) added _ 2 2 false
    rfl hmet (by decide) (by decide) hahead (by decide)
  rw [hseen] at hpage
  exact hpage

end Collection
end DocQuery
