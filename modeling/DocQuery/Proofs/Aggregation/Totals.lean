import DocQuery.Proofs.Aggregation.Accumulated
import DocQuery.Proofs.Store.Reads

/-!
This module contains which sums of integers are exact. A sum goes through the documents in the order in which
they are stored and stops at the ends of the 64-bit range on its way, so that it is exact in every order exactly
if neither the positive integers on their own nor the negative ones leave the range.
-/

namespace DocQuery

theorem filterMap_filter_eq_filter_filterMap {α β : Type} {f : α → Option β} {p : α → Bool}
    {q : β → Bool} (h : ∀ item value, f item = some value → p item = q value) (items : List α) :
    (items.filter p).filterMap f = (items.filterMap f).filter q := by
  rw [List.filterMap_filter, List.filter_filterMap]
  congr 1
  funext item
  cases hvalue : f item with
  | none => rw [ite_self, Option.filter_none]
  | some value => rw [h item value hvalue, Option.filter_some]

theorem Predicate.exists_met_of_select [Pattern.Engine] {predicate : Document}
    {documents selected : List Document} (h : select predicate documents = .ok selected) :
    ∃ met : Document → Bool, (∀ document ∈ documents, holds document predicate = .ok (met document))
      ∧ selected = documents.filter met := by
  have hmet : ∀ document ∈ documents,
      holds document predicate = .ok ((holds document predicate).toOption.getD false) := by
    intro document hmem
    cases hholds : holds document predicate with
    | ok => rfl
    | error =>
      obtain ⟨failure, herror⟩ := exists_select_error hmem hholds
      rw [herror] at h
      cases h
  refine ⟨_, hmet, ?_⟩
  rw [select_eq_filter hmet] at h
  cases h
  rfl

def Document.intAt? (field : String) (document : Document) : Option Int := (document.sortValue field).asInt?

def Document.gainsAt (field : String) (document : Document) : Bool :=
  (document.intAt? field).any fun n => decide (0 < n)

theorem Document.gainsAt_of_intAt? {field : String} {document : Document} {n : Int}
    (h : document.intAt? field = some n) : document.gainsAt field = decide (0 < n) := by
  rw [gainsAt, h]
  rfl

namespace Collection

variable {collection : Collection} {selector : Selector} {store : Store} {field : String}

section

variable [Pattern.Engine]

def SumsTo (collection : Collection) (selector : Selector) (field : String) (store : Store) (n : Int) : Prop :=
  ∃ total, (collection.sum? selector field : StoreM (Option Value)) store = (.ok (some total), store)
    ∧ total.asInt? = some n

theorem SumsTo.unique {n m : Int} (hn : collection.SumsTo selector field store n)
    (hm : collection.SumsTo selector field store m) : n = m := by
  rcases hn with ⟨total, hsum, hn⟩
  rcases hm with ⟨other, hsum', hm⟩
  rw [hsum] at hsum'
  cases hsum'
  rw [hn] at hm
  exact Option.some.inj hm

theorem sumsTo_runningSum {found : List Document} (hselected : collection.selected selector store = .ok found)
    (hne : found ≠ []) (h : ∀ document ∈ found, ∀ x, document.sortValue field ≠ .double x) :
    collection.SumsTo selector field store (Word.runningSum 0 (found.filterMap (·.intAt? field))) := by
  have htotal := Accumulator.asInt?_total_sum (List.forall_mem_map.mpr h)
  rw [List.filterMap_map] at htotal
  exact ⟨_, sum?_of_selected hselected hne field, htotal⟩

theorem exists_sumsTo_put {found : List Document} (hselected : collection.selected selector store = .ok found)
    (hne : found ≠ []) (hdoubles : ∀ document ∈ found, ∀ x, document.sortValue field ≠ .double x) :
    ∃ met : Document → Bool, found = (store.documents collection.name).filter met
      ∧ ∀ documents : List Document, documents.Perm (store.documents collection.name) →
        collection.SumsTo selector field (store.put collection.name documents)
          (Word.runningSum 0 ((documents.filter met).filterMap (·.intAt? field))) := by
  obtain ⟨met, hmet, hfilter⟩ := Predicate.exists_met_of_select hselected
  refine ⟨met, hfilter, ?_⟩
  intro documents hperm
  have hfoundPerm : (documents.filter met).Perm found := hfilter ▸ hperm.filter met
  apply sumsTo_runningSum
  · rw [selected, Store.documents_put, if_pos rfl]
    apply Predicate.select_eq_filter
    intro document hdocument
    exact hmet document (hperm.mem_iff.mp hdocument)
  · intro hempty
    rw [hempty, List.nil_perm] at hfoundPerm
    exact hne hfoundPerm
  · intro document hdocument
    exact hdoubles document (hfoundPerm.mem_iff.mp hdocument)

theorem fits64_of_sumsTo_put {found : List Document} {met : Document → Bool}
    (hfilter : found = (store.documents collection.name).filter met)
    (hput : ∀ documents : List Document, documents.Perm (store.documents collection.name) →
      collection.SumsTo selector field (store.put collection.name documents)
        (Word.runningSum 0 ((documents.filter met).filterMap (·.intAt? field))))
    (hexact : ∀ documents : List Document, documents.Perm (store.documents collection.name) →
      collection.SumsTo selector field (store.put collection.name documents)
        (found.filterMap (·.intAt? field)).sum) :
    Word.fits64 (Word.gains (found.filterMap (·.intAt? field))) = true
      ∧ Word.fits64 (Word.losses (found.filterMap (·.intAt? field))) = true := by
  have hgain : ∀ (document : Document) (n : Int), document.intAt? field = some n →
      document.gainsAt field = decide (0 < n) :=
    fun _ _ => Document.gainsAt_of_intAt?
  have hrest : ∀ (document : Document) (n : Int), document.intAt? field = some n →
      (!document.gainsAt field) = !decide (0 < n) := by
    intro document n hn
    rw [hgain document n hn]
  have hperm := List.filter_append_perm (·.gainsAt field) (store.documents collection.name)
  have hswapped := List.perm_append_comm.trans hperm
  have hfirst := (hput _ hperm).unique (hexact _ hperm)
  have hlast := (hput _ hswapped).unique (hexact _ hswapped)
  have hints : ∀ p : Document → Bool,
      ((store.documents collection.name).filter p).filter met = found.filter p := by
    intro p
    rw [hfilter, List.filter_comm]
  rw [List.filter_append, List.filterMap_append, hints, hints, filterMap_filter_eq_filter_filterMap hgain,
    filterMap_filter_eq_filter_filterMap hrest] at hfirst hlast
  exact Word.fits64_of_runningSum hfirst hlast

theorem sum_exact_iff {collection : Collection} {selector : Selector} {store : Store} {field : String}
    {found : List Document} (hfound : store.find selector.compile {} collection.name = .ok found)
    (hne : found ≠ []) (hdoubles : ∀ document ∈ found, ∀ x, document.sortValue field ≠ .double x) :
    let ns := found.filterMap (·.intAt? field)
    SumsTo collection selector field store (Word.runningSum 0 ns)
      ∧
    ((∀ documents : List Document, documents.Perm (store.documents collection.name) →
        SumsTo collection selector field (store.put collection.name documents) ns.sum)
      ↔
    Word.fits64 (Word.gains ns) = true ∧ Word.fits64 (Word.losses ns) = true) := by
  intro ns
  rw [find_eq_selected] at hfound
  refine ⟨sumsTo_runningSum hfound hne hdoubles, ?_⟩
  obtain ⟨met, hfilter, hput⟩ := exists_sumsTo_put hfound hne hdoubles
  constructor
  · intro hexact
    exact fits64_of_sumsTo_put hfilter hput hexact
  · rintro ⟨hgains, hlosses⟩ documents hperm
    have hints : ((documents.filter met).filterMap (·.intAt? field)).Perm ns := by
      apply List.Perm.filterMap
      rw [hfilter]
      exact hperm.filter met
    have hsums := hput documents hperm
    rwa [Word.runningSum_of_perm hints hgains hlosses] at hsums

end

theorem sum_exact_iff_limit :
    let entry (id : Int32) (value : Value) : Document := [("_id", .int32 id), ("n", value)]
    let documents : List Document :=
      [entry 1 (.int64 9223372036854775807), entry 2 (.string "x"), entry 3 (.int32 (-2)), [("_id", .int32 4)]]
    let store : Store := ⟨[("c", documents)], Store.firstId⟩
    let collection : Collection := ⟨"c", {}⟩
    store.find Selector.all.compile {} collection.name = .ok documents
      ∧
    documents ≠ []
      ∧
    (∀ document ∈ documents, ∀ x, document.sortValue "n" ≠ .double x)
      ∧
    ∀ reordered : List Document, reordered.Perm documents →
      collection.SumsTo .all "n" (store.put collection.name reordered) 9223372036854775805 := by
  intro entry documents store collection
  have hfound : store.find Selector.all.compile {} collection.name = .ok documents := rfl
  have hne : documents ≠ [] := List.cons_ne_nil _ _
  have hdoubles : ∀ document ∈ documents, ∀ x, document.sortValue "n" ≠ .double x := by
    simp only [documents, List.forall_mem_cons]
    refine ⟨?_, ?_, ?_, ?_, by nofun⟩ <;> nofun
  have hfits : Word.fits64 (Word.gains (documents.filterMap (·.intAt? "n"))) = true
      ∧ Word.fits64 (Word.losses (documents.filterMap (·.intAt? "n"))) = true := by
    decide
  exact ⟨hfound, hne, hdoubles, (sum_exact_iff hfound hne hdoubles).2.mpr hfits⟩

theorem not_sum_exact_beyond_limit :
    ¬∀ (collection : Collection) (selector : Selector) (store : Store) (field : String) (found : List Document),
      store.find selector.compile {} collection.name = .ok found →
        found ≠ [] →
          (∀ document ∈ found, ∀ x, document.sortValue field ≠ .double x) →
            Word.fits64 (found.filterMap (·.intAt? field)).sum = true →
              collection.SumsTo selector field store (found.filterMap (·.intAt? field)).sum := by
  intro h
  let entry (id : Int32) (n : Value) : Document := [("_id", .int32 id), ("n", n)]
  let documents : List Document :=
    [entry 1 (.int64 9223372036854775807), entry 2 (.int32 1), entry 3 (.int32 (-1))]
  let store : Store := ⟨[("c", documents)], Store.firstId⟩
  have hdoubles : ∀ document ∈ documents, ∀ x, document.sortValue "n" ≠ .double x := by
    simp only [documents, List.forall_mem_cons]
    refine ⟨?_, ?_, ?_, by nofun⟩ <;> nofun
  obtain ⟨total, hsum, htotal⟩ :=
    h ⟨"c", {}⟩ .all store "n" documents rfl (List.cons_ne_nil _ _) hdoubles (by decide)
  have hstopped : (sum? ⟨"c", {}⟩ .all "n" : StoreM (Option Value)) store
      = (.ok (some (.int64 9223372036854775806)), store) := by
    dsimp only [store, documents, entry]
    rfl
  rw [hstopped] at hsum
  cases hsum
  revert htotal
  decide

end Collection
end DocQuery
