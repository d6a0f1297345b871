import DocQuery.Proofs.Store.Picked
import DocQuery.Proofs.Update.Exact

/-!
This module contains the proof that no addition and no multiplication is lost: however such calls are
interleaved, the integer at a path is what exact arithmetic makes of the calls to this path that succeeded.
-/

namespace DocQuery

structure Calculation where
  collection : Collection
  selector : Selector
  arithmetic : Arithmetic
  field : String
  operand : Value

namespace Calculation

def path (call : Calculation) : Path := .ofString call.field

def send [Pattern.Engine] (call : Calculation) : StoreM UInt64 :=
  match call.arithmetic with
  | .add => call.collection.increase call.selector call.field call.operand
  | .mul => call.collection.multiply call.selector call.field call.operand

def update (call : Calculation) : Document :=
  [(call.arithmetic.name, .document [(call.field, call.operand)])]

theorem send_eq_updateMany [Pattern.Engine] (call : Calculation) (store : Store) :
    call.send store = store.updateMany call.selector.compile call.update call.collection.name := by
  unfold send update
  cases call.arithmetic with
  | add => rfl
  | mul => rfl

theorem update_eq_calculate {call : Calculation} (document : Document) (hid : call.path.head ≠ "_id") :
    document.update call.update = document.calculate call.arithmetic call.path call.operand := by
  have hname : call.field ≠ "_id" := by
    intro hname
    apply hid
    rw [path, hname]
    decide
  have hfield : document.updateField call.arithmetic.name call.field call.operand
      = document.calculate call.arithmetic call.path call.operand := by
    unfold Document.updateField
    rw [if_neg hname]
    cases call.arithmetic with
    | add => rfl
    | mul => rfl
  unfold update Document.update Document.updateFields
  rw [hfield]
  cases document.calculate call.arithmetic call.path call.operand with
  | error => rfl
  | ok => rfl

def result (call : Calculation) (held : Option Int) : Int :=
  call.arithmetic.onHeld held (call.operand.asInt?.getD 0)

section

variable {call : Calculation} {predicate document : Document} {held : Option Int} {n : Int}

theorem result_of_int (hoperand : call.operand.asInt? = some n) (held : Option Int) :
    call.result held = call.arithmetic.onHeld held n := by
  rw [result, hoperand]
  rfl

theorem patch?_of_fits [Pattern.Engine] (hmet : Predicate.holds document predicate = .ok true)
    (h : document.HasInt call.path held) (hoperand : call.operand.asInt? = some n)
    (hid : call.path.head ≠ "_id") (hfits : Word.fits64 (call.result held) = true) :
    ∃ result, Store.patch? predicate call.update document = .ok result
      ∧ (result.getD document).HasInt call.path (some (call.result held))
      ∧ (result.getD document).id? = document.id? := by
  rw [result_of_int hoperand] at hfits ⊢
  rcases Document.calculate_of_fits h hoperand hfits with ⟨updated, hupdated, hint⟩
  refine ⟨_, Store.patch?_of_met hmet ((update_eq_calculate document hid).trans hupdated), ?_⟩
  -- a document that is not written back had the result already
  split
  · next hsame => exact ⟨hint.of_same hsame, rfl⟩
  · exact ⟨hint, Document.get?_calculate_of_ne hid hupdated⟩

theorem patch?_of_not_fits [Pattern.Engine] (hmet : Predicate.holds document predicate = .ok true)
    (h : document.HasInt call.path held) (hoperand : call.operand.asInt? = some n)
    (hid : call.path.head ≠ "_id") (hfits : Word.fits64 (call.result held) = false) :
    Store.patch? predicate call.update document
      = .error (.invalidDocument (.overflow call.arithmetic.name)) := by
  rw [result_of_int hoperand] at hfits
  have hfail := Document.calculate_of_not_fits h hoperand hfits
  exact Store.patch?_of_met_error hmet ((update_eq_calculate document hid).trans hfail)

theorem get?_of_updatedBy {after : Document} {name : String} (hname : call.path.head ≠ name)
    (h : Document.UpdatedBy call.update document after) (hid : call.path.head ≠ "_id") :
    Fields.get? after name = Fields.get? document name := by
  cases h with
  | inl hsame => rw [hsame]
  | inr hupdate =>
    rw [update_eq_calculate document hid] at hupdate
    exact Document.get?_calculate_of_ne hname hupdate

end

/--
A call that is made to one field of the document of an id, with an integer of either width.
-/
structure Counts (call : Calculation) (collection : String) (id : Value) (field : String) : Prop where
  collection : call.collection.name = collection
  selector : call.selector.compile = [("_id", id)]
  field : call.field = field
  operand : ∃ n, call.operand.asInt? = some n

/--
A call whose path starts neither where that of a field does nor at the id. It may select any documents of
any collection, with any operand.
-/
structure Passes (call : Calculation) (field : String) : Prop where
  field : call.path.head ≠ (Path.ofString field).head
  id : call.path.head ≠ "_id"

theorem Passes.ne {call : Calculation} {field : String} (h : call.Passes field) : call.field ≠ field := by
  rintro rfl
  exact h.field rfl

end Calculation

namespace Store

def Counter [Pattern.Engine] (store : Store) (collection : String) (id : Value) (field : String)
    (held : Option Int) : Prop :=
  ∃ document, Predicate.Picks [("_id", id)] (store.documents collection) (some document)
    ∧ document.HasInt (.ofString field) held

variable {store : Store} {call : Calculation} {collection field : String} {id : Value} {held : Option Int}

section

variable [Pattern.Engine]

theorem Counter.send_of_fits (h : store.Counter collection id field held)
    (hcall : call.Counts collection id field) (hid : (Path.ofString field).head ≠ "_id")
    (hfits : Word.fits64 (call.result held) = true) :
    (∃ count, (call.send store).1 = .ok count)
      ∧
    (call.send store).2.Counter collection id field (some (call.result held)) := by
  rcases h with ⟨document, hpicks, hint⟩
  rcases hcall with ⟨rfl, hselector, rfl, n, hoperand⟩
  rcases Calculation.patch?_of_fits hpicks.holds hint hoperand hid hfits with ⟨result, hok, hresult, hkept⟩
  have hmet := (Predicate.holds_id_congr id hkept).trans hpicks.holds
  rcases updateDocuments_of_picks_ok hpicks hok hmet with ⟨count, after, hupdate, hafter⟩
  rw [Calculation.send_eq_updateMany, hselector, updateMany_of_get? (get?_of_picks hpicks), hupdate]
  refine ⟨⟨_, rfl⟩, result.getD document, ?_, hresult⟩
  rw [documents_put, if_pos rfl]
  exact hafter

theorem Counter.send_of_not_fits (h : store.Counter collection id field held)
    (hcall : call.Counts collection id field) (hid : (Path.ofString field).head ≠ "_id")
    (hfits : Word.fits64 (call.result held) = false) :
    (call.send store).1 = .error (.invalidDocument (.overflow call.arithmetic.name))
      ∧
    ∀ name, (call.send store).2.documents name = store.documents name := by
  rcases h with ⟨document, hpicks, hint⟩
  rcases hcall with ⟨rfl, hselector, rfl, n, hoperand⟩
  have hfail := Calculation.patch?_of_not_fits hpicks.holds hint hoperand hid hfits
  have hupdate := updateDocuments_of_picks_error hpicks hfail
  rw [Calculation.send_eq_updateMany, hselector, updateMany_of_get? (get?_of_picks hpicks), hupdate]
  exact ⟨rfl, documents_put_self store _⟩

theorem Counter.send_of_passes (h : store.Counter collection id field held) (hcall : call.Passes field) :
    (call.send store).2.Counter collection id field held := by
  rcases h with ⟨document, hpicks, hint⟩
  have hrel := forall₂_updateMany store call.selector.compile call.update call.collection.name collection
  rw [Calculation.send_eq_updateMany]
  have hsame : ∀ before after, Document.UpdatedBy call.update before after →
      Predicate.holds after [("_id", id)] = Predicate.holds before [("_id", id)] := by
    intro before after hupdated
    exact Predicate.holds_id_congr id (Calculation.get?_of_updatedBy hcall.id hupdated hcall.id)
  rcases hpicks.of_forall₂ hrel hsame with ⟨picked, hafter, hupdated⟩
  cases hupdated with
  | some hupdated =>
    refine ⟨_, hafter, ?_⟩
    have hget := Calculation.get?_of_updatedBy hcall.field hupdated hcall.id
    rw [Document.HasInt, Document.lookup?_congr hget]
    exact hint

def after (store : Store) (calls : List Calculation) : Store :=
  calls.foldl (fun store call => (call.send store).2) store

def successes (field : String) (store : Store) : List Calculation → List Calculation
  | [] => []
  | call :: rest =>
    let later := successes field (call.send store).2 rest
    if call.field = field ∧ (call.send store).1.isOk then call :: later else later

def total (held : Option Int) (calls : List Calculation) : Option Int :=
  calls.foldl (fun held call => some (call.result held)) held

theorem Counter.after {calls : List Calculation} (h : store.Counter collection id field held)
    (hid : (Path.ofString field).head ≠ "_id")
    (hcalls : ∀ call ∈ calls, call.Counts collection id field ∨ call.Passes field) :
    (store.after calls).Counter collection id field (total held (successes field store calls)) := by
  induction calls generalizing store held with
  | nil => exact h
  | cons call rest ih =>
    rw [List.forall_mem_cons] at hcalls
    rw [Store.after, List.foldl_cons, ← Store.after, successes]
    cases hcalls.1 with
    | inl hcounts =>
      cases hfits : Word.fits64 (call.result held) with
      | true =>
        rcases h.send_of_fits hcounts hid hfits with ⟨⟨count, hok⟩, hafter⟩
        rw [if_pos ⟨hcounts.field, by rw [hok]; rfl⟩]
        exact ih hafter hcalls.2
      | false =>
        rcases h.send_of_not_fits hcounts hid hfits with ⟨hfail, hkept⟩
        rw [if_neg (by rw [hfail]; exact fun h => nomatch h.2)]
        apply ih _ hcalls.2
        unfold Counter
        rw [hkept]
        exact h
    | inr hpasses =>
      rw [if_neg (fun h => hpasses.ne h.1)]
      exact ih (h.send_of_passes hpasses) hcalls.2

/--
A call on what is held fails exactly where the exact result does not fit in 64 bits, and then all documents
are as before.
-/
structure AnswersExactly (store : Store) (call : Calculation) (held : Option Int) : Prop where
  fails_iff : (∃ failure, (call.send store).1 = .error failure) ↔ Word.fits64 (call.result held) = false
  kept {failure : Failure} (hfail : (call.send store).1 = .error failure) :
    ∀ name, (call.send store).2.documents name = store.documents name

theorem Counter.answersExactly (h : store.Counter collection id field held)
    (hcall : call.Counts collection id field) (hid : (Path.ofString field).head ≠ "_id") :
    store.AnswersExactly call held := by
  cases hfits : Word.fits64 (call.result held) with
  | true =>
    rcases h.send_of_fits hcall hid hfits with ⟨⟨count, hok⟩, _⟩
    constructor
    · rw [hok, hfits]
      simp
    · intro failure hfail
      rw [hok] at hfail
      cases hfail
  | false =>
    rcases h.send_of_not_fits hcall hid hfits with ⟨hfail, hkept⟩
    constructor
    · rw [hfail, hfits]
      simp
    · intro _ _
      exact hkept

theorem calculations_counted {document : Document} {calls : List Calculation}
    (hpicks : Predicate.Picks [("_id", id)] (store.documents collection) (some document))
    (hint : document.HasInt (.ofString field) held) (hid : (Path.ofString field).head ≠ "_id")
    (hcalls : ∀ call ∈ calls, call.Counts collection id field ∨ call.Passes field) :
    (∀ earlier call later, calls = earlier ++ call :: later → call.field = field →
      (store.after earlier).AnswersExactly call (total held (successes field store earlier)))
      ∧
    ∃ final, Predicate.Picks [("_id", id)] ((store.after calls).documents collection) (some final)
      ∧ final.HasInt (.ofString field) (total held (successes field store calls)) := by
  have hcounter : store.Counter collection id field held := ⟨document, hpicks, hint⟩
  constructor
  · rintro earlier call later rfl hfield
    rw [List.forall_mem_append, List.forall_mem_cons] at hcalls
    have hbefore := hcounter.after hid hcalls.1
    apply hbefore.answersExactly _ hid
    cases hcalls.2.1 with
    | inl hcounts => exact hcounts
    | inr hpasses => exact absurd hfield hpasses.ne
  · exact hcounter.after hid hcalls

end

theorem calculations_counted_hits :
    let document : Document := [("_id", .int32 1), ("stats", .document [("hits", .int64 4611686018427387904)])]
    let store : Store := ⟨[("c", [[("_id", .int32 7)], document])], firstId⟩
    let double : Calculation := ⟨{ name := "c" }, .byId (.int32 1), .mul, "stats.hits", .int32 2⟩
    let other : Calculation := ⟨{ name := "c" }, .all, .add, "n", .int32 1⟩
    let add : Calculation :=
      ⟨{ name := "c" }, .byId (.int32 1), .add, "stats.hits", .int64 4611686018427387903⟩
    Predicate.Picks [("_id", .int32 1)] (store.documents "c") (some document)
      ∧
    document.HasInt (.ofString "stats.hits") (some 4611686018427387904)
      ∧
    (∀ call ∈ [double, other, add], call.Counts "c" (.int32 1) "stats.hits" ∨ call.Passes "stats.hits")
      ∧
    (∃ failure, (double.send store).1 = .error failure)
      ∧
    ∃ final,
      Predicate.Picks [("_id", .int32 1)] ((store.after [double, other, add]).documents "c") (some final)
        ∧ final.HasInt (.ofString "stats.hits") (some 9223372036854775807) := by
  intro document store double other add
  have hpicks : Predicate.Picks [("_id", .int32 1)] (store.documents "c") (some document) :=
    .unmet rfl (.met rfl .nil)
  have hint : document.HasInt (.ofString "stats.hits") (some 4611686018427387904) := rfl
  have hcalls : ∀ call ∈ [double, other, add],
      call.Counts "c" (.int32 1) "stats.hits" ∨ call.Passes "stats.hits" := by
    rw [List.forall_mem_cons, List.forall_mem_cons, List.forall_mem_singleton]
    refine ⟨Or.inl ⟨rfl, rfl, rfl, _, rfl⟩, Or.inr ⟨?_, ?_⟩, Or.inl ⟨rfl, rfl, rfl, _, rfl⟩⟩
    · decide
    · decide
  have hcounted := calculations_counted hpicks hint (by decide) hcalls
  have htotal : total (some 4611686018427387904) (successes "stats.hits" store [double, other, add])
      = some 9223372036854775807 := by decide +kernel
  rw [htotal] at hcounted
  have hfails := (hcounted.1 [] double [other, add] rfl rfl).fails_iff.mpr rfl
  exact ⟨hpicks, hint, hcalls, hfails, hcounted.2⟩

end Store
end DocQuery
