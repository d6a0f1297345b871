import DocQuery.Join
import DocQuery.Proofs.Predicate.Evaluation
import DocQuery.Proofs.Update.Exact
import DocQuery.Store
import Mathlib

/-!
This module contains what a join attaches to a row: the documents whose field, read along its path, is equal
to one of the row's values. A query for these values sees more of a document, since it also goes on in the
documents of arrays on its way. Both pick the same documents exactly where this makes no difference.
-/

namespace DocQuery

theorem Document.resolve?_of_lookup? {document : Document} {path : Path} {value : Value}
    (h : document.lookup? path = some value) : document.resolve? path = some value := by
  rcases path with ⟨head, tail⟩
  cases tail with
  | nil => exact h
  | cons next rest =>
    unfold resolve?
    dsimp only
    rw [resolveAt?, h]

theorem filter_eq_filter_iff {α : Type} {items : List α} {p q : α → Bool} :
    items.filter p = items.filter q ↔ ∀ item ∈ items, p item = q item := by
  constructor
  · intro h item hitem
    have hmem : item ∈ items.filter p ↔ item ∈ items.filter q := by rw [h]
    rw [List.mem_filter, List.mem_filter] at hmem
    rw [Bool.eq_iff_iff]
    simpa [hitem] using hmem
  · exact List.filter_congr

namespace Join

structure IsReadFrom (join : Join) (spec : Document) : Prop where
  source : Fields.get? spec "from" = some (.string join.source)
  localField : Fields.get? spec "localField" = some (.string join.localField)
  foreignField : Fields.get? spec "foreignField" = some (.string join.foreignField)
  target : Fields.get? spec "as" = some (.string join.target)

variable (join : Join)

def values (row : Document) : List Value := Stage.joinValues row (.ofString join.localField)

def wants (row : Document) (value? : Option Value) : Bool :=
  (join.values row).any (meetsLiteral value? ·)

def partners (documents : List Document) (row : Document) : List Document :=
  documents.filter fun candidate => join.wants row (candidate.lookup? (.ofString join.foreignField))

def predicate (row : Document) : Document :=
  [(join.foreignField, .document [("$in", .array (join.values row))])]

variable {join}

theorem lookup_of_isReadFrom {spec : Document} (h : join.IsReadFrom spec) (collections : Collections)
    (rows : List Document) :
    Stage.lookup collections spec rows
      =
    .ok (rows.map fun row =>
      row.set (.ofString join.target)
        (.array ((join.partners (collections.documents join.source) row).map .document))) := by
  have hread : ∀ {name field : String}, Fields.get? spec name = some (.string field) →
      Stage.readJoinField spec name = .ok field := by
    intro name field hfield
    unfold Stage.readJoinField
    rw [hfield]
  unfold Stage.lookup
  rw [hread h.source, hread h.localField, hread h.foreignField, hread h.target]
  rfl

theorem holds_predicate [Pattern.Engine] (candidate row : Document)
    (hfield : Predicate.isConnective join.foreignField = false) :
    Predicate.holds candidate (join.predicate row)
      =
    .ok (join.wants row (candidate.resolve? (.ofString join.foreignField))) :=
  Predicate.holds_operator candidate (.array (join.values row)) hfield rfl (by decide)

theorem find_predicate [Pattern.Engine] (store : Store) (row : Document)
    (hfield : Predicate.isConnective join.foreignField = false) :
    store.find (join.predicate row) {} join.source
      =
    .ok ((store.documents join.source).filter fun candidate =>
      join.wants row (candidate.resolve? (.ofString join.foreignField))) := by
  unfold Store.find
  rw [Predicate.select_eq_filter fun candidate _ => holds_predicate candidate row hfield]
  rfl

/--
A document whose field is found in the documents of an array only is joined as if it had no such field. Does
this make no difference to what a row looks for?
-/
def SeenAlike (join : Join) (row candidate : Document) : Prop :=
  ∀ value, candidate.lookup? (.ofString join.foreignField) = none →
    candidate.resolve? (.ofString join.foreignField) = some value →
      ((∃ wanted ∈ join.values row, wanted.isDefined = false)
        ↔ ∃ wanted ∈ join.values row, value.meets wanted = true)

theorem wants_none_iff (row : Document) :
    join.wants row none = true ↔ ∃ wanted ∈ join.values row, wanted.isDefined = false := by
  unfold wants
  simp only [List.any_eq_true, Predicate.meetsLiteral_none, Bool.not_eq_true']

theorem wants_some_iff (row : Document) (value : Value) :
    join.wants row (some value) = true ↔ ∃ wanted ∈ join.values row, value.meets wanted = true := by
  unfold wants
  rw [List.any_eq_true]
  rfl

theorem seenAlike_iff (row candidate : Document) :
    join.SeenAlike row candidate
      ↔
    join.wants row (candidate.lookup? (.ofString join.foreignField))
      = join.wants row (candidate.resolve? (.ofString join.foreignField)) := by
  unfold SeenAlike
  cases hlookup : candidate.lookup? (.ofString join.foreignField) with
  | some value => simp [Document.resolve?_of_lookup? hlookup]
  | none =>
    cases candidate.resolve? (.ofString join.foreignField) with
    | none => simp
    | some value =>
      rw [Bool.eq_iff_iff, wants_none_iff, wants_some_iff]
      simp

theorem lookup_eq_find_iff [Pattern.Engine] {store : Store} {spec row : Document}
    (hspec : join.IsReadFrom spec) (hfield : Predicate.isConnective join.foreignField = false) :
    ∃ joined : Document,
      Stage.run store.collections [row] [("$lookup", .document spec)] = .ok [joined]
        ∧
      ((∃ found, store.find (join.predicate row) {} join.source = .ok found
            ∧ joined.lookup? (.ofString join.target) = some (.array (found.map .document)))
        ↔
      ∀ candidate ∈ store.documents join.source, join.SeenAlike row candidate) := by
  refine ⟨_, lookup_of_isReadFrom hspec store.collections [row], ?_⟩
  have hpartners : ∀ found : List Document,
      ((join.partners (store.documents join.source) row).map Value.document = found.map .document
        ↔ join.partners (store.documents join.source) row = found) :=
    fun found => List.map_inj_right fun _ _ => Value.document.inj
  rw [find_predicate store row hfield, Document.lookup?_set]
  simp only [Except.ok.injEq, exists_eq_left', Option.some.injEq, Value.array.injEq]
  refine (hpartners _).trans ?_
  unfold partners
  rw [filter_eq_filter_iff]
  simp only [seenAlike_iff]

theorem lookup_eq_find_iff_array :
    let candidate (id : Int32) (author : Value) : Document := [("_id", .int32 id), ("author", author)]
    let store : Store :=
      ⟨[("d", [
        candidate 1 (.document [("id", .array [.int32 7, .int32 8])]),
        candidate 2 (.array [.document [("id", .int32 9)]]),
        candidate 3 (.document [("id", .double 5)]),
        candidate 4 .null])],
        Store.firstId⟩
    let row : Document := [("_id", .int32 1), ("key", .array [.int64 5, .int32 8])]
    let join : Join := { source := "d", localField := "key", foreignField := "author.id", target := "x.y" }
    let spec : Document :=
      [("as", .string "x.y"), ("from", .string "d"), ("foreignField", .string "author.id"),
        ("localField", .string "key"), ("let", .null)]
    join.IsReadFrom spec
      ∧
    Predicate.isConnective join.foreignField = false
      ∧
    ∃ joined : Document,
      Stage.run store.collections [row] [("$lookup", .document spec)] = .ok [joined]
        ∧
      ∃ found, store.find (join.predicate row) {} join.source = .ok found
        ∧ joined.lookup? (.ofString join.target) = some (.array (found.map .document)) := by
  intro candidate store row join spec
  have hspec : join.IsReadFrom spec := ⟨rfl, rfl, rfl, rfl⟩
  have hfield : Predicate.isConnective join.foreignField = false := by rfl
  have halike : ∀ candidate ∈ store.documents join.source, join.SeenAlike row candidate := by
    intro candidate hcandidate
    rw [seenAlike_iff]
    revert candidate
    decide +kernel
  rcases lookup_eq_find_iff hspec hfield with ⟨joined, hrun, hiff⟩
  exact ⟨hspec, hfield, joined, hrun, hiff.mpr halike⟩

theorem attaches_nothing_through_array :
    let author : Document := [("_id", .string "a"), ("names", .array [.document [("id", .string "ada")]])]
    let store : Store := ⟨[("d", [author])], Store.firstId⟩
    let row : Document := [("_id", .string "p"), ("key", .string "ada")]
    let join : Join := { source := "d", localField := "key", foreignField := "names.id", target := "x" }
    Stage.run store.collections [row] join.stage = .ok [row ++ [("x", .array [])]]
      ∧
    store.find (join.predicate row) {} join.source = .ok [author] := by
  intro author store row join
  exact ⟨by cbv, by cbv⟩

end Join
end DocQuery
