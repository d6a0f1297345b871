import DocQuery.Predicate
import DocQuery.Proofs.Outcome

/-!
This module contains the equations by which predicates are evaluated: clauses and the members of
connectives are looked at one after the other, and a failure counts where it is reached.
-/

namespace DocQuery

theorem any_congr_of_mem {α : Type} {items : List α} {p q : α → Bool} (h : ∀ item ∈ items, p item = q item) :
    items.any p = items.any q := by
  induction items with
  | nil => rfl
  | cons item rest ih =>
    rw [List.forall_mem_cons] at h
    rw [List.any_cons, List.any_cons, h.1, ih h.2]

namespace Predicate

open Outcome

variable [Pattern.Engine]

theorem holds_cons (document : Document) (name : String) (condition : Value)
    (rest : List (String × Value)) :
    holds document ((name, condition) :: rest)
      =
    both (clauseHolds document name condition) (holds document rest) := rfl

theorem holds_singleton (document : Document) (name : String) (condition : Value) :
    holds document [(name, condition)] = clauseHolds document name condition := by
  rw [holds_cons, holds, both_true_right]

theorem holds_append (document : Document) (first second : List (String × Value)) :
    holds document (first ++ second) = both (holds document first) (holds document second) := by
  induction first with
  | nil => rfl
  | cons clause rest ih => rw [List.cons_append, holds_cons, holds_cons, ih, both_assoc]

omit [Pattern.Engine] in
theorem checkClauses_documents (op : String) (clauses : List Document) :
    checkClauses op (clauses.map .document) = .ok () := by
  induction clauses with
  | nil => rfl
  | cons clause rest ih => exact ih

theorem holds_and (document : Document) (clauses : List Document) :
    holds document [("$and", .array (clauses.map .document))]
      =
    allHold document (clauses.map .document) := by
  rw [holds_singleton]
  unfold clauseHolds
  rw [checkClauses_documents]
  rfl

theorem holds_or (document : Document) (clauses : List Document) :
    holds document [("$or", .array (clauses.map .document))]
      =
    anyHolds document (clauses.map .document) := by
  rw [holds_singleton]
  unfold clauseHolds
  rw [checkClauses_documents]
  rfl

theorem allHold_cons (document clause : Document) (rest : List Value) :
    allHold document (.document clause :: rest)
      =
    both (holds document clause) (allHold document rest) := rfl

theorem anyHolds_cons (document clause : Document) (rest : List Value) :
    anyHolds document (.document clause :: rest)
      =
    either (holds document clause) (anyHolds document rest) := rfl

theorem holds_and_singleton (document clause : Document) :
    holds document [("$and", .array [.document clause])] = holds document clause := by
  have h := holds_and document [clause]
  rw [List.map_singleton, allHold_cons, allHold, both_true_right] at h
  exact h

theorem passesAll_eq_true_iff (value? : Option Value) (ops : Document) (clauses : List (String × Value)) :
    passesAll value? ops clauses = .ok true
      ↔
    ∀ clause ∈ clauses, clause.1 ≠ "$options" → passes value? ops clause.1 clause.2 = .ok true := by
  induction clauses with
  | nil => simp [passesAll]
  | cons clause rest ih =>
    rw [passesAll, List.forall_mem_cons, ← ih]
    split
    · next hoptions => simp [hoptions]
    · next hoptions =>
      rw [← both, both_eq_true_iff]
      simp [hoptions]

theorem passes_congr (value? : Option Value) {ops other : Document} (op : String) (operand : Value)
    (h : op = "$regex" → patternOptions ops = patternOptions other) :
    passes value? ops op operand = passes value? other op operand := by
  unfold passes
  split
  case h_10 => rw [h rfl]
  all_goals rfl

omit [Pattern.Engine] in
theorem isConnective_iff {name : String} :
    isConnective name = true ↔ name = "$and" ∨ name = "$or" ∨ name = "$nor" := by
  simp [isConnective, or_assoc]

theorem clauseHolds_of_not_connective (document : Document) {name : String} (condition : Value)
    (h : isConnective name = false) :
    clauseHolds document name condition = meetsCondition (document.resolve? (.ofString name)) condition := by
  unfold clauseHolds
  split
  · split
    · cases h
    · cases h
    · cases h
    · rfl
  · rw [h]
    rfl

theorem holds_operators (document : Document) (field : String) (ops : Document)
    (h : Document.isOperators ops = true) :
    holds document [(field, .document ops)] = .ok true
      ↔
    isConnective field = false ∧
      passesAll (document.resolve? (.ofString field)) ops ops = .ok true := by
  rw [holds_singleton]
  unfold clauseHolds
  cases isConnective field with
  | true => simp
  | false => simp [meetsCondition, h]

theorem holds_operator (document : Document) {field op : String} (operand : Value)
    (hfield : isConnective field = false) (hop : isMarked op = true) (hne : op ≠ "$options") :
    holds document [(field, .document [(op, operand)])]
      =
    passes (document.resolve? (.ofString field)) [(op, operand)] op operand := by
  have hops : Document.isOperators [(op, operand)] = true := hop
  rw [holds_singleton, clauseHolds_of_not_connective document _ hfield, meetsCondition, if_pos hops, passesAll,
    if_neg hne]
  cases passes (document.resolve? (.ofString field)) [(op, operand)] op operand with
  | error => rfl
  | ok passed => cases passed <;> rfl

omit [Pattern.Engine] in
theorem meetsLiteral_none (literal : Value) : meetsLiteral none literal = !literal.isDefined := by
  cases literal <;> rfl

def isLiteral : Value → Bool
  | .regex _ _ => false
  | .document ops => !Document.isOperators ops
  | _ => true

theorem meetsCondition_of_isLiteral (value? : Option Value) {literal : Value}
    (h : isLiteral literal = true) : meetsCondition value? literal = .ok (meetsLiteral value? literal) := by
  unfold meetsCondition
  split
  · rw [isLiteral, Bool.not_eq_true'] at h
    rw [h]
    rfl
  · cases h
  · rfl

theorem holds_literal (document : Document) {field : String} {literal : Value}
    (hfield : isConnective field = false) (h : isLiteral literal = true) :
    holds document [(field, literal)]
      =
    .ok (meetsLiteral (document.resolve? (.ofString field)) literal) := by
  rw [holds_singleton, clauseHolds_of_not_connective document literal hfield]
  exact meetsCondition_of_isLiteral _ h

theorem select_eq_filter {predicate : Document} {documents : List Document} {met : Document → Bool}
    (h : ∀ document ∈ documents, holds document predicate = .ok (met document)) :
    select predicate documents = .ok (documents.filter met) := by
  induction documents with
  | nil => rfl
  | cons document rest ih =>
    rw [List.forall_mem_cons] at h
    rw [select, h.1, ih h.2, List.filter_cons]
    cases met document with
    | true => rfl
    | false => rfl

theorem select_map {predicate : Document} {documents : List Document} {f : Document → Document}
    (h : ∀ document ∈ documents, holds (f document) predicate = holds document predicate) :
    select predicate (documents.map f) = List.map f <$> select predicate documents := by
  induction documents with
  | nil => rfl
  | cons document rest ih =>
    rw [List.forall_mem_cons] at h
    rw [List.map_cons, select, select, h.1, ih h.2]
    cases holds document predicate with
    | error => rfl
    | ok met => cases met <;> cases select predicate rest <;> rfl

theorem sublist_of_select {predicate : Document} {documents selected : List Document}
    (hok : select predicate documents = .ok selected) : selected.Sublist documents := by
  induction documents generalizing selected with
  | nil =>
    cases hok
    exact .slnil
  | cons document rest ih =>
    rcases bind_eq_ok_iff.mp hok with ⟨met, _, hok⟩
    cases met with
    | false => exact (ih hok).cons document
    | true =>
      rcases bind_eq_ok_iff.mp hok with ⟨others, hrest, hpure⟩
      cases hpure
      exact (ih hrest).cons_cons document

end Predicate
end DocQuery
