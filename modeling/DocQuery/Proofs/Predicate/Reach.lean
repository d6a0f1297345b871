import DocQuery.Proofs.Path.Writing
import DocQuery.Proofs.Predicate.Evaluation
import DocQuery.Sorting

/-!
This module contains how far a predicate reaches into a document: it only sees the fields in which the
paths of its clauses start, however deep below connectives these clauses are. The same holds of the keys of
a sort document.
-/

namespace DocQuery
namespace Document

theorem resolve?_congr {document other : Document} {path : Path}
    (h : Fields.get? document path.head = Fields.get? other path.head) :
    document.resolve? path = other.resolve? path := by
  have hlookup : ∀ tail, document.lookup? ⟨path.head, tail⟩ = other.lookup? ⟨path.head, tail⟩ := by
    intro tail
    exact lookup?_congr h
  unfold resolve? resolveAt?
  split
  · rw [hlookup]
  · rw [hlookup, h]

theorem sortValue_congr {document other : Document} {field : String}
    (h : Fields.get? document (Path.ofString field).head = Fields.get? other (Path.ofString field).head) :
    document.sortValue field = other.sortValue field := by
  unfold sortValue
  rw [lookup?_congr h]

end Document

namespace Predicate

mutual

def paths : List (String × Value) → List Path
  | [] => []
  | (name, condition) :: rest => clausePaths name condition ++ paths rest

def clausePaths (name : String) : Value → List Path
  | .array clauses => if isConnective name then memberPaths clauses else [.ofString name]
  | _ => if isConnective name then [] else [.ofString name]

def memberPaths : List Value → List Path
  | [] => []
  | .document clause :: rest => paths clause ++ memberPaths rest
  | _ :: rest => memberPaths rest

end

def SameAt (document other : Document) (paths : List Path) : Prop :=
  ∀ path ∈ paths, Fields.get? document path.head = Fields.get? other path.head

theorem sameAt_append {document other : Document} {first second : List Path} :
    SameAt document other (first ++ second)
      ↔
    SameAt document other first ∧ SameAt document other second :=
  List.forall_mem_append

theorem clausePaths_of_not_connective {name : String} (condition : Value)
    (h : isConnective name = false) : clausePaths name condition = [.ofString name] := by
  unfold clausePaths
  split <;> simp [h]

variable [Pattern.Engine]

mutual

theorem holds_congr {document other : Document} : ∀ predicate : List (String × Value),
    SameAt document other (paths predicate) → holds document predicate = holds other predicate
  | [], _ => rfl
  | (name, condition) :: rest, h => by
    rw [paths, sameAt_append] at h
    rw [holds_cons, holds_cons, clauseHolds_congr name condition h.1, holds_congr rest h.2]

theorem clauseHolds_congr {document other : Document} (name : String) : ∀ condition : Value,
    SameAt document other (clausePaths name condition) →
      clauseHolds document name condition = clauseHolds other name condition
  | condition, h => by
    cases hname : isConnective name with
    | false =>
      rw [clausePaths_of_not_connective condition hname] at h
      rw [clauseHolds_of_not_connective _ _ hname, clauseHolds_of_not_connective _ _ hname]
      rw [Document.resolve?_congr (h _ List.mem_cons_self)]
    | true =>
      cases condition with
      | array clauses =>
        rw [clausePaths, if_pos hname] at h
        unfold clauseHolds
        rw [allHold_congr clauses h, anyHolds_congr clauses h]
        rcases isConnective_iff.mp hname with rfl | rfl | rfl
        · rfl
        · rfl
        · rfl
      | _ => simp only [clauseHolds, hname, if_true]

theorem allHold_congr {document other : Document} : ∀ clauses : List Value,
    SameAt document other (memberPaths clauses) → allHold document clauses = allHold other clauses
  | [], _ => rfl
  | clause :: rest, h => by
    cases clause with
    | document clause =>
      rw [memberPaths, sameAt_append] at h
      rw [allHold_cons, allHold_cons, holds_congr clause h.1, allHold_congr rest h.2]
    | _ => exact allHold_congr rest h

theorem anyHolds_congr {document other : Document} : ∀ clauses : List Value,
    SameAt document other (memberPaths clauses) → anyHolds document clauses = anyHolds other clauses
  | [], _ => rfl
  | clause :: rest, h => by
    cases clause with
    | document clause =>
      rw [memberPaths, sameAt_append] at h
      rw [anyHolds_cons, anyHolds_cons, holds_congr clause h.1, anyHolds_congr rest h.2]
    | _ => exact anyHolds_congr rest h

end

end Predicate
end DocQuery
