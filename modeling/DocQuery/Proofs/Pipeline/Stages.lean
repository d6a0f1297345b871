import DocQuery.Join
import DocQuery.Pipeline.Run
import DocQuery.Proofs.Outcome

/-!
This module contains what each stage does to the rows it is given, and the running of one part of a
pipeline after another.
-/

namespace DocQuery
namespace Word

def signedLimit : Nat := 9223372036854775807

theorem toInt_toSigned (n : UInt64) : (toSigned n).toInt = (min n.toNat signedLimit : Nat) := by
  unfold toSigned clampInt signedLimit
  rw [Int64.toInt_ofInt_of_le]
  · omega
  · omega
  · omega

end Word

namespace Stage

variable [Pattern.Engine] (collections : Collections) (rows : List Document)

theorem run_filter (predicate : Document) :
    run collections rows (filter predicate) = Predicate.select predicate rows := rfl

theorem run_project (projection : Document) :
    run collections rows (project projection) = .ok (rows.map (·.project projection)) := rfl

theorem run_sort (order : Document) :
    run collections rows (sort order) = .ok (sortDocuments order rows) := rfl

theorem run_count (field : String) :
    run collections rows (count field) = countRows (.string field) rows := rfl

omit [Pattern.Engine] in
theorem readUnwind_fieldRef (field : String) :
    readUnwind (.string (fieldRef field)) = .ok (.ofString field, false) := by
  have hmarked : (fieldRef field).toList = '$' :: field.toList := by simp [fieldRef]
  unfold readUnwind
  simp only [bind, Except.bind, hmarked, String.ofList_toList]
  rfl

theorem run_unwind (field : String) :
    run collections rows (unwind field) = .ok (rows.flatMap (unwindRows (.ofString field) false)) := by
  unfold unwind run
  simp only [readUnwind_fieldRef]
  rfl

omit [Pattern.Engine] in
theorem readCount_toSigned (stage : String) (n : UInt64) :
    readCount stage (.int64 (Word.toSigned n)) = .ok (min n.toNat Word.signedLimit) := by
  unfold readCount
  simp only [Word.toInt_toSigned]
  rw [if_neg]
  · rw [Int.toNat_natCast]
  · omega

theorem run_skip (n : UInt64) :
    run collections rows (skip n) = .ok (rows.drop (min n.toNat Word.signedLimit)) := by
  have hrun : run collections rows (skip n)
      = return rows.drop (← readCount "$skip" (.int64 (Word.toSigned n))) := rfl
  rw [hrun, readCount_toSigned]
  rfl

theorem run_limit (n : UInt64) :
    run collections rows (limit n) = .ok (rows.take (min n.toNat Word.signedLimit)) := by
  have hrun : run collections rows (limit n)
      = return rows.take (← readCount "$limit" (.int64 (Word.toSigned n))) := rfl
  rw [hrun, readCount_toSigned]
  rfl

end Stage

namespace Pipeline

variable [Pattern.Engine] (collections : Collections)

theorem run_cons (stage : Document) (rest : Pipeline) (rows : List Document) :
    run collections (stage :: rest) rows
      =
    Stage.run collections rows stage >>= run collections rest := rfl

theorem run_singleton (stage : Document) (rows : List Document) :
    run collections [stage] rows = Stage.run collections rows stage := by
  rw [run_cons]
  cases Stage.run collections rows stage with
  | error => rfl
  | ok => rfl

theorem run_append (first second : Pipeline) (rows : List Document) :
    run collections (first ++ second) rows = run collections first rows >>= run collections second := by
  induction first generalizing rows with
  | nil => rfl
  | cons stage rest ih =>
    rw [List.cons_append, run_cons, run_cons]
    cases Stage.run collections rows stage with
    | error => rfl
    | ok rows => exact ih rows

theorem run_sort? (sort : Option Document) (rows : List Document) :
    run collections (sort.map Stage.sort).toList rows = .ok (sort.elim rows (sortDocuments · rows)) := by
  cases sort with
  | none => rfl
  | some sort => apply run_singleton

theorem run_project? (projection : Option Document) (rows : List Document) :
    run collections (projection.map Stage.project).toList rows
      =
    .ok (projection.elim rows fun projection => rows.map (·.project projection)) := by
  cases projection with
  | none => rfl
  | some projection => apply run_singleton

end Pipeline
end DocQuery
