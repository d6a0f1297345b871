import DocQuery.Value
import DocQuery.Double.Parts
import DocQuery.Word

/-!
This module contains the construction of pipelines, which are lists of stage documents.
-/

namespace DocQuery

abbrev Pipeline : Type := List Document

def fieldRef (field : String) : String := "$" ++ field

namespace Stage

def filter (predicate : Document) : Document := [("$match", .document predicate)]

def unwind (field : String) : Document := [("$unwind", .string (fieldRef field))]

def project (projection : Document) : Document := [("$project", .document projection)]

def sort (order : Document) : Document := [("$sort", .document order)]

def skip (count : UInt64) : Document := [("$skip", .int64 (Word.toSigned count))]

def limit (count : UInt64) : Document := [("$limit", .int64 (Word.toSigned count))]

def count (field : String) : Document := [("$count", .string field)]

def group (spec : Document) : Document := [("$group", .document spec)]

def sample (size : UInt64) : Document :=
  [("$sample", .document [("size", .int64 (Word.toSigned size))])]

end Stage

def readCount (document : Document) (field : String) : UInt64 :=
  match Fields.get? document field with
  | some (.int32 n) => UInt64.ofNat n.toInt.toNat
  | some (.int64 n) => UInt64.ofNat n.toInt.toNat
  | some (.double x) => if 0 < x then x.toUInt64 else 0
  | _ => 0

end DocQuery
