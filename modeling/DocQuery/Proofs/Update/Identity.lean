import DocQuery.Proofs.Outcome
import DocQuery.Proofs.Path.Segments
import DocQuery.Update

/-!
This module contains what updates leave alone: a write below one name is not seen under any other, and
the id of a document survives every update that does not lead into it.
-/

namespace DocQuery
namespace Path

def entersId (path : Path) : Bool := path.head == "_id" && !path.tail.isEmpty

theorem head_ofString_ne {field : String} (hname : field ≠ "_id")
    (hspare : (ofString field).entersId = false) : (ofString field).head ≠ "_id" := by
  intro hhead
  -- a path that does not lead on is the name itself
  have htail : (ofString field).tail = [] := by
    simpa [entersId, hhead] using hspare
  apply hname
  rw [← head_ofString htail, hhead]

end Path

namespace Document

def id? (document : Document) : Option Value := Fields.get? document "_id"

theorem get?_set_of_ne (document : Document) {path : Path} {name : String} (value : Value)
    (h : path.head ≠ name) : Fields.get? (document.set path value) name = Fields.get? document name := by
  unfold set setAt
  split
  · apply Fields.get?_insert_of_ne
    exact h
  · apply Fields.get?_insert_of_ne
    exact h

theorem get?_unset_of_ne (document : Document) {path : Path} {name : String} (h : path.head ≠ name) :
    Fields.get? (document.unset path) name = Fields.get? document name := by
  unfold unset unsetAt
  split
  · apply Fields.get?_erase_of_ne
    exact h
  · split
    · apply Fields.get?_insert_of_ne
      exact h
    · rfl

theorem get?_calculate_of_ne {document updated : Document} {arithmetic : Arithmetic} {path : Path}
    {operand : Value} {name : String} (h : path.head ≠ name)
    (hok : document.calculate arithmetic path operand = .ok updated) :
    Fields.get? updated name = Fields.get? document name := by
  rcases Outcome.bind_eq_ok_iff.mp hok with ⟨result, _, hset⟩
  cases hset
  apply get?_set_of_ne
  exact h

theorem get?_updateField_of_ne {op field name : String} {document updated : Document} {operand : Value}
    (h : (Path.ofString field).head ≠ name)
    (hok : updateField op document field operand = .ok updated) :
    Fields.get? updated name = Fields.get? document name := by
  unfold updateField at hok
  split at hok
  · cases hok
  · split at hok
    · cases hok
      exact get?_set_of_ne document operand h
    · cases hok
      exact get?_unset_of_ne document h
    · exact get?_calculate_of_ne h hok
    · exact get?_calculate_of_ne h hok
    · cases hok

theorem id?_updateField {op field : String} {document updated : Document} {operand : Value}
    (h : (Path.ofString field).entersId = false)
    (hok : updateField op document field operand = .ok updated) : updated.id? = document.id? := by
  have hname : field ≠ "_id" := by
    intro hname
    unfold updateField at hok
    rw [if_pos hname] at hok
    cases hok
  exact get?_updateField_of_ne (Path.head_ofString_ne hname h) hok

theorem id?_updateFields {op : String} {document updated : Document} {fields : List (String × Value)}
    (h : ∀ field ∈ Fields.names fields, (Path.ofString field).entersId = false)
    (hok : updateFields op document fields = .ok updated) : updated.id? = document.id? := by
  induction fields generalizing document with
  | nil =>
    cases hok
    rfl
  | cons entry rest ih =>
    rcases entry with ⟨field, operand⟩
    rw [Fields.names, List.map_cons, List.forall_mem_cons] at h
    rcases Outcome.bind_eq_ok_iff.mp hok with ⟨next, hstep, hrest⟩
    rw [ih h.2 hrest, id?_updateField h.1 hstep]

def sparesId (update : Document) : Prop :=
  ∀ op fields, (op, Value.document fields) ∈ update →
    ∀ field ∈ Fields.names fields, (Path.ofString field).entersId = false

theorem id?_update {document updated : Document} {ops : List (String × Value)} (h : sparesId ops)
    (hok : document.update ops = .ok updated) : updated.id? = document.id? := by
  induction ops generalizing document with
  | nil =>
    cases hok
    rfl
  | cons entry rest ih =>
    have hrest : sparesId rest := fun op fields hmem => h op fields (List.mem_cons_of_mem _ hmem)
    unfold update at hok
    split at hok
    · next hnil => cases hnil
    · next op fields _ hentry =>
      cases hentry
      rcases Outcome.bind_eq_ok_iff.mp hok with ⟨next, hstep, hnext⟩
      have hfields := h op fields List.mem_cons_self
      rw [ih hrest hnext, id?_updateFields hfields hstep]
    · cases hok

end Document
end DocQuery
