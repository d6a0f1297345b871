import DocQuery.Proofs.Update.Identity

/-!
This module contains what an update does to one field: just what the operators whose paths start at that
field do to a document that has no other one.
-/

namespace DocQuery
namespace Fields

variable {α : Type}

def restrict (fields : Fields α) (name : String) : Fields α :=
  match get? fields name with
  | some value => [(name, value)]
  | none => []

theorem restrict_congr {fields other : Fields α} {name : String}
    (h : get? fields name = get? other name) : restrict fields name = restrict other name := by
  unfold restrict
  rw [h]

theorem get?_restrict (fields : Fields α) (name : String) :
    get? (restrict fields name) name = get? fields name := by
  unfold restrict
  split
  · next hget => simp [get?_cons, hget]
  · next hget => simp [hget]

theorem restrict_eq_singleton_iff {fields : Fields α} {name : String} {value : α} :
    restrict fields name = [(name, value)] ↔ get? fields name = some value := by
  unfold restrict
  split
  · next hget => simp [hget]
  · next hget => simp [hget]

theorem restrict_insert (fields : Fields α) (name : String) (value : α) :
    restrict (insert fields name value) name = insert (restrict fields name) name value := by
  rw [restrict_eq_singleton_iff.mpr (get?_insert_self fields name value)]
  unfold restrict
  split
  · simp [insert]
  · rfl

theorem restrict_erase (fields : Fields α) (name : String) :
    restrict (erase fields name) name = erase (restrict fields name) name := by
  have herased : restrict (erase fields name) name = [] := by simp [restrict]
  rw [herased, restrict]
  split
  · simp [erase]
  · rfl

end Fields

namespace Document

theorem restrict_set (document : Document) (path : Path) (value : Value) :
    Fields.restrict (document.set path value) path.head
      =
    set (Fields.restrict document path.head) path value := by
  unfold set setAt
  split
  · apply Fields.restrict_insert
  · dsimp only
    rw [Fields.restrict_insert, Fields.get?_restrict]

theorem restrict_unset (document : Document) (path : Path) :
    Fields.restrict (document.unset path) path.head
      =
    unset (Fields.restrict document path.head) path := by
  unfold unset unsetAt
  split
  · apply Fields.restrict_erase
  · rw [Fields.get?_restrict]
    split
    · apply Fields.restrict_insert
    · rfl

theorem restrict_calculate {document updated : Document} {arithmetic : Arithmetic} {path : Path}
    {operand : Value} (hok : document.calculate arithmetic path operand = .ok updated) :
    calculate (Fields.restrict document path.head) arithmetic path operand
      =
    .ok (Fields.restrict updated path.head) := by
  have hlookup : lookup? (Fields.restrict document path.head) path = document.lookup? path := by
    unfold lookup?
    rw [Fields.get?_restrict]
  rcases Outcome.bind_eq_ok_iff.mp hok with ⟨result, happly, hset⟩
  cases hset
  unfold calculate
  dsimp only
  rw [hlookup, happly, restrict_set]
  rfl

theorem restrict_updateField {op field : String} {document updated : Document} {operand : Value}
    (hok : updateField op document field operand = .ok updated) :
    updateField op (Fields.restrict document (Path.ofString field).head) field operand
      =
    .ok (Fields.restrict updated (Path.ofString field).head) := by
  unfold updateField at hok ⊢
  split at hok
  · cases hok
  · next hid =>
    rw [if_neg hid]
    split at hok
    · cases hok
      rw [restrict_set]
    · cases hok
      rw [restrict_unset]
    · exact restrict_calculate hok
    · exact restrict_calculate hok
    · cases hok

def startsAt (name field : String) : Bool := (Path.ofString field).head == name

def aimedAt (name : String) : List (String × Value) → List (String × Value)
  | [] => []
  | (op, .document fields) :: rest =>
    (op, .document (fields.filter fun field => startsAt name field.1)) :: aimedAt name rest
  | entry :: rest => entry :: aimedAt name rest

theorem restrict_updateFields {op name : String} {document updated : Document}
    {fields : List (String × Value)} (hok : updateFields op document fields = .ok updated) :
    updateFields op (Fields.restrict document name) (fields.filter fun field => startsAt name field.1)
      =
    .ok (Fields.restrict updated name) := by
  induction fields generalizing document with
  | nil =>
    cases hok
    rfl
  | cons entry rest ih =>
    rcases entry with ⟨field, operand⟩
    rcases Outcome.bind_eq_ok_iff.mp hok with ⟨next, hstep, hrest⟩
    rw [List.filter_cons]
    by_cases hname : (Path.ofString field).head = name
    · -- the path is kept and only looks at the field of the name
      subst hname
      rw [if_pos (by simp [startsAt]), updateFields, restrict_updateField hstep]
      exact ih hrest
    · -- the path is dropped and leaves the field of the name alone
      rw [if_neg (by simp [startsAt, hname])]
      rw [← Fields.restrict_congr (get?_updateField_of_ne hname hstep)]
      exact ih hrest

theorem restrict_update {name : String} {document updated : Document} {ops : List (String × Value)}
    (hok : document.update ops = .ok updated) :
    update (Fields.restrict document name) (aimedAt name ops) = .ok (Fields.restrict updated name) := by
  induction ops generalizing document with
  | nil =>
    cases hok
    rfl
  | cons entry rest ih =>
    unfold update at hok
    split at hok
    · next hnil => cases hnil
    · next hentry =>
      cases hentry
      rcases Outcome.bind_eq_ok_iff.mp hok with ⟨next, hstep, hnext⟩
      rw [aimedAt, update, restrict_updateFields hstep]
      exact ih hnext
    · cases hok

end Document
end DocQuery
