import DocQuery.Proofs.Path.Writing

/-!
This module contains several writes one after the other. Whatever their paths are, to make all of them once more
changes nothing, neither the values nor the order of the names.
-/

namespace DocQuery
namespace Value

def inner : Value → Document
  | .document fields => fields
  | _ => []

def write (held : Value) (path : Path) (value : Value) : Value :=
  match path.tail with
  | [] => value
  | next :: rest => .document (held.inner.set ⟨next, rest⟩ value)

def writeAll (held : Value) (writes : List (Path × Value)) : Value :=
  writes.foldl (fun held write => held.write write.1 write.2) held

theorem write_below (held : Value) (name : String) (path : Path) (value : Value) :
    held.write (path.below name) value = .document (held.inner.set path value) := rfl

theorem write_of_tail_eq_nil (held : Value) {path : Path} (value : Value) (h : path.tail = []) :
    held.write path value = value := by
  simp [write, h]

theorem writeAll_cons (held : Value) (write : Path × Value) (rest : List (Path × Value)) :
    held.writeAll (write :: rest) = (held.write write.1 write.2).writeAll rest := rfl

theorem writeAll_eq_of_tail_eq_nil (held other : Value) {writes : List (Path × Value)}
    (h : ∃ write ∈ writes, write.1.tail = []) : held.writeAll writes = other.writeAll writes := by
  induction writes generalizing held other with
  | nil => simp at h
  | cons write rest ih =>
    simp only [writeAll_cons]
    by_cases htail : write.1.tail = []
    · simp only [write_of_tail_eq_nil _ _ htail]
    · apply ih
      simpa [htail] using h

end Value

namespace Document

def setAll (document : Document) (writes : List (Path × Value)) : Document :=
  writes.foldl (fun document write => document.set write.1 write.2) document

theorem setAll_cons (document : Document) (write : Path × Value) (rest : List (Path × Value)) :
    document.setAll (write :: rest) = (document.set write.1 write.2).setAll rest := rfl

theorem set_nil (path : Path) (value : Value) :
    set [] path value = [(path.head, Value.write .null path value)] := by
  unfold set setAt Value.write
  cases path.tail with
  | nil => rfl
  | cons next rest => rfl

theorem set_cons (name : String) (held : Value) (rest : Document) (path : Path) (value : Value) :
    set ((name, held) :: rest) path value
      =
    if name = path.head then
      (name, held.write path value) :: rest
    else
      (name, held) :: set rest path value := by
  unfold set setAt Value.write
  cases path.tail with
  | nil => simp [Fields.insert]
  | cons next below =>
    by_cases hname : name = path.head
    · cases held with
      | _ => simp [hname, Fields.insert, Fields.get?_cons, set, Value.inner]
    · simp [hname, Fields.insert, Fields.get?_cons]

def startingAt (name : String) (writes : List (Path × Value)) : List (Path × Value) :=
  writes.filter (·.1.head = name)

def startingElsewhere (name : String) (writes : List (Path × Value)) : List (Path × Value) :=
  writes.filter (·.1.head ≠ name)

theorem setAll_field_cons (name : String) (held : Value) (rest : Document) (writes : List (Path × Value)) :
    setAll ((name, held) :: rest) writes
      =
    (name, held.writeAll (startingAt name writes)) :: setAll rest (startingElsewhere name writes) := by
  induction writes generalizing held rest with
  | nil => rfl
  | cons write writes ih =>
    rw [setAll_cons, set_cons]
    by_cases hname : name = write.1.head
    · rw [if_pos hname, ih]
      simp [startingAt, startingElsewhere, hname, Value.writeAll_cons]
    · rw [if_neg hname, ih]
      simp [startingAt, startingElsewhere, Ne.symm hname, setAll_cons]

theorem setAll_nil_cons (write : Path × Value) (rest : List (Path × Value)) :
    setAll [] (write :: rest) = setAll [(write.1.head, .null)] (write :: rest) := by
  simp [setAll_cons, set_nil, set_cons]

theorem startingAt_startingElsewhere {name other : String} (h : name ≠ other) (writes : List (Path × Value)) :
    startingAt other (startingElsewhere name writes) = startingAt other writes := by
  unfold startingAt startingElsewhere
  rw [List.filter_filter]
  apply List.filter_congr
  intro write _
  by_cases hother : write.1.head = other
  · simp [hother, Ne.symm h]
  · simp [hother]

theorem startingAt_startingElsewhere_self (name : String) (writes : List (Path × Value)) :
    startingAt name (startingElsewhere name writes) = [] := by
  simp [startingAt, startingElsewhere]

theorem startingElsewhere_cons_self (write : Path × Value) (rest : List (Path × Value)) :
    startingElsewhere write.1.head (write :: rest) = startingElsewhere write.1.head rest := by
  simp [startingElsewhere]

theorem length_startingElsewhere_le (name : String) (writes : List (Path × Value)) :
    (startingElsewhere name writes).length ≤ writes.length := by
  apply List.length_filter_le

def SettlesField (writes : List (Path × Value)) : Prop :=
  ∀ held : Value, (held.writeAll writes).writeAll writes = held.writeAll writes

theorem settlesField_startingElsewhere {name other : String} {writes : List (Path × Value)}
    (h : SettlesField (startingAt other writes)) :
    SettlesField (startingAt other (startingElsewhere name writes)) := by
  by_cases hname : name = other
  · rw [hname, startingAt_startingElsewhere_self]
    intro held
    rfl
  · rw [startingAt_startingElsewhere hname]
    exact h

theorem setAll_setAll_of_settlesField (document : Document) (writes : List (Path × Value))
    (h : ∀ name, SettlesField (startingAt name writes)) :
    (document.setAll writes).setAll writes = document.setAll writes := by
  match document, writes with
  | [], [] => rfl
  | [], write :: rest =>
    rw [setAll_nil_cons, setAll_field_cons, setAll_field_cons, h]
    rw [setAll_setAll_of_settlesField [] (startingElsewhere write.1.head (write :: rest))]
    intro name
    apply settlesField_startingElsewhere
    apply h
  | (name, held) :: fields, writes =>
    rw [setAll_field_cons, setAll_field_cons, h]
    rw [setAll_setAll_of_settlesField fields (startingElsewhere name writes)]
    intro other
    apply settlesField_startingElsewhere
    apply h
termination_by document.length + writes.length
decreasing_by
  · have hlength := length_startingElsewhere_le write.1.head rest
    simp [startingElsewhere_cons_self] at hlength ⊢
    omega
  · have hlength := length_startingElsewhere_le name writes
    simp at hlength ⊢
    omega

theorem exists_below {name : String} {writes : List (Path × Value)}
    (h : ∀ write ∈ writes, write.1.head = name ∧ write.1.tail ≠ []) :
    ∃ inner : List (Path × Value), writes = inner.map fun write => (write.1.below name, write.2) := by
  induction writes with
  | nil => exact ⟨[], rfl⟩
  | cons write rest ih =>
    rw [List.forall_mem_cons] at h
    obtain ⟨inner, rfl⟩ := ih h.2
    obtain ⟨path, hpath⟩ := Path.eq_below h.1.2
    rw [h.1.1] at hpath
    refine ⟨(path, write.2) :: inner, ?_⟩
    simp [← hpath]

theorem writeAll_below (held : Value) (name : String) (write : Path × Value) (rest : List (Path × Value)) :
    held.writeAll ((write :: rest).map fun write => (write.1.below name, write.2))
      =
    .document (held.inner.setAll (write :: rest)) := by
  rw [List.map_cons, Value.writeAll_cons, Value.write_below]
  induction rest generalizing held write with
  | nil => rfl
  | cons next rest ih =>
    rw [List.map_cons, Value.writeAll_cons, Value.write_below, setAll_cons]
    apply ih

theorem settlesField_of_inner {name : String} {writes : List (Path × Value)}
    (hname : ∀ write ∈ writes, write.1.head = name)
    (h : ∀ inner : List (Path × Value), writes = inner.map (fun write => (write.1.below name, write.2)) →
      ∀ document : Document, (document.setAll inner).setAll inner = document.setAll inner) :
    SettlesField writes := by
  intro held
  by_cases hwhole : ∃ write ∈ writes, write.1.tail = []
  · apply Value.writeAll_eq_of_tail_eq_nil
    exact hwhole
  · have hbelow : ∀ write ∈ writes, write.1.head = name ∧ write.1.tail ≠ [] :=
      fun write hmem => ⟨hname write hmem, fun htail => hwhole ⟨write, hmem, htail⟩⟩
    obtain ⟨inner, hinner⟩ := exists_below hbelow
    have hsettled := h inner hinner
    subst hinner
    cases inner with
    | nil => rfl
    | cons write rest =>
      rw [writeAll_below, writeAll_below, Value.inner, hsettled]

theorem exists_bound (writes : List (Path × Value)) :
    ∃ bound, ∀ write ∈ writes, write.1.tail.length < bound := by
  induction writes with
  | nil => simp
  | cons write rest ih =>
    obtain ⟨bound, hbound⟩ := ih
    refine ⟨max bound (write.1.tail.length + 1), ?_⟩
    rw [List.forall_mem_cons]
    refine ⟨by omega, fun other hmem => ?_⟩
    have hlength := hbound other hmem
    omega

theorem setAll_setAll_of_bound (bound : Nat) {writes : List (Path × Value)}
    (h : ∀ write ∈ writes, write.1.tail.length < bound) (document : Document) :
    (document.setAll writes).setAll writes = document.setAll writes := by
  induction bound generalizing writes document with
  | zero =>
    cases writes with
    | nil => rfl
    | cons write rest => exact absurd (h write List.mem_cons_self) (Nat.not_lt_zero _)
  | succ bound ih =>
    apply setAll_setAll_of_settlesField
    intro name
    apply settlesField_of_inner
    · intro write hmem
      simpa using (List.mem_filter.mp hmem).2
    · intro inner hinner
      -- what is written below a name has shorter paths
      apply ih
      intro write hmem
      have hlonger : (write.1.below name, write.2) ∈ startingAt name writes := by
        rw [hinner]
        exact List.mem_map_of_mem hmem
      have hlength := h _ (List.mem_filter.mp hlonger).1
      simp only [Path.below, Path.segments, List.length_cons] at hlength
      omega

theorem setAll_setAll (document : Document) (writes : List (Path × Value)) :
    (document.setAll writes).setAll writes = document.setAll writes := by
  obtain ⟨bound, hbound⟩ := exists_bound writes
  apply setAll_setAll_of_bound bound
  exact hbound

end Document
end DocQuery
