import DocQuery.Proofs.Outcome
import DocQuery.Proofs.Path.Writing
import DocQuery.Update

/-!
This module contains the frame of a write: which of the values at other paths survive it, and so which survive
the operators that write at one path. A path that leads through documents only is written without any loss, and
an array on the way is lost with all that the path does not lead to.
-/

namespace DocQuery

def Path.child (path : Path) (segment : String) : Path := ⟨path.head, path.tail ++ [segment]⟩

namespace Document

def SpellsAlike (document : Document) (path other : Path) : Prop :=
  ∃ (shared : Path) (items : List Value) (segment spelling : String) (index : Nat),
    document.lookup? shared = some (.array items)
      ∧ (shared.child segment).LeadsTo path
      ∧ (shared.child spelling).LeadsTo other
      ∧ segment ≠ spelling
      ∧ Text.readIndex? segment = some index
      ∧ Text.readIndex? spelling = some index

/--
A value is written at a path, and the paths that neither lead there nor on from there are read as before. Other
spellings of the indexes in the path are not among these.
-/
structure WritesOnly (document : Document) (path : Path) (value : Value) (written : Document) : Prop where
  lookup?_eq : written.lookup? path = some value
  frame : ∀ other : Path, path.Apart other → ¬document.SpellsAlike path other →
    written.lookup? other = document.lookup? other

def LosesNothing (document : Document) (path : Path) : Prop :=
  ∀ other : Path, path.Apart other → ¬document.SpellsAlike path other →
    document.SharesArray path other → document.lookup? other = none

theorem writesOnly_set_iff (document : Document) (path : Path) (value : Value) :
    document.WritesOnly path value (document.set path value) ↔ document.LosesNothing path := by
  constructor
  · intro h other hapart hspelling hshared
    rw [← h.frame other hapart hspelling]
    exact lookup?_set_of_sharesArray value hapart hshared
  · intro h
    constructor
    · exact document.lookup?_set path value
    · intro other hapart hspelling
      by_cases hshared : document.SharesArray path other
      · rw [lookup?_set_of_sharesArray value hapart hshared, h other hapart hspelling hshared]
      · exact lookup?_set_of_apart value hapart hshared

def Writes (op : String) (held : Option Value) (operand value : Value) : Prop :=
  (op = "$set" ∧ value = operand)
    ∨
  ∃ arithmetic : Arithmetic, op = arithmetic.name ∧ arithmetic.apply (held.getD (.int32 0)) operand = .ok value

theorem exists_set_of_updateField {op field : String} {document updated : Document} {operand : Value}
    (hop : op ≠ "$unset") (hok : updateField op document field operand = .ok updated) :
    ∃ value, Writes op (document.lookup? (.ofString field)) operand value
      ∧ updated = document.set (.ofString field) value := by
  have hcalculate : ∀ arithmetic : Arithmetic, op = arithmetic.name →
      document.calculate arithmetic (.ofString field) operand = .ok updated →
        ∃ value, Writes op (document.lookup? (.ofString field)) operand value
          ∧ updated = document.set (.ofString field) value := by
    intro arithmetic hname hcalculated
    rcases Outcome.bind_eq_ok_iff.mp hcalculated with ⟨value, happly, hset⟩
    cases hset
    exact ⟨value, .inr ⟨arithmetic, hname, happly⟩, rfl⟩
  unfold updateField at hok
  split at hok
  · cases hok
  · split at hok
    · cases hok
      exact ⟨operand, .inl ⟨rfl, rfl⟩, rfl⟩
    · exact absurd rfl hop
    · exact hcalculate .add rfl hok
    · exact hcalculate .mul rfl hok
    · cases hok

theorem exists_set_of_update {op field : String} {document updated : Document} {operand : Value}
    (hop : op ≠ "$unset") (hok : document.update [(op, .document [(field, operand)])] = .ok updated) :
    ∃ value, Writes op (document.lookup? (.ofString field)) operand value
      ∧ updated = document.set (.ofString field) value := by
  rcases Outcome.bind_eq_ok_iff.mp hok with ⟨last, hfields, hlast⟩
  cases hlast
  rcases Outcome.bind_eq_ok_iff.mp hfields with ⟨next, hfield, hnext⟩
  cases hnext
  exact exists_set_of_updateField hop hfield

theorem losesNothing_of_documents {document : Document} {path : Path}
    (h : ∀ shared : Path, shared.LeadsTo path → shared ≠ path →
      ∀ items, document.lookup? shared ≠ some (.array items)) : document.LosesNothing path := by
  rintro other hapart _ ⟨shared, items, hpath, hother, hlookup⟩
  have hne : shared ≠ path := by
    rintro rfl
    exact hapart.1 hother
  exact absurd hlookup (h shared hpath hne items)

theorem write_frame_iff (document : Document) (path : Path) :
    (∀ value, (document.set path value).lookup? path = some value
      ∧ (document.WritesOnly path value (document.set path value) ↔ document.LosesNothing path))
      ∧
    (∀ op field operand updated, op ≠ "$unset" → Path.ofString field = path →
      document.update [(op, .document [(field, operand)])] = .ok updated →
        ∃ value, Writes op (document.lookup? path) operand value
          ∧ updated.lookup? path = some value
          ∧ (document.WritesOnly path value updated ↔ document.LosesNothing path))
      ∧
    ((∀ shared : Path, shared.LeadsTo path → shared ≠ path →
      ∀ items, document.lookup? shared ≠ some (.array items)) → document.LosesNothing path) := by
  have hset : ∀ value, (document.set path value).lookup? path = some value
      ∧ (document.WritesOnly path value (document.set path value) ↔ document.LosesNothing path) :=
    fun value => ⟨document.lookup?_set path value, document.writesOnly_set_iff path value⟩
  refine ⟨hset, ?_, losesNothing_of_documents⟩
  intro op field operand updated hop hpath hok
  subst hpath
  -- every other operator is a write of some value
  obtain ⟨value, hwrites, rfl⟩ := exists_set_of_update hop hok
  exact ⟨value, hwrites, hset value⟩

theorem write_frame_iff_nested :
    let document (views : Int32) : Document :=
      [("_id", .int32 1), ("stats", .document [("views", .int32 views), ("days", .array [.int32 4, .int32 5])]),
        ("tags", .array [.string "a"])]
    let path : Path := .ofString "stats.views"
    (document 1).lookup? path = some (.int32 1)
      ∧
    (document 1).LosesNothing path
      ∧
    (document 1).update [("$inc", .document [("stats.views", .int32 2)])] = .ok (document 3)
      ∧
    (document 1).WritesOnly path (.int32 3) (document 3) := by
  intro document path
  have hpath : path = .below "stats" ⟨"views", []⟩ := by decide
  have hlookup : (document 1).lookup? path = some (.int32 1) := by rfl
  have hok : (document 1).update [("$inc", .document [("stats.views", .int32 2)])] = .ok (document 3) := by rfl
  have hframe := write_frame_iff (document 1) path
  have hloses : (document 1).LosesNothing path := by
    apply hframe.2.2
    intro shared hshared hne items
    rw [hpath] at hshared hne
    by_cases htail : shared.tail = []
    · rw [lookup?, htail, hshared.head_eq]
      intro harray
      cases harray
    · obtain ⟨rest, rfl, hrest⟩ := hshared.exists_below htail
      have hback : Path.LeadsTo ⟨"views", []⟩ rest := Path.leadsTo_of_tail_eq_nil hrest.head_eq.symm rfl
      exact absurd (congrArg (Path.below "stats") (hrest.antisymm hback)) hne
  refine ⟨hlookup, hloses, hok, ?_⟩
  obtain ⟨value, -, hback, hiff⟩ :=
    hframe.2.1 "$inc" "stats.views" (.int32 2) (document 3) (by decide) rfl hok
  have hvalue : some value = some (.int32 3) := hback.symm.trans (by rfl)
  cases hvalue
  exact hiff.mpr hloses

theorem not_writesOnly_of_array_element :
    let document : Document := [("_id", .int32 1), ("scores", .array [.int32 1, .int32 2])]
    let written : Document := [("_id", .int32 1), ("scores", .document [("0", .int32 2)])]
    document.lookup? (.ofString "scores.0") = some (.int32 1)
      ∧
    document.update [("$inc", .document [("scores.0", .int32 1)])] = .ok written
      ∧
    ∀ value, ¬document.WritesOnly (.ofString "scores.0") value written := by
  intro document written
  have hpath : Path.ofString "scores.0" = ⟨"scores", ["0"]⟩ := by decide
  refine ⟨rfl, rfl, ?_⟩
  intro value hwrites
  have hspelling : ¬document.SpellsAlike ⟨"scores", ["0"]⟩ ⟨"scores", ["1"]⟩ := by
    rintro ⟨⟨head, tail⟩, items, segment, spelling, index, -, hfirst, hsecond, -, hsegment, hother⟩
    cases tail with
    | nil =>
      have hzero : segment = "0" := (List.cons_prefix_cons.mp (List.cons_prefix_cons.mp hfirst).2).1
      have hone : spelling = "1" := (List.cons_prefix_cons.mp (List.cons_prefix_cons.mp hsecond).2).1
      rw [hzero, ← hother, hone] at hsegment
      revert hsegment
      decide
    | cons =>
      have hlength := hfirst.length_le
      simp [Path.child, Path.segments] at hlength
  have hframe := hwrites.frame ⟨"scores", ["1"]⟩ (by rw [hpath]; decide) (by rw [hpath]; exact hspelling)
  cases hframe

end Document
end DocQuery
