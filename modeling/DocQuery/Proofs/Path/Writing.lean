import DocQuery.Path

/-!
This module contains what is read after a write at a path: the value at the path itself, documents on the way to
it, and what was there before at the paths that part from it, unless they part inside an array.
-/

namespace DocQuery
namespace Path

def segments (path : Path) : List String := path.head :: path.tail

def LeadsTo (path other : Path) : Prop := path.segments <+: other.segments

instance (path other : Path) : Decidable (path.LeadsTo other) :=
  inferInstanceAs (Decidable (path.segments <+: other.segments))

def Apart (path other : Path) : Prop := ¬path.LeadsTo other ∧ ¬other.LeadsTo path

instance (path other : Path) : Decidable (path.Apart other) :=
  inferInstanceAs (Decidable (¬path.LeadsTo other ∧ ¬other.LeadsTo path))

theorem not_apart_iff {path other : Path} : ¬path.Apart other ↔ path.LeadsTo other ∨ other.LeadsTo path := by
  unfold Apart
  rw [Decidable.not_and_iff_not_or_not, Decidable.not_not, Decidable.not_not]

theorem leadsTo_refl (path : Path) : path.LeadsTo path := List.prefix_refl path.segments

theorem LeadsTo.trans {path other last : Path} (h : path.LeadsTo other) (hother : other.LeadsTo last) :
    path.LeadsTo last :=
  List.IsPrefix.trans h hother

theorem LeadsTo.antisymm {path other : Path} (h : path.LeadsTo other) (hother : other.LeadsTo path) :
    path = other := by
  have hsegments : path.segments = other.segments := h.eq_of_length_le hother.length_le
  cases path with
  | mk head tail =>
    cases other with
    | mk otherHead otherTail =>
      obtain ⟨rfl, rfl⟩ := List.cons.inj hsegments
      rfl

theorem LeadsTo.head_eq {path other : Path} (h : path.LeadsTo other) : path.head = other.head :=
  (List.cons_prefix_cons.mp h).1

theorem leadsTo_of_tail_eq_nil {path other : Path} (hhead : path.head = other.head) (htail : path.tail = []) :
    path.LeadsTo other := by
  rw [LeadsTo, segments, segments, htail, hhead]
  exact List.cons_prefix_cons.mpr ⟨rfl, List.nil_prefix⟩

theorem LeadsTo.tail_ne_nil {path other : Path} (h : path.LeadsTo other) (hne : path ≠ other) : other.tail ≠ [] := by
  intro htail
  apply hne
  apply h.antisymm
  exact leadsTo_of_tail_eq_nil h.head_eq.symm htail

def below (name : String) (path : Path) : Path := ⟨name, path.segments⟩

theorem below_leadsTo_below {name : String} {path other : Path} :
    (below name path).LeadsTo (below name other) ↔ path.LeadsTo other := by
  unfold LeadsTo below
  exact List.prefix_cons_inj name

theorem below_apart_below {name : String} {path other : Path} :
    (below name path).Apart (below name other) ↔ path.Apart other := by
  unfold Apart
  rw [below_leadsTo_below, below_leadsTo_below]

theorem eq_below {path : Path} (h : path.tail ≠ []) : ∃ rest, path = below path.head rest := by
  cases path with
  | mk head tail =>
    cases tail with
    | nil => exact absurd rfl h
    | cons next rest => exact ⟨⟨next, rest⟩, rfl⟩

@[elab_as_elim]
theorem induction_below {motive : Path → Prop} (field : ∀ name, motive ⟨name, []⟩)
    (below : ∀ name path, motive path → motive (below name path)) (path : Path) : motive path := by
  cases path with
  | mk head tail =>
    induction tail generalizing head with
    | nil => exact field head
    | cons next rest ih => exact below head ⟨next, rest⟩ (ih next)

theorem LeadsTo.exists_below {name : String} {path other : Path} (h : other.LeadsTo (below name path))
    (htail : other.tail ≠ []) : ∃ rest, other = below name rest ∧ rest.LeadsTo path := by
  obtain ⟨rest, hrest⟩ := eq_below htail
  have hhead : other.head = name := h.head_eq
  rw [hhead] at hrest
  subst hrest
  exact ⟨rest, rfl, below_leadsTo_below.mp h⟩

theorem Apart.exists_below {name : String} {path other : Path} (h : (below name path).Apart other)
    (hhead : name = other.head) : ∃ rest, other = below name rest ∧ path.Apart rest := by
  have htail : other.tail ≠ [] := fun htail => h.2 (leadsTo_of_tail_eq_nil hhead.symm htail)
  obtain ⟨rest, hrest⟩ := eq_below htail
  rw [← hhead] at hrest
  subst hrest
  exact ⟨rest, rfl, below_apart_below.mp h⟩

end Path

namespace Document

theorem lookup?_congr {document other : Document} {path : Path}
    (h : Fields.get? document path.head = Fields.get? other path.head) :
    document.lookup? path = other.lookup? path := by
  unfold lookup?
  rw [h]

theorem lookup?_below_of_document {document inner : Document} {name : String}
    (h : Fields.get? document name = some (.document inner)) (path : Path) :
    document.lookup? (path.below name) = inner.lookup? path := by
  unfold lookup? Path.below
  dsimp only
  rw [h]
  rfl

def under (document : Document) (name : String) : Document :=
  match Fields.get? document name with
  | some (.document inner) => inner
  | _ => []

theorem lookup?_under {document : Document} {name : String}
    (h : ∀ items, Fields.get? document name ≠ some (.array items)) (path : Path) :
    (document.under name).lookup? path = document.lookup? (path.below name) := by
  cases hget : Fields.get? document name with
  | none =>
    unfold under lookup? Path.below
    dsimp only
    rw [hget]
    rfl
  | some value =>
    cases value with
    | document inner =>
      rw [lookup?_below_of_document hget, under, hget]
    | array items => exact absurd hget (h items)
    | _ =>
      unfold under lookup? Path.below
      dsimp only
      rw [hget]
      rfl

theorem under_of_array {document : Document} {name : String} {items : List Value}
    (h : Fields.get? document name = some (.array items)) : document.under name = [] := by
  rw [under, h]

variable (document : Document)

theorem set_below (name : String) (path : Path) (value : Value) :
    document.set (path.below name) value
      =
    Fields.insert document name (.document ((document.under name).set path value)) := rfl

theorem lookup?_set_below (name : String) (path other : Path) (value : Value) :
    (document.set (path.below name) value).lookup? (other.below name)
      =
    ((document.under name).set path value).lookup? other := by
  rw [set_below]
  exact lookup?_below_of_document (Fields.get?_insert_self _ _ _) other

theorem lookup?_set (path : Path) (value : Value) :
    (document.set path value).lookup? path = some value := by
  induction path using Path.induction_below generalizing document with
  | field name =>
    rw [set, setAt, lookup?, Fields.get?_insert_self]
    rfl
  | below name path ih => rw [lookup?_set_below, ih]

theorem lookup?_set_of_leadsTo {path other : Path} (value : Value) (h : other.LeadsTo path) (hne : other ≠ path) :
    ∃ inner, (document.set path value).lookup? other = some (.document inner) := by
  induction path using Path.induction_below generalizing document other with
  | field name =>
    have hback : Path.LeadsTo ⟨name, []⟩ other := Path.leadsTo_of_tail_eq_nil h.head_eq.symm rfl
    exact absurd (h.antisymm hback) hne
  | below name path ih =>
    by_cases htail : other.tail = []
    · refine ⟨(document.under name).set path value, ?_⟩
      rw [lookup?, htail, h.head_eq, set_below, Path.below, Fields.get?_insert_self]
      rfl
    · obtain ⟨rest, rfl, hrest⟩ := h.exists_below htail
      rw [lookup?_set_below]
      apply ih
      · exact hrest
      · exact fun heq => hne (congrArg (Path.below name) heq)

theorem lookup?_set_of_leadsTo_other {path other : Path} {value : Value}
    (hvalue : ∀ segment, value.child? segment = none) (h : path.LeadsTo other) (hne : path ≠ other) :
    (document.set path value).lookup? other = none := by
  induction path using Path.induction_below generalizing document other with
  | field name =>
    obtain ⟨segment, rest, htail⟩ := List.exists_cons_of_ne_nil (h.tail_ne_nil hne)
    rw [lookup?, set, setAt, ← h.head_eq, Fields.get?_insert_self, htail, Option.bind_some, Value.descend?, hvalue]
    rfl
  | below name path ih =>
    obtain ⟨rest, hrest⟩ := Path.eq_below (h.tail_ne_nil hne)
    have hhead : other.head = name := h.head_eq.symm
    rw [hhead] at hrest
    subst hrest
    rw [lookup?_set_below]
    apply ih
    · exact Path.below_leadsTo_below.mp h
    · exact fun heq => hne (congrArg (Path.below name) heq)

/--
Do two paths share a way to an array?
-/
def SharesArray (document : Document) (path other : Path) : Prop :=
  ∃ (shared : Path) (items : List Value), shared.LeadsTo path ∧ shared.LeadsTo other
    ∧ document.lookup? shared = some (.array items)

variable {document}

theorem not_sharesArray_nil (path other : Path) : ¬SharesArray [] path other := by
  rintro ⟨shared, items, _, _, hlookup⟩
  cases hlookup

theorem sharesArray_below_of_array {name : String} {items : List Value} (path other : Path)
    (h : Fields.get? document name = some (.array items)) :
    document.SharesArray (path.below name) (other.below name) := by
  refine ⟨⟨name, []⟩, items, ?_, ?_, ?_⟩
  · exact Path.leadsTo_of_tail_eq_nil rfl rfl
  · exact Path.leadsTo_of_tail_eq_nil rfl rfl
  · rw [lookup?, h]
    rfl

theorem sharesArray_below_iff {name : String} (path other : Path)
    (h : ∀ items, Fields.get? document name ≠ some (.array items)) :
    document.SharesArray (path.below name) (other.below name) ↔ (document.under name).SharesArray path other := by
  constructor
  · rintro ⟨shared, items, hpath, hother, hlookup⟩
    have htail : shared.tail ≠ [] := by
      intro htail
      rw [lookup?, htail, hpath.head_eq] at hlookup
      rcases Option.bind_eq_some_iff.mp hlookup with ⟨value, hget, hvalue⟩
      cases hvalue
      exact h items hget
    obtain ⟨rest, rfl, hrest⟩ := hpath.exists_below htail
    refine ⟨rest, items, hrest, ?_, ?_⟩
    · exact Path.below_leadsTo_below.mp hother
    · rw [lookup?_under h]
      exact hlookup
  · rintro ⟨shared, items, hpath, hother, hlookup⟩
    refine ⟨shared.below name, items, ?_, ?_, ?_⟩
    · exact Path.below_leadsTo_below.mpr hpath
    · exact Path.below_leadsTo_below.mpr hother
    · rw [← lookup?_under h]
      exact hlookup

theorem lookup?_set_of_apart {path other : Path} (value : Value) (h : path.Apart other)
    (hshared : ¬document.SharesArray path other) :
    (document.set path value).lookup? other = document.lookup? other := by
  induction path using Path.induction_below generalizing document other with
  | field name =>
    apply lookup?_congr
    apply Fields.get?_insert_of_ne
    exact fun hhead => h.1 (Path.leadsTo_of_tail_eq_nil hhead rfl)
  | below name path ih =>
    by_cases hhead : name = other.head
    -- both lead on from the same name, where there is no array, so the write goes on in what is there
    · obtain ⟨rest, rfl, hrest⟩ := h.exists_below hhead
      have harray : ∀ items, Fields.get? document name ≠ some (.array items) :=
        fun items hget => hshared (sharesArray_below_of_array path rest hget)
      rw [sharesArray_below_iff path rest harray] at hshared
      rw [lookup?_set_below, ih hrest hshared, lookup?_under harray]
    · apply lookup?_congr
      exact Fields.get?_insert_of_ne _ _ hhead

theorem lookup?_set_of_sharesArray {path other : Path} (value : Value) (h : path.Apart other)
    (hshared : document.SharesArray path other) : (document.set path value).lookup? other = none := by
  have hhead : path.head = other.head := by
    obtain ⟨shared, _, hpath, hother, _⟩ := hshared
    rw [← hpath.head_eq, hother.head_eq]
  induction path using Path.induction_below generalizing document other with
  | field name => exact absurd (Path.leadsTo_of_tail_eq_nil hhead rfl) h.1
  | below name path ih =>
    obtain ⟨rest, rfl, hrest⟩ := h.exists_below hhead
    rw [lookup?_set_below]
    by_cases harray : ∃ items, Fields.get? document name = some (.array items)
    -- the write goes on in an empty document
    · obtain ⟨items, hget⟩ := harray
      rw [under_of_array hget, lookup?_set_of_apart value hrest (not_sharesArray_nil path rest)]
      rfl
    · rw [not_exists] at harray
      rw [sharesArray_below_iff path rest harray] at hshared
      have hnext : path.head = rest.head := by
        obtain ⟨shared, _, hpath, hother, _⟩ := hshared
        rw [← hpath.head_eq, hother.head_eq]
      exact ih hrest hshared hnext

end Document
end DocQuery
