/-!
This module contains insertion-ordered fields: named values in which a name keeps the place at which
it was first written.
-/

namespace DocQuery

abbrev Fields (α : Type) : Type := List (String × α)

namespace Fields

variable {α β : Type}

def get? : Fields α → String → Option α
  | [], _ => none
  | (name, value) :: rest, key => if name = key then some value else get? rest key

/--
Write a value under a name: a known name keeps its place, a new one comes last.
-/
def insert : Fields α → String → α → Fields α
  | [], key, value => [(key, value)]
  | (name, old) :: rest, key, value =>
    if name = key then
      (name, value) :: rest
    else
      (name, old) :: insert rest key value

def erase (fields : Fields α) (key : String) : Fields α :=
  fields.filter fun field => field.1 ≠ key

def contains (fields : Fields α) (key : String) : Bool :=
  (get? fields key).isSome

def names (fields : Fields α) : List String :=
  fields.map Prod.fst

def merge (fields : Fields α) (entries : List (String × α)) : Fields α :=
  entries.foldl (fun acc entry => insert acc entry.1 entry.2) fields

def ofList (entries : List (String × α)) : Fields α :=
  merge [] entries

@[simp]
theorem get?_nil (key : String) : get? ([] : Fields α) key = none := rfl

theorem get?_cons (name : String) (value : α) (rest : Fields α) (key : String) :
    get? ((name, value) :: rest) key = if name = key then some value else get? rest key := rfl

@[simp]
theorem get?_insert_self (fields : Fields α) (key : String) (value : α) :
    get? (insert fields key value) key = some value := by
  induction fields with
  | nil => simp [insert, get?]
  | cons field rest ih =>
    simp only [insert]
    split <;> simp_all [get?]

theorem get?_insert_of_ne (fields : Fields α) {key other : String} (value : α)
    (h : key ≠ other) : get? (insert fields key value) other = get? fields other := by
  induction fields with
  | nil => simp [insert, get?, h]
  | cons field rest ih =>
    simp only [insert]
    split <;> simp_all [get?]

theorem get?_insert (fields : Fields α) (key other : String) (value : α) :
    get? (insert fields key value) other =
      if key = other then some value else get? fields other := by
  by_cases h : key = other
  · subst h
    simp
  · simp [h, get?_insert_of_ne]

@[simp]
theorem get?_erase_self (fields : Fields α) (key : String) : get? (erase fields key) key = none := by
  induction fields with
  | nil => rfl
  | cons field rest ih =>
    by_cases h : field.1 = key <;> simp_all [erase, get?]

theorem get?_erase_of_ne (fields : Fields α) {key other : String} (h : key ≠ other) :
    get? (erase fields key) other = get? fields other := by
  induction fields with
  | nil => rfl
  | cons field rest ih =>
    simp only [erase, ne_eq, decide_not] at ih
    by_cases hk : field.1 = key
    · have : field.1 ≠ other := fun ho => h (hk.symm.trans ho)
      simp [erase, get?, hk, ih, h]
    · simp [erase, get?, hk, ih]

theorem erase_insert (fields : Fields α) (key : String) (value : α) :
    erase (insert fields key value) key = erase fields key := by
  induction fields with
  | nil => simp [insert, erase]
  | cons field rest ih =>
    simp only [erase, ne_eq, decide_not] at ih
    rw [insert]
    split
    · next hk => simp [erase, hk]
    · next hk => simp [erase, hk, ih]

theorem names_insert (fields : Fields α) (key : String) (value : α) :
    names (insert fields key value) =
      if key ∈ names fields then names fields else names fields ++ [key] := by
  induction fields with
  | nil => simp [insert, names]
  | cons field rest ih =>
    simp only [names] at ih
    by_cases h : field.1 = key
    · simp [insert, names, h]
    · have h' : ¬key = field.1 := fun hk => h hk.symm
      simp only [insert, names, if_neg h, List.map_cons, ih, List.mem_cons, h', false_or]
      split <;> simp_all

theorem mem_names_insert_iff {fields : Fields α} {key name : String} {value : α} :
    name ∈ names (insert fields key value) ↔ name ∈ names fields ∨ name = key := by
  rw [names_insert]
  split
  · next hkey =>
    rw [or_iff_left_of_imp]
    intro heq
    rwa [heq]
  · rw [List.mem_append, List.mem_singleton]

theorem nodup_names_insert (fields : Fields α) (key : String) (value : α)
    (h : (names fields).Nodup) : (names (insert fields key value)).Nodup := by
  rw [names_insert]
  split
  · exact h
  · rename_i hk
    exact List.nodup_append.mpr ⟨h, by simp, by
      intro a ha b hb
      simp only [List.mem_singleton] at hb
      subst hb
      exact fun hab => hk (hab ▸ ha)⟩

theorem get?_eq_none_iff (fields : Fields α) (key : String) :
    get? fields key = none ↔ key ∉ names fields := by
  induction fields with
  | nil => simp [names]
  | cons field rest ih =>
    simp only [names, List.map_cons, List.mem_cons, not_or] at ih ⊢
    rw [get?_cons]
    split
    · next h => simp [h]
    · next h => simp [ih, Ne.symm h]

theorem contains_iff (fields : Fields α) (key : String) : contains fields key = true ↔ key ∈ names fields := by
  rw [contains, Option.isSome_iff_ne_none, ne_eq, get?_eq_none_iff, Classical.not_not]

theorem mem_of_get? {fields : Fields α} {key : String} {value : α}
    (h : get? fields key = some value) : (key, value) ∈ fields := by
  induction fields with
  | nil => simp at h
  | cons field rest ih =>
    rw [get?_cons] at h
    split at h
    · next hk =>
      cases h
      cases hk
      exact List.mem_cons_self
    · exact List.mem_cons_of_mem _ (ih h)

theorem get?_of_mem {fields : Fields α} {key : String} {value : α} (hn : (names fields).Nodup)
    (h : (key, value) ∈ fields) : get? fields key = some value := by
  induction fields with
  | nil => cases h
  | cons field rest ih =>
    rw [names, List.map_cons, List.nodup_cons] at hn
    rw [get?_cons]
    cases List.mem_cons.mp h with
    | inl h =>
      rw [← h]
      simp
    | inr h =>
      have hmem : key ∈ names rest := List.mem_map_of_mem h
      have hne : field.1 ≠ key := fun hk => hn.1 (hk ▸ hmem)
      rw [if_neg hne]
      exact ih hn.2 h

theorem get?_merge (fields : Fields α) {entries : List (String × α)} (key : String)
    (h : (names entries).Nodup) :
    get? (merge fields entries) key = (get? entries key).or (get? fields key) := by
  induction entries generalizing fields with
  | nil => rfl
  | cons entry rest ih =>
    rw [names, List.map_cons, List.nodup_cons] at h
    have ih := ih (insert fields entry.1 entry.2) h.2
    rw [merge, List.foldl_cons, ← merge, ih, get?_insert, get?_cons]
    split
    · next hk =>
      rw [(get?_eq_none_iff rest key).mpr (hk ▸ h.1)]
      rfl
    · rfl

theorem nodup_names_merge (fields : Fields α) (entries : List (String × α))
    (h : (names fields).Nodup) : (names (merge fields entries)).Nodup := by
  induction entries generalizing fields with
  | nil => exact h
  | cons entry rest ih =>
    apply ih
    apply nodup_names_insert
    exact h

theorem mem_names_merge_iff {fields : Fields α} {entries : List (String × α)} {name : String} :
    name ∈ names (merge fields entries) ↔ name ∈ names fields ∨ name ∈ names entries := by
  induction entries generalizing fields with
  | nil => simp [merge, names]
  | cons entry rest ih =>
    rw [merge, List.foldl_cons, ← merge, ih, mem_names_insert_iff, or_assoc]
    simp [names]

theorem get?_merge_of_not_mem {fields : Fields α} {entries : List (String × α)} {key : String}
    (h : key ∉ names entries) : get? (merge fields entries) key = get? fields key := by
  induction entries generalizing fields with
  | nil => rfl
  | cons entry rest ih =>
    rw [names, List.map_cons, List.mem_cons, not_or] at h
    rw [merge, List.foldl_cons, ← merge, ih h.2, get?_insert_of_ne fields entry.2 (Ne.symm h.1)]

theorem insert_of_get? {fields : Fields α} {key : String} {value : α}
    (h : get? fields key = some value) : insert fields key value = fields := by
  induction fields with
  | nil => cases h
  | cons field rest ih =>
    rw [get?_cons] at h
    rw [insert]
    split at h
    · next hk =>
      cases h
      rw [if_pos hk]
    · next hk => rw [if_neg hk, ih h]

theorem mem_insert {fields : Fields α} {key : String} {value : α} {entry : String × α}
    (h : entry ∈ insert fields key value) : entry ∈ fields ∨ entry = (key, value) := by
  induction fields with
  | nil => exact Or.inr (List.mem_singleton.mp h)
  | cons field rest ih =>
    rw [insert] at h
    split at h
    · next hk =>
      cases List.mem_cons.mp h with
      | inl h =>
        rw [h, hk]
        exact Or.inr rfl
      | inr h => exact Or.inl (List.mem_cons_of_mem _ h)
    · cases List.mem_cons.mp h with
      | inl h =>
        rw [h]
        exact Or.inl List.mem_cons_self
      | inr h =>
        cases ih h with
        | inl h => exact Or.inl (List.mem_cons_of_mem _ h)
        | inr h => exact Or.inr h

theorem mem_merge {fields : Fields α} {entries : List (String × α)} {entry : String × α}
    (h : entry ∈ merge fields entries) : entry ∈ fields ∨ entry ∈ entries := by
  induction entries generalizing fields with
  | nil => exact Or.inl h
  | cons first rest ih =>
    cases ih h with
    | inl hinsert =>
      cases mem_insert hinsert with
      | inl hfields => exact Or.inl hfields
      | inr hfirst => exact Or.inr (hfirst ▸ List.mem_cons_self)
    | inr hrest => exact Or.inr (List.mem_cons_of_mem _ hrest)

theorem mem_ofList {entries : List (String × α)} {entry : String × α} (h : entry ∈ ofList entries) :
    entry ∈ entries :=
  (mem_merge h).resolve_left List.not_mem_nil

theorem insert_of_not_mem {fields : Fields α} {key : String} (value : α)
    (h : key ∉ names fields) : insert fields key value = fields ++ [(key, value)] := by
  induction fields with
  | nil => rfl
  | cons field rest ih =>
    rw [names, List.map_cons, List.mem_cons, not_or] at h
    rw [insert, if_neg (Ne.symm h.1), ih h.2]
    rfl

theorem merge_of_nodup {fields : Fields α} {entries : List (String × α)}
    (h : (names (fields ++ entries)).Nodup) : merge fields entries = fields ++ entries := by
  induction entries generalizing fields with
  | nil => simp [merge]
  | cons entry rest ih =>
    have hk : entry.1 ∉ names fields := by
      simp only [names, List.map_append, List.map_cons, List.nodup_append] at h
      exact fun hmem => h.2.2 _ hmem _ List.mem_cons_self rfl
    rw [merge, List.foldl_cons, ← merge, insert_of_not_mem _ hk, ih]
    · simp
    · simpa using h

theorem ofList_of_nodup {entries : List (String × α)} (h : (names entries).Nodup) :
    ofList entries = entries :=
  merge_of_nodup h

end Fields
end DocQuery
