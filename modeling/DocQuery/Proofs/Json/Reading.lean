import DocQuery.Json

/-!
This module contains what is read from JSON: values are read back from what is written for them, and records are also
read back from forms that leave out entries with default values.
-/

namespace DocQuery

class LawfulJson (α : Type) [OfJson α] [ToJson α] : Prop where
  ofJson?_toJson (value : α) : ofJson? (toJson value) = some value

export LawfulJson (ofJson?_toJson)

instance : LawfulJson Bool where
  ofJson?_toJson _ := rfl

instance : LawfulJson String where
  ofJson?_toJson _ := rfl

instance : LawfulJson UInt64 where
  ofJson?_toJson n := by
    have hlt := n.toNat_lt
    have hrange : (0 : Int) ≤ n.toNat ∧ (n.toNat : Int) ≤ Word.limit := by
      unfold Word.limit
      omega
    simp only [toJson, ofJson?]
    rw [if_pos hrange, Int.toNat_natCast, UInt64.ofNat_toNat]

instance : LawfulJson Int32 where
  ofJson?_toJson n := by
    have hlow := n.le_toInt
    have hhigh := n.toInt_lt
    have hrange : Word.fits32 n.toInt = true := by
      unfold Word.fits32
      rw [Bool.and_eq_true, decide_eq_true_eq, decide_eq_true_eq]
      omega
    simp only [toJson, ofJson?]
    rw [if_pos hrange, Int32.ofInt_toInt]

instance {α : Type} [OfJson α] [ToJson α] [LawfulJson α] : LawfulJson (List α) where
  ofJson?_toJson items := by
    change (items.map toJson).mapM ofJson? = some items
    induction items with
    | nil => rfl
    | cons item rest ih => simp [List.mapM_cons, ofJson?_toJson, ih]

namespace Json

mutual

/--
A JSON value is abbreviated where entries that hold their default are left out of it, also inside of entries that stay.
-/
inductive Abbreviates : (defaults whole short : Json) → Prop where
  | whole (defaults json : Json) : Abbreviates defaults json json
  | object {defaults whole short : List (String × Json)} (h : EntriesAbbreviate defaults whole short) :
    Abbreviates (.object defaults) (.object whole) (.object short)

inductive EntriesAbbreviate : (defaults whole short : List (String × Json)) → Prop where
  | nil (defaults : List (String × Json)) : EntriesAbbreviate defaults [] []
  | left {defaults whole short : List (String × Json)} {name : String} {json : Json}
    (hdefault : Fields.get? defaults name = some json) (h : EntriesAbbreviate defaults whole short) :
    EntriesAbbreviate defaults ((name, json) :: whole) short
  | kept {defaults whole short : List (String × Json)} (name : String) (json : Json)
    (h : EntriesAbbreviate defaults whole short) :
    EntriesAbbreviate defaults ((name, json) :: whole) ((name, json) :: short)
  | shortened {defaults whole short : List (String × Json)} {name : String} {json shortened default : Json}
    (hdefault : Fields.get? defaults name = some default) (hjson : Abbreviates default json shortened)
    (h : EntriesAbbreviate defaults whole short) :
    EntriesAbbreviate defaults ((name, json) :: whole) ((name, shortened) :: short)

end

theorem EntriesAbbreviate.whole (defaults entries : List (String × Json)) :
    EntriesAbbreviate defaults entries entries := by
  induction entries with
  | nil => exact .nil defaults
  | cons entry rest ih => exact .kept entry.1 entry.2 ih

theorem Abbreviates.exists_entries {defaults whole : List (String × Json)} {short : Json}
    (h : Abbreviates (.object defaults) (.object whole) short) :
    ∃ entries, short = .object entries ∧ EntriesAbbreviate defaults whole entries := by
  cases h with
  | whole => exact ⟨whole, rfl, .whole defaults whole⟩
  | object h => exact ⟨_, rfl, h⟩

namespace EntriesAbbreviate

variable {defaults whole short : List (String × Json)} {name : String} {json : Json}

theorem names_subset (h : EntriesAbbreviate defaults whole short) : Fields.names short ⊆ Fields.names whole := by
  induction whole generalizing short with
  | nil =>
    cases h
    apply List.Subset.refl
  | cons entry rest ih =>
    cases h with
    | left _ h => exact List.subset_cons_of_subset _ (ih h)
    | kept _ _ h => exact List.cons_subset_cons _ (ih h)
    | shortened _ _ h => exact List.cons_subset_cons _ (ih h)

theorem get?_short (h : EntriesAbbreviate defaults whole short) (hnodup : (Fields.names whole).Nodup)
    (hget : Fields.get? whole name = some json) :
    Fields.get? short name = none ∧ Fields.get? defaults name = some json
      ∨ Fields.get? short name = some json
      ∨ ∃ default shortened, Fields.get? short name = some shortened ∧ Fields.get? defaults name = some default
          ∧ Abbreviates default json shortened := by
  induction whole generalizing short with
  | nil => cases hget
  | cons entry rest ih =>
    rw [Fields.names, List.map_cons, List.nodup_cons] at hnodup
    rw [Fields.get?_cons] at hget
    cases h with
    | left hdefault h =>
      split at hget
      -- the entry that is left out has no namesake further on
      · next hname =>
        cases hget
        subst hname
        refine .inl ⟨?_, hdefault⟩
        rw [Fields.get?_eq_none_iff]
        exact fun hmem => hnodup.1 (h.names_subset hmem)
      · exact ih h hnodup.2 hget
    | kept _ _ h =>
      rw [Fields.get?_cons]
      split at hget
      · next hname =>
        rw [if_pos hname]
        exact .inr (.inl hget)
      · next hname =>
        rw [if_neg hname]
        exact ih h hnodup.2 hget
    | shortened hdefault hjson h =>
      rw [Fields.get?_cons]
      split at hget
      · next hname =>
        cases hget
        subst hname
        rw [if_pos rfl]
        exact .inr (.inr ⟨_, _, rfl, hdefault, hjson⟩)
      · next hname =>
        rw [if_neg hname]
        exact ih h hnodup.2 hget

end EntriesAbbreviate

variable {α : Type} [OfJson α] [ToJson α]

def Recovers (defaults : Json) (value : α) : Prop :=
  ∀ json, Abbreviates defaults (toJson value) json → ofJson? json = some value

theorem Recovers.ofJson?_toJson {defaults : Json} {value : α} (h : Recovers defaults value) :
    ofJson? (toJson value) = some value :=
  h _ (.whole _ _)

theorem recovers_uint64 (defaults : Json) (n : UInt64) : Recovers defaults n := by
  intro json h
  cases h
  apply LawfulJson.ofJson?_toJson

theorem recovers_bool (defaults : Json) (b : Bool) : Recovers defaults b := by
  intro json h
  cases h
  apply LawfulJson.ofJson?_toJson

section

variable {defaults whole short : List (String × Json)} {name : String} {value : α}
  (h : EntriesAbbreviate defaults whole short) (hnodup : (Fields.names whole).Nodup)
  (hget : Fields.get? whole name = some (toJson value))

include h hnodup hget

theorem required?_of_abbreviates [LawfulJson α] (hdefault : Fields.get? defaults name = none) :
    required? short name = some value := by
  unfold required?
  rcases h.get?_short hnodup hget with ⟨-, hsome⟩ | hkept | ⟨default, shortened, -, hsome, -⟩
  · rw [hdefault] at hsome
    cases hsome
  · rw [hkept]
    exact ofJson?_toJson value
  · rw [hdefault] at hsome
    cases hsome

theorem optional?_of_abbreviates {default : α} (hdefault : Fields.get? defaults name = some (toJson default))
    (hrecovers : ∀ value : α, Recovers (toJson default) value) : optional? short name default = some value := by
  unfold optional?
  rcases h.get?_short hnodup hget with ⟨hnone, hsome⟩ | hkept | ⟨other, shortened, hshort, hsome, hjson⟩
  · -- what is left out is the default, since its JSON form is that of the default
    rw [hdefault, Option.some_inj] at hsome
    rw [hnone, ← (hrecovers default).ofJson?_toJson, hsome]
    exact (hrecovers value).ofJson?_toJson
  · rw [hkept]
    exact (hrecovers value).ofJson?_toJson
  · rw [hdefault, Option.some_inj] at hsome
    rw [hshort]
    apply hrecovers value
    rw [hsome]
    exact hjson

end

end Json
end DocQuery
