import DocQuery.Path

/-!
This module contains how paths are read from text: a text without a dot is a path of one segment, and such a
text in front of another one and a dot is the first segment of the path.
-/

namespace DocQuery
namespace Text

variable {isSeparator : Char → Bool} {cs : List Char}

theorem cut_eq_self (h : (cut isSeparator cs).2 = []) : (cut isSeparator cs).1 = cs := by
  induction cs with
  | nil => rfl
  | cons c cs ih =>
    unfold cut at h ⊢
    dsimp only at h ⊢
    split at h
    · cases h
    · next hc =>
      rw [if_neg hc]
      dsimp only
      rw [ih h]

theorem cut_eq_nil (h : ∀ c ∈ cs, isSeparator c = false) : (cut isSeparator cs).2 = [] := by
  induction cs with
  | nil => rfl
  | cons c cs ih =>
    rw [List.forall_mem_cons] at h
    unfold cut
    dsimp only
    rw [h.1]
    exact ih h.2

theorem cut_append_separator {separator : Char} (first rest : List Char) (hseparator : isSeparator separator = true) :
    cut isSeparator (first ++ separator :: rest)
      =
    ((cut isSeparator first).1,
      (cut isSeparator first).2 ++ (cut isSeparator rest).1 :: (cut isSeparator rest).2) := by
  induction first with
  | nil => simp only [List.nil_append, cut, hseparator, if_true]
  | cons c cs ih =>
    simp only [List.cons_append, cut, ih]
    split
    · rfl
    · rfl

theorem cut_append_cons {separator : Char} (rest : List Char) (h : ∀ c ∈ cs, isSeparator c = false)
    (hseparator : isSeparator separator = true) :
    cut isSeparator (cs ++ separator :: rest)
      =
    (cs, (cut isSeparator rest).1 :: (cut isSeparator rest).2) := by
  have hcs := cut_eq_nil h
  rw [cut_append_separator cs rest hseparator, cut_eq_self hcs, hcs, List.nil_append]

theorem not_separator_of_mem_cut {c : Char} (h : c ∈ (cut isSeparator cs).1) : isSeparator c = false := by
  induction cs with
  | nil => cases h
  | cons first cs ih =>
    unfold cut at h
    dsimp only at h
    split at h
    · cases h
    · next hfirst =>
      cases List.mem_cons.mp h with
      | inl hc => rwa [hc, ← Bool.not_eq_true]
      | inr hmem => exact ih hmem

theorem cut_flatMap (separator : Char) (cs : List Char) :
    (cut (· == separator) cs).1 ++ (cut (· == separator) cs).2.flatMap (separator :: ·) = cs := by
  induction cs with
  | nil => rfl
  | cons c cs ih =>
    rw [cut]
    dsimp only
    split
    · next hc =>
      rw [beq_iff_eq] at hc
      rw [hc, List.nil_append, List.flatMap_cons, List.cons_append, ih]
    · rw [List.cons_append, ih]

end Text

namespace Path

theorem ofString_injective : Function.Injective ofString := by
  intro s t h
  unfold ofString at h
  dsimp only at h
  rw [Path.mk.injEq, String.ofList_inj] at h
  have htail := (List.map_inj_right fun _ _ => String.ofList_inj.mp).mp h.2
  rw [← String.toList_inj, ← Text.cut_flatMap '.' s.toList, ← Text.cut_flatMap '.' t.toList, h.1, htail]

theorem head_ofString {s : String} (h : (ofString s).tail = []) : (ofString s).head = s := by
  unfold ofString at h ⊢
  dsimp only at h ⊢
  rw [List.map_eq_nil_iff] at h
  rw [Text.cut_eq_self h, String.ofList_toList]

theorem ne_dot_of_not_mem {s : String} (h : '.' ∉ s.toList) : ∀ c ∈ s.toList, (c == '.') = false := by
  intro c hc
  rw [beq_eq_false_iff_ne]
  exact fun hdot => h (hdot ▸ hc)

theorem ofString_of_not_mem {s : String} (h : '.' ∉ s.toList) : ofString s = ⟨s, []⟩ := by
  have htail : (ofString s).tail = [] := by
    unfold ofString
    dsimp only
    rw [Text.cut_eq_nil (ne_dot_of_not_mem h), List.map_nil]
  have hhead := head_ofString htail
  rw [← htail]
  exact congrArg (Path.mk · (ofString s).tail) hhead

theorem not_mem_head_ofString (s : String) : '.' ∉ (ofString s).head.toList := by
  unfold ofString
  dsimp only
  rw [String.toList_ofList]
  intro hdot
  cases Text.not_separator_of_mem_cut hdot

theorem ofString_append {name : String} (path : String) (h : '.' ∉ name.toList) :
    ofString (name ++ "." ++ path) = ⟨name, (ofString path).head :: (ofString path).tail⟩ := by
  have hchars : (name ++ "." ++ path).toList = name.toList ++ '.' :: path.toList := by simp
  unfold ofString
  rw [hchars, Text.cut_append_cons path.toList (ne_dot_of_not_mem h) rfl]
  dsimp only
  rw [String.ofList_toList, List.map_cons]

theorem exists_append_of_mem {s : String} (h : '.' ∈ s.toList) :
    ∃ name path : String, '.' ∉ name.toList ∧ s = name ++ "." ++ path := by
  rcases List.eq_append_cons_of_mem h with ⟨before, after, hchars, hbefore⟩
  refine ⟨String.ofList before, String.ofList after, ?_, ?_⟩
  · rw [String.toList_ofList]
    exact hbefore
  · rw [← String.toList_inj, hchars]
    simp

theorem head_ofString_ne_self {s : String} (h : '.' ∈ s.toList) : (ofString s).head ≠ s := by
  rcases exists_append_of_mem h with ⟨name, path, hname, rfl⟩
  rw [ofString_append path hname]
  intro hhead
  dsimp only at hhead
  rw [hhead] at hname
  exact hname h

end Path
end DocQuery
