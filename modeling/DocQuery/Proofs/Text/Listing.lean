import DocQuery.Proofs.Path.Segments
import Mathlib.Data.List.TakeWhile

/-!
This module contains what the entries of a list written with commas are: the tokens that were written, for every way
to put commas between them and white space around them.
-/

namespace DocQuery
namespace Text

theorem isComma_of_isBlank {c : Char} (h : isBlank c = true) : isComma c = false := by
  rw [← Bool.not_eq_true]
  intro hcomma
  unfold isComma at hcomma
  rw [Bool.or_eq_true, beq_iff_eq, beq_iff_eq] at hcomma
  cases hcomma with
  | inl hc =>
    rw [hc] at h
    revert h
    decide
  | inr hc =>
    rw [hc] at h
    revert h
    decide

theorem trimChars_of_isBlank {cs : List Char} (h : ∀ c ∈ cs, isBlank c = true) : trimChars cs = [] := by
  unfold trimChars
  rw [List.dropWhile_eq_nil_iff.mpr h]
  rfl

theorem dropWhile_isBlank_eq_self {cs : List Char} (h : ∀ c ∈ cs, isBlank c = false) : cs.dropWhile isBlank = cs := by
  cases cs with
  | nil => rfl
  | cons c cs => rw [List.dropWhile_cons, h c List.mem_cons_self, if_neg Bool.false_ne_true]

theorem trimChars_eq_self {cs : List Char} (h : ∀ c ∈ cs, isBlank c = false) : trimChars cs = cs := by
  unfold trimChars
  rw [dropWhile_isBlank_eq_self h, dropWhile_isBlank_eq_self, List.reverse_reverse]
  intro c hc
  exact h c (List.mem_reverse.mp hc)

theorem trimChars_padded {before after : List Char} (cs : List Char) (hbefore : ∀ c ∈ before, isBlank c = true)
    (hafter : ∀ c ∈ after, isBlank c = true) : trimChars (before ++ cs ++ after) = trimChars cs := by
  have hreverse : ∀ c ∈ after.reverse, isBlank c = true := by
    intro c hc
    exact hafter c (List.mem_reverse.mp hc)
  unfold trimChars
  rw [List.append_assoc, List.dropWhile_append_of_pos hbefore, List.dropWhile_append]
  split
  · next hempty =>
    rw [List.isEmpty_iff] at hempty
    rw [hempty, List.dropWhile_eq_nil_iff.mpr hafter]
  · rw [List.reverse_append, List.dropWhile_append_of_pos hreverse]

structure IsToken (token : String) : Prop where
  ne_empty : token ≠ ""
  trimmed : trim token = token
  no_comma : ∀ c ∈ token.toList, isComma c = false

/--
The texts that list tokens: with commas of either kind in between, white space around them, and blank entries anywhere.
-/
inductive Lists : (text : List Char) → (tokens : List String) → Prop where
  | blank {text : List Char} (h : ∀ c ∈ text, isBlank c = true) : Lists text []
  | token {before after : List Char} {token : String} (hbefore : ∀ c ∈ before, isBlank c = true)
    (htoken : IsToken token) (hafter : ∀ c ∈ after, isBlank c = true) :
    Lists (before ++ token.toList ++ after) [token]
  | comma {comma : Char} {first second : List Char} {firstTokens secondTokens : List String}
    (hcomma : isComma comma = true) (hfirst : Lists first firstTokens) (hsecond : Lists second secondTokens) :
    Lists (first ++ comma :: second) (firstTokens ++ secondTokens)

theorem entries_of_no_comma {text : List Char} (h : ∀ c ∈ text, isComma c = false) :
    entries (String.ofList text) = [String.ofList (trimChars text)].filter (· ≠ "") := by
  have hcut := cut_eq_nil h
  unfold entries split
  rw [String.toList_ofList]
  dsimp only
  rw [cut_eq_self hcut, hcut, List.map_singleton, List.map_singleton, trim, String.toList_ofList]

theorem entries_append_comma {comma : Char} (first second : List Char) (hcomma : isComma comma = true) :
    entries (String.ofList (first ++ comma :: second))
      =
    entries (String.ofList first) ++ entries (String.ofList second) := by
  unfold entries split
  rw [String.toList_ofList, String.toList_ofList, String.toList_ofList, cut_append_separator first second hcomma]
  dsimp only
  rw [← List.cons_append, List.map_append, List.map_append, List.filter_append]

theorem entries_of_lists {text : List Char} {tokens : List String} (h : Lists text tokens) :
    entries (String.ofList text) = tokens := by
  induction h with
  | blank h =>
    rw [entries_of_no_comma fun c hc => isComma_of_isBlank (h c hc), trimChars_of_isBlank h]
    rfl
  | @token before after token hbefore htoken hafter =>
    have hcomma : ∀ c ∈ before ++ token.toList ++ after, isComma c = false := by
      intro c hc
      rw [List.mem_append, List.mem_append] at hc
      rcases hc with (hc | hc) | hc
      · exact isComma_of_isBlank (hbefore c hc)
      · exact htoken.no_comma c hc
      · exact isComma_of_isBlank (hafter c hc)
    have htrim : String.ofList (trimChars token.toList) = token := htoken.trimmed
    rw [entries_of_no_comma hcomma, trimChars_padded _ hbefore hafter, htrim]
    apply List.filter_eq_self.mpr
    simp [htoken.ne_empty]
  | comma hcomma _ _ ihfirst ihsecond => rw [entries_append_comma _ _ hcomma, ihfirst, ihsecond]

theorem exists_append_trimChars (cs : List Char) :
    ∃ before after : List Char, (∀ c ∈ before, isBlank c = true) ∧ (∀ c ∈ after, isBlank c = true)
      ∧ before ++ trimChars cs ++ after = cs := by
  let rest := cs.dropWhile isBlank
  refine ⟨cs.takeWhile isBlank, (rest.reverse.takeWhile isBlank).reverse, ?_, ?_, ?_⟩
  · intro c hc
    exact List.mem_takeWhile_imp hc
  · intro c hc
    exact List.mem_takeWhile_imp (List.mem_reverse.mp hc)
  · unfold trimChars
    rw [List.append_assoc, ← List.reverse_append, List.takeWhile_append_dropWhile, List.reverse_reverse,
      List.takeWhile_append_dropWhile]

theorem trimChars_trimChars (cs : List Char) : trimChars (trimChars cs) = trimChars cs := by
  obtain ⟨before, after, hbefore, hafter, hcs⟩ := exists_append_trimChars cs
  have hpadded := trimChars_padded (trimChars cs) hbefore hafter
  rw [hcs] at hpadded
  exact hpadded.symm

theorem mem_of_mem_trimChars {cs : List Char} {c : Char} (h : c ∈ trimChars cs) : c ∈ cs := by
  obtain ⟨before, after, -, -, hcs⟩ := exists_append_trimChars cs
  rw [← hcs, List.mem_append, List.mem_append]
  exact .inl (.inr h)

theorem isToken_trimChars {text : List Char} (h : ∀ c ∈ text, isComma c = false) (hne : trimChars text ≠ []) :
    IsToken (String.ofList (trimChars text)) := by
  constructor
  · rwa [ne_eq, String.ofList_eq_empty_iff]
  · rw [trim, String.toList_ofList, trimChars_trimChars]
  · intro c hc
    rw [String.toList_ofList] at hc
    exact h c (mem_of_mem_trimChars hc)

theorem lists_of_no_comma {text : List Char} (h : ∀ c ∈ text, isComma c = false) :
    Lists text (entries (String.ofList text)) := by
  obtain ⟨before, after, hbefore, hafter, htext⟩ := exists_append_trimChars text
  rw [entries_of_no_comma h]
  by_cases hempty : trimChars text = []
  · rw [hempty]
    apply Lists.blank
    rw [← htext, hempty, List.append_nil]
    exact List.forall_mem_append.mpr ⟨hbefore, hafter⟩
  · have htoken := isToken_trimChars h hempty
    have hlists := Lists.token hbefore htoken hafter
    rw [String.toList_ofList, htext] at hlists
    rw [List.filter_eq_self.mpr]
    · exact hlists
    · simp [htoken.ne_empty]

theorem lists_entries (text : List Char) : Lists text (entries (String.ofList text)) := by
  by_cases h : ∀ c ∈ text, isComma c = false
  · exact lists_of_no_comma h
  · simp only [not_forall, Bool.not_eq_false] at h
    obtain ⟨c, hmem, hcomma⟩ := h
    obtain ⟨first, second, rfl⟩ := List.append_of_mem hmem
    rw [entries_append_comma first second hcomma]
    exact .comma hcomma (lists_entries first) (lists_entries second)
termination_by text.length

theorem lists_iff {text : List Char} {tokens : List String} :
    Lists text tokens ↔ entries (String.ofList text) = tokens := by
  constructor
  · exact entries_of_lists
  · intro h
    rw [← h]
    exact lists_entries text

end Text
end DocQuery
