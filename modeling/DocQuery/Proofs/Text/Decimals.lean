import DocQuery.Proofs.Text.Listing
import DocQuery.Proofs.Word.Saturation
import DocQuery.Text.Number

/-!
This module contains how integers are read back from their decimals.
-/

namespace DocQuery
namespace Text

theorem isDigit_of_mem_toDigits {n : Nat} {c : Char} (h : c ∈ Nat.toDigits 10 n) : isDigit c = true := by
  have hdigit := Nat.isDigit_of_mem_toDigits (by decide) (by decide) h
  unfold Char.isDigit at hdigit
  unfold isDigit
  rw [Bool.and_eq_true, decide_eq_true_eq, decide_eq_true_eq] at hdigit ⊢
  exact hdigit

theorem readDigits?_toDigits (n : Nat) : readDigits? (Nat.toDigits 10 n) = some n := by
  have hdigits : (Nat.toDigits 10 n).all isDigit = true := by
    rw [List.all_eq_true]
    intro c hc
    exact isDigit_of_mem_toDigits hc
  have hvalue : digitsValue (Nat.toDigits 10 n) = n := by
    unfold digitsValue digitValue
    rw [← Nat.ofDigitChars_eq_foldl, Nat.ofDigitChars_ten_toDigits]
  unfold readDigits?
  rw [if_pos ⟨Nat.toDigits_ne_nil, hdigits⟩, hvalue]

theorem readSign_toDigits (n : Nat) : readSign (Nat.toDigits 10 n) = (false, Nat.toDigits 10 n) := by
  have hdigit : ∀ c ∈ Nat.toDigits 10 n, isDigit c = true := fun c => isDigit_of_mem_toDigits
  unfold readSign
  split
  · next cs hcs =>
    rw [hcs, List.forall_mem_cons] at hdigit
    cases hdigit.1
  · next cs hcs =>
    rw [hcs, List.forall_mem_cons] at hdigit
    cases hdigit.1
  · rfl

theorem readInt?_ofInt (n : Int) : readInt? (ofInt n) = some n := by
  unfold readInt? ofInt
  dsimp only
  rw [String.toList_ofList]
  by_cases hn : n < 0
  · rw [if_pos hn, readSign]
    dsimp only
    rw [readDigits?_toDigits]
    change some (-(n.natAbs : Int)) = some n
    rw [Option.some_inj]
    omega
  · rw [if_neg hn, readSign_toDigits]
    dsimp only
    rw [readDigits?_toDigits]
    change some (n.natAbs : Int) = some n
    rw [Option.some_inj]
    omega

theorem readInt64?_ofInt (n : Int64) : readInt64? (ofInt n.toInt) = some n := by
  unfold readInt64?
  rw [readInt?_ofInt]
  dsimp only
  rw [if_pos (Word.fits64_toInt n), Int64.ofInt_toInt]

def isDecimal (c : Char) : Bool := c == '-' || isDigit c

theorem isDecimal_of_mem_ofInt {n : Int} {c : Char} (h : c ∈ (ofInt n).toList) : isDecimal c = true := by
  unfold ofInt at h
  dsimp only at h
  rw [String.toList_ofList] at h
  unfold isDecimal
  rw [Bool.or_eq_true, beq_iff_eq]
  split at h
  · cases List.mem_cons.mp h with
    | inl hsign => exact .inl hsign
    | inr hmem => exact .inr (isDigit_of_mem_toDigits hmem)
  · exact .inr (isDigit_of_mem_toDigits h)

theorem toNat_of_isDecimal {c : Char} (h : isDecimal c = true) : c.toNat = 45 ∨ 48 ≤ c.toNat ∧ c.toNat ≤ 57 := by
  unfold isDecimal isDigit at h
  rw [Bool.or_eq_true, Bool.and_eq_true, beq_iff_eq, decide_eq_true_eq, decide_eq_true_eq] at h
  cases h with
  | inl hsign =>
    left
    rw [hsign]
    rfl
  | inr hdigit => exact .inr hdigit

theorem isBlank_of_isDecimal {c : Char} (h : isDecimal c = true) : isBlank c = false := by
  have hrange := toNat_of_isDecimal h
  simp only [isBlank, inRanges, blankRanges, List.any_cons, List.any_nil, Bool.or_eq_false_iff, Bool.and_eq_false_iff,
    decide_eq_false_iff_not, and_true]
  omega

theorem isComma_of_isDecimal {c : Char} (h : isDecimal c = true) : isComma c = false := by
  have hrange := toNat_of_isDecimal h
  unfold isComma
  rw [Bool.or_eq_false_iff, beq_eq_false_iff_ne, beq_eq_false_iff_ne]
  constructor
  · rintro rfl
    revert hrange
    decide
  · rintro rfl
    revert hrange
    decide

theorem ofInt_ne_empty (n : Int) : ofInt n ≠ "" := by
  unfold ofInt
  dsimp only
  rw [ne_eq, String.ofList_eq_empty_iff]
  split
  · apply List.cons_ne_nil
  · exact Nat.toDigits_ne_nil

theorem isToken_ofInt (n : Int) : IsToken (ofInt n) := by
  constructor
  · apply ofInt_ne_empty
  · rw [trim, trimChars_eq_self, String.ofList_toList]
    intro c hc
    exact isBlank_of_isDecimal (isDecimal_of_mem_ofInt hc)
  · intro c hc
    exact isComma_of_isDecimal (isDecimal_of_mem_ofInt hc)

end Text
end DocQuery
