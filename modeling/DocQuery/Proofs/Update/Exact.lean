import DocQuery.Proofs.Outcome
import DocQuery.Proofs.Path.Writing
import DocQuery.Proofs.Value.Same
import DocQuery.Update

/-!
This module contains the arithmetic of updates on integers. Whatever the widths of the two numbers are, the
result is the exact one, and the only reason to fail is that it does not fit in 64 bits.
-/

namespace DocQuery
namespace Value

theorem asInt?_int64_ofInt {n : Int} (h : Word.fits64 n = true) :
    asInt? (.int64 (Int64.ofInt n)) = some n := by
  simp only [Word.fits64, Bool.and_eq_true, decide_eq_true_eq] at h
  rw [asInt?, Int64.toInt_ofInt_of_le (by omega) (by omega)]

theorem asInt?_ofInt {n : Int} (h : Word.fits64 n = true) : asInt? (.ofInt n) = some n := by
  unfold ofInt
  split
  · next hnarrow =>
    simp only [Word.fits32, Bool.and_eq_true, decide_eq_true_eq] at hnarrow
    rw [asInt?, Int32.toInt_ofInt_of_le (by omega) (by omega)]
  · exact asInt?_int64_ofInt h

theorem asInt?_eq_some_iff {value : Value} {n : Int} :
    value.asInt? = some n
      ↔
    (∃ word, value = .int32 word ∧ word.toInt = n) ∨ ∃ word, value = .int64 word ∧ word.toInt = n := by
  cases value with
  | _ => simp [asInt?]

end Value

namespace Arithmetic

def onHeld (arithmetic : Arithmetic) (held : Option Int) (n : Int) : Int :=
  arithmetic.onInts (held.getD 0) n

theorem apply_of_ints (arithmetic : Arithmetic) {current operand : Value} {a b : Int}
    (hcurrent : current.asInt? = some a) (hoperand : operand.asInt? = some b) :
    ∃ make : Int → Value,
      (∀ n, Word.fits64 n = true → (make n).asInt? = some n)
        ∧
      arithmetic.apply current operand
        =
      if Word.fits64 (arithmetic.onInts a b) then
        .ok (make (arithmetic.onInts a b))
      else
        .error (.invalidDocument (.overflow arithmetic.name)) := by
  have hwide : ∀ n, Word.fits64 n = true → Value.asInt? (.int64 (Int64.ofInt n)) = some n :=
    fun _ => Value.asInt?_int64_ofInt
  rcases Value.asInt?_eq_some_iff.mp hcurrent with ⟨word, rfl, rfl⟩ | ⟨word, rfl, rfl⟩
  · rcases Value.asInt?_eq_some_iff.mp hoperand with ⟨other, rfl, rfl⟩ | ⟨other, rfl, rfl⟩
    · exact ⟨.ofInt, fun _ => Value.asInt?_ofInt, rfl⟩
    · exact ⟨_, hwide, rfl⟩
  · rcases Value.asInt?_eq_some_iff.mp hoperand with ⟨other, rfl, rfl⟩ | ⟨other, rfl, rfl⟩
    · exact ⟨_, hwide, rfl⟩
    · exact ⟨_, hwide, rfl⟩

end Arithmetic

namespace Document

def HasInt (document : Document) (path : Path) (held : Option Int) : Prop :=
  (document.lookup? path).map Value.asInt? = held.map some

variable {document : Document} {path : Path} {held : Option Int}

theorem HasInt.asInt?_getD (h : document.HasInt path held) :
    ((document.lookup? path).getD (.int32 0)).asInt? = some (held.getD 0) := by
  unfold HasInt at h
  generalize document.lookup? path = current at h ⊢
  cases current with
  | none =>
    cases held with
    | none => rfl
    | some => cases h
  | some =>
    cases held with
    | none => cases h
    | some => exact Option.some.inj h

theorem hasInt_set {value : Value} {n : Int} (h : value.asInt? = some n) :
    (document.set path value).HasInt path (some n) := by
  rw [HasInt, lookup?_set, Option.map_some, h]
  rfl

theorem HasInt.of_same {patched : Document} (h : patched.HasInt path held)
    (hsame : patched.same document = true) : document.HasInt path held := by
  have hlookup := lookup?_of_same hsame path
  unfold HasInt at h ⊢
  rw [← h]
  generalize patched.lookup? path = first at hlookup ⊢
  generalize document.lookup? path = second at hlookup ⊢
  cases hlookup with
  | none => rfl
  | some hvalue => rw [Option.map_some, Option.map_some, Value.asInt?_of_same hvalue]

theorem calculate_of_fits {arithmetic : Arithmetic} {operand : Value} {n : Int}
    (h : document.HasInt path held) (hoperand : operand.asInt? = some n)
    (hfits : Word.fits64 (arithmetic.onHeld held n) = true) :
    ∃ updated, document.calculate arithmetic path operand = .ok updated
      ∧ updated.HasInt path (some (arithmetic.onHeld held n)) := by
  rcases arithmetic.apply_of_ints h.asInt?_getD hoperand with ⟨make, hmake, happly⟩
  have hcalculate : document.calculate arithmetic path operand
      = .ok (document.set path (make (arithmetic.onHeld held n))) := by
    unfold calculate
    dsimp only
    rw [happly, ← Arithmetic.onHeld, if_pos hfits]
    rfl
  exact ⟨_, hcalculate, hasInt_set (hmake _ hfits)⟩

theorem calculate_of_not_fits {arithmetic : Arithmetic} {operand : Value} {n : Int}
    (h : document.HasInt path held) (hoperand : operand.asInt? = some n)
    (hfits : Word.fits64 (arithmetic.onHeld held n) = false) :
    document.calculate arithmetic path operand
      = .error (.invalidDocument (.overflow arithmetic.name)) := by
  rcases arithmetic.apply_of_ints h.asInt?_getD hoperand with ⟨make, _, happly⟩
  unfold calculate
  dsimp only
  rw [happly, ← Arithmetic.onHeld, if_neg (Bool.eq_false_iff.mp hfits)]
  rfl

end Document
end DocQuery
