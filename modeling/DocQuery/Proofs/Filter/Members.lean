import DocQuery.Filter.Compile
import DocQuery.Proofs.Collation.Integers
import DocQuery.Proofs.Text.Decimals

/-!
This module contains the proof that members written as a text with commas are those that were written, and that integers
listed in this way are looked for like the same integers in an array.
-/

namespace DocQuery

theorem meetsLiteral_congr (value? : Option Value) {v w : Value} (h : v.collate = w.collate) :
    meetsLiteral value? v = meetsLiteral value? w := by
  unfold meetsLiteral Value.meets Value.equals
  rw [h]

namespace Predicate

theorem isMember_map {f : Value → Value} {members : List Value} (h : ∀ v ∈ members, (f v).collate = v.collate)
    (op : String) (value? : Option Value) :
    isMember op value? (.array (members.map f)) = isMember op value? (.array members) := by
  have hany : (members.map f).any (meetsLiteral value?) = members.any (meetsLiteral value?) := by
    rw [List.any_map]
    apply any_congr_of_mem
    intro v hv
    rw [Function.comp_apply, meetsLiteral_congr value? (h v hv)]
  exact congrArg Except.ok hany

theorem holds_members_map [Pattern.Engine] {f : Value → Value} {members : List Value}
    (h : ∀ v ∈ members, (f v).collate = v.collate)
    {op : String} (hop : op = "$in" ∨ op = "$nin") (document : Document) (field : String) :
    holds document [(field, .document [(op, .array (members.map f))])]
      =
    holds document [(field, .document [(op, .array members)])] := by
  by_cases hfield : isConnective field = true
  · -- under the name of a connective, either is refused
    rw [holds_singleton, holds_singleton]
    unfold clauseHolds
    rw [if_pos hfield, if_pos hfield]
  · rw [Bool.not_eq_true] at hfield
    cases hop with
    | inl hin =>
      rw [hin, holds_operator document _ hfield (by decide) (by decide),
        holds_operator document _ hfield (by decide) (by decide)]
      exact isMember_map h "$in" _
    | inr hnin =>
      rw [hnin, holds_operator document _ hfield (by decide) (by decide),
        holds_operator document _ hfield (by decide) (by decide)]
      exact congrArg (Except.map (!·)) (isMember_map h "$nin" _)

end Predicate

namespace Filter

theorem readMembers_of_lists {text : String} {tokens : List String} (h : Text.Lists text.toList tokens) :
    readMembers (.string text) = tokens.map readToken := by
  have hentries := Text.entries_of_lists h
  rw [String.ofList_toList] at hentries
  rw [readMembers, hentries]

theorem readToken_ofInt (n : Int64) : readToken (Text.ofInt n.toInt) = .int64 n := by
  unfold readToken
  rw [Text.readInt64?_ofInt]

theorem collate_readToken_ofInt {value : Value} (h : value.isInt = true) :
    (readToken (Text.ofInt value.integer)).collate = value.collate := by
  have hwide : ∃ n : Int64, n.toInt = value.integer := by
    cases value with
    | int32 n => exact ⟨n.toInt64, n.toInt_toInt64⟩
    | int64 n => exact ⟨n, rfl⟩
    | _ => cases h
  obtain ⟨n, hn⟩ := hwide
  rw [← hn, readToken_ofInt, Value.collate_of_isInt h, Value.collate_of_isInt rfl, ← hn]
  rfl

theorem exists_compile_eq {operator : Operator} (h : operator = .isIn ∨ operator = .notIn) :
    ∃ op, (op = "$in" ∨ op = "$nin") ∧ ∀ value, operator.compile value = [(op, .array (readMembers value))] := by
  cases h with
  | inl hin =>
    rw [hin]
    exact ⟨"$in", .inl rfl, fun _ => rfl⟩
  | inr hnin =>
    rw [hnin]
    exact ⟨"$nin", .inr rfl, fun _ => rfl⟩

theorem compile_withPair_empty {operator : Operator} {value operand : Value} {op : String}
    (h : operator.compile value = [(op, operand)]) (field : String) :
    (empty.withPair field operator value).compile = [(field, .document [(op, operand)])] := by
  have hpairs : Condition.compilePairs [(operator, value)] = [(op, operand)] := by
    unfold Condition.compilePairs
    rw [List.foldl_cons, h]
    rfl
  change compileFields [(field, .all [(operator, value)])] = _
  simp only [compileFields, List.filterMap_cons, Condition.compile?, hpairs, Option.map_some, List.filterMap_nil]
  rfl

section

variable {text : String} {operator : Operator} (hoperator : operator = .isIn ∨ operator = .notIn)

include hoperator

theorem compile_listed {ns : List Int64} (htext : Text.Lists text.toList (ns.map fun n => Text.ofInt n.toInt)) :
    operator.compile (.string text) = operator.compile (.array (ns.map .int64)) := by
  obtain ⟨op, -, hcompile⟩ := exists_compile_eq hoperator
  have hread : readMembers (.string text) = ns.map .int64 := by
    rw [readMembers_of_lists htext, List.map_map]
    apply List.map_congr_left
    intro n _
    rw [Function.comp_apply, readToken_ofInt]
  rw [hcompile, hcompile, hread, readMembers]

theorem holds_compile_listed [Pattern.Engine] {members : List Value}
    (hint : ∀ value ∈ members, value.isInt = true)
    (htext : Text.Lists text.toList (members.map fun value => Text.ofInt value.integer)) (field : String)
    (document : Document) :
    Predicate.holds document (empty.withPair field operator (.string text)).compile
      =
    Predicate.holds document (empty.withPair field operator (.array members)).compile := by
  obtain ⟨op, hop, hcompile⟩ := exists_compile_eq hoperator
  have hread : readMembers (.string text) = members.map fun value => readToken (Text.ofInt value.integer) := by
    rw [readMembers_of_lists htext, List.map_map, Function.comp_def]
  rw [compile_withPair_empty (hcompile _), compile_withPair_empty (hcompile _), hread, readMembers]
  apply Predicate.holds_members_map _ hop
  intro value hmem
  exact collate_readToken_ofInt (hint value hmem)

end

theorem listed_members [Pattern.Engine] :
    (∀ {text : String} {tokens : List String}, Text.Lists text.toList tokens →
        readMembers (.string text) = tokens.map readToken)
      ∧ (∀ n : Int64, Text.IsToken (Text.ofInt n.toInt) ∧ readToken (Text.ofInt n.toInt) = .int64 n)
      ∧ ∀ {operator : Operator}, operator = .isIn ∨ operator = .notIn → ∀ text : String,
          (∀ ns : List Int64, Text.Lists text.toList (ns.map fun n => Text.ofInt n.toInt) →
            operator.compile (.string text) = operator.compile (.array (ns.map .int64)))
          ∧ ∀ members : List Value, (∀ value ∈ members, value.isInt = true) →
              Text.Lists text.toList (members.map fun value => Text.ofInt value.integer) →
              ∀ (field : String) (document : Document),
                Predicate.holds document (empty.withPair field operator (.string text)).compile
                  =
                Predicate.holds document (empty.withPair field operator (.array members)).compile := by
  refine ⟨?_, ?_, ?_⟩
  · apply readMembers_of_lists
  · intro n
    exact ⟨Text.isToken_ofInt n.toInt, readToken_ofInt n⟩
  · intro operator hoperator text
    constructor
    · intro ns htext
      exact compile_listed hoperator htext
    · intro members hint htext
      exact holds_compile_listed hoperator hint htext

theorem listed_members_extreme :
    readMembers (.string " a b ，,\t-9223372036854775808\u3000") = ["a b", "-9223372036854775808"].map readToken
      ∧ Operator.isIn.compile (.string "9223372036854775807，, -7 ")
          = Operator.isIn.compile (.array ([9223372036854775807, -7].map .int64))
      ∧ Predicate.holds [("a", .double 2)] (empty.withPair "a" .notIn (.string "2，, -7 ")).compile
          =
        Predicate.holds [("a", .double 2)] (empty.withPair "a" .notIn (.array [.int32 2, .int64 (-7)])).compile := by
  obtain ⟨hread, -, hlisted⟩ := listed_members
  refine ⟨?_, ?_, ?_⟩
  · apply hread
    apply Text.lists_iff.mpr
    cbv
  · apply (hlisted (.inl rfl) _).1
    apply Text.lists_iff.mpr
    cbv
  · apply (hlisted (.inr rfl) _).2
    · simp [Value.isInt, Value.asInt?]
    · apply Text.lists_iff.mpr
      cbv

end Filter
end DocQuery
