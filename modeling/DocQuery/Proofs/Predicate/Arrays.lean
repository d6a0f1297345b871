import DocQuery.Pattern.Standard
import DocQuery.Proofs.Path.Segments
import DocQuery.Proofs.Predicate.Evaluation

/-!
This module contains how a literal is compared where the path of its clause meets an array. The values that
the documents of the array hold further down are put into a new array, which is compared as if it were
stored. This comes out as a comparison in each of the documents unless the new array as a whole, a missing
value or an array among the values makes a difference.
-/

namespace DocQuery

def Value.heldAt (path : Path) (items : List Value) : List Value :=
  items.filterMap fun
    | .document inner => Document.resolve? inner path
    | _ => none

theorem Value.mem_heldAt_iff {path : Path} {items : List Value} {value : Value} :
    value ∈ heldAt path items
      ↔
    ∃ element : Document, .document element ∈ items ∧ element.resolve? path = some value := by
  unfold heldAt
  rw [List.mem_filterMap]
  constructor
  · rintro ⟨item, hitem, hvalue⟩
    cases item with
    | document element => exact ⟨element, hitem, hvalue⟩
    | _ => cases hvalue
  · rintro ⟨element, helement, hvalue⟩
    exact ⟨.document element, helement, hvalue⟩

theorem Document.resolve?_of_array {document : Document} {name : String} {path : Path} {items : List Value}
    (harray : Fields.get? document name = some (.array items))
    (hindex : Text.readIndex? path.head = none) :
    document.resolve? ⟨name, path.head :: path.tail⟩
      =
    match Value.heldAt path items with
    | [] => none
    | values => some (.array values) := by
  have hlookup : document.lookup? ⟨name, path.head :: path.tail⟩ = none := by
    unfold lookup?
    dsimp only
    rw [harray, Option.bind_some, Value.descend?, Value.child?, hindex]
    rfl
  unfold resolve?
  dsimp only
  rw [resolveAt?, hlookup, harray]
  rfl

namespace Predicate

theorem isConnective_append_dot (name path : String) : isConnective (name ++ "." ++ path) = false := by
  rw [Bool.eq_false_iff]
  intro hconnective
  have hdot : '.' ∈ (name ++ "." ++ path).toList := by simp
  rcases isConnective_iff.mp hconnective with hname | hname | hname
  all_goals
    rw [hname] at hdot
    revert hdot
    decide

def MeetsOne (values : List Value) (literal : Value) : Prop := ∃ value ∈ values, value.equals literal = true

def MeetsWhole (values : List Value) (literal : Value) : Prop :=
  match values with
  | [] => meetsLiteral none literal = true
  | values => (Value.array values).equals literal = true

def MeetsInside (path : Path) (items : List Value) (literal : Value) : Prop :=
  (∃ element : Document, .document element ∈ items ∧ element.resolve? path = none
      ∧ meetsLiteral none literal = true)
    ∨
  ∃ inner, .array inner ∈ Value.heldAt path items ∧ MeetsOne inner literal

theorem not_meetsWhole (values : List Value) {literal : Value} (hdefined : literal.isDefined = true)
    (hsingle : ∀ inner, literal ≠ .array inner) : ¬MeetsWhole values literal := by
  unfold MeetsWhole
  cases values with
  | nil =>
    dsimp only
    rw [meetsLiteral_none, hdefined]
    nofun
  | cons value rest =>
    cases literal with
    | array inner => exact absurd rfl (hsingle inner)
    | _ => nofun

theorem not_meetsInside {path : Path} {items : List Value} {literal : Value}
    (hdefined : literal.isDefined = true) (hheld : ∀ inner, .array inner ∉ Value.heldAt path items) :
    ¬MeetsInside path items literal := by
  rintro (⟨element, _, _, hmeets⟩ | ⟨inner, hinner, _⟩)
  · rw [meetsLiteral_none, hdefined] at hmeets
    cases hmeets
  · exact hheld inner hinner

theorem meets_iff {value literal : Value} :
    value.meets literal = true
      ↔
    value.equals literal = true ∨ ∃ inner, value = .array inner ∧ MeetsOne inner literal := by
  unfold Value.meets MeetsOne
  cases value with
  | array items => simp [List.any_eq_true]
  | _ => simp

theorem meetsLiteral_array_iff (values : List Value) (literal : Value) :
    meetsLiteral
        (match values with
          | [] => none
          | values => some (.array values))
        literal = true
      ↔
    MeetsWhole values literal ∨ MeetsOne values literal := by
  cases values with
  | nil => simp [MeetsWhole, MeetsOne]
  | cons value rest =>
    have hmeets : meetsLiteral (some (.array (value :: rest))) literal
        = (Value.array (value :: rest)).meets literal := rfl
    dsimp only
    rw [hmeets, meets_iff]
    simp [MeetsWhole]

theorem exists_element_iff (path : Path) (items : List Value) (literal : Value) :
    (∃ element : Document, .document element ∈ items ∧ meetsLiteral (element.resolve? path) literal = true)
      ↔
    MeetsInside path items literal ∨ MeetsOne (Value.heldAt path items) literal := by
  constructor
  · rintro ⟨element, helement, hmeets⟩
    cases hvalue : element.resolve? path with
    | none =>
      rw [hvalue] at hmeets
      exact .inl (.inl ⟨element, helement, hvalue, hmeets⟩)
    | some value =>
      have hheld : value ∈ Value.heldAt path items := Value.mem_heldAt_iff.mpr ⟨element, helement, hvalue⟩
      rw [hvalue] at hmeets
      rcases meets_iff.mp hmeets with hequals | ⟨inner, rfl, hinner⟩
      · exact .inr ⟨value, hheld, hequals⟩
      · exact .inl (.inr ⟨inner, hheld, hinner⟩)
  · rintro ((⟨element, helement, hvalue, hmeets⟩ | ⟨inner, hheld, hinner⟩) | ⟨value, hheld, hequals⟩)
    · exact ⟨element, helement, hvalue ▸ hmeets⟩
    · rcases Value.mem_heldAt_iff.mp hheld with ⟨element, helement, hvalue⟩
      exact ⟨element, helement, hvalue ▸ meets_iff.mpr (.inr ⟨inner, rfl, hinner⟩)⟩
    · rcases Value.mem_heldAt_iff.mp hheld with ⟨element, helement, hvalue⟩
      exact ⟨element, helement, hvalue ▸ meets_iff.mpr (.inl hequals)⟩

/--
A document with an array under a name matches a literal below that name if and only if one of the documents
of the array matches it.
-/
def MatchesThrough [Pattern.Engine] (document : Document) (name path : String) (items : List Value)
    (literal : Value) : Prop :=
  holds document [(name ++ "." ++ path, literal)] = .ok true
    ↔
  ∃ element : Document, .document element ∈ items ∧ holds element [(path, literal)] = .ok true

section

variable [Pattern.Engine] {document : Document} {name path : String} {items : List Value} {literal : Value}

theorem matchesThrough_iff_or (hname : '.' ∉ name.toList)
    (harray : Fields.get? document name = some (.array items))
    (hindex : Text.readIndex? (Path.ofString path).head = none) (hpath : isConnective path = false)
    (hliteral : isLiteral literal = true) :
    MatchesThrough document name path items literal
      ↔
    (MeetsWhole (Value.heldAt (.ofString path) items) literal
          ∨ MeetsOne (Value.heldAt (.ofString path) items) literal
        ↔
      MeetsInside (.ofString path) items literal
          ∨ MeetsOne (Value.heldAt (.ofString path) items) literal) := by
  unfold MatchesThrough
  rw [holds_literal document (isConnective_append_dot name path) hliteral, Path.ofString_append path hname,
    Document.resolve?_of_array harray hindex, Except.ok.injEq, meetsLiteral_array_iff, ← exists_element_iff]
  simp only [holds_literal _ hpath hliteral, Except.ok.injEq]

theorem matchesThrough_iff (hname : '.' ∉ name.toList)
    (harray : Fields.get? document name = some (.array items))
    (hindex : Text.readIndex? (Path.ofString path).head = none) (hpath : isConnective path = false)
    (hliteral : isLiteral literal = true) :
    (MatchesThrough document name path items literal
        ↔
      MeetsOne (Value.heldAt (.ofString path) items) literal
        ∨
      (MeetsWhole (Value.heldAt (.ofString path) items) literal
        ↔ MeetsInside (.ofString path) items literal))
      ∧
    (literal.isDefined = true → (∀ inner, literal ≠ .array inner) →
      (∀ inner, .array inner ∉ Value.heldAt (.ofString path) items) →
        MatchesThrough document name path items literal) := by
  have hiff := matchesThrough_iff_or hname harray hindex hpath hliteral
  constructor
  · rw [hiff]
    by_cases hone : MeetsOne (Value.heldAt (.ofString path) items) literal
    · simp [hone]
    · simp [hone]
  · intro hdefined hsingle hheld
    have hwhole := not_meetsWhole (Value.heldAt (.ofString path) items) hdefined hsingle
    have hinside := not_meetsInside hdefined hheld
    rw [hiff]
    simp [hwhole, hinside]

end

theorem matchesThrough_iff_deep :
    let items : List Value := [
      .document [("name", .document [("last", .array [.string "bo", .null])])],
      .int32 3,
      .document [("name", .array [.document [("last", .string "ada")]])]]
    let document : Document := [("_id", .int32 1), ("authors", .array items)]
    '.' ∉ "authors".toList
      ∧
    Fields.get? document "authors" = some (.array items)
      ∧
    Text.readIndex? (Path.ofString "name.last").head = none
      ∧
    isConnective "name.last" = false
      ∧
    isLiteral (.array [.string "ada"]) = true
      ∧
    MatchesThrough document "authors" "name.last" items (.array [.string "ada"]) := by
  intro items document
  have hname : '.' ∉ "authors".toList := by decide
  have hindex : Text.readIndex? (Path.ofString "name.last").head = none := by rfl
  have hone : MeetsOne (Value.heldAt (.ofString "name.last") items) (.array [.string "ada"]) :=
    ⟨.array [.string "ada"], List.mem_cons_of_mem _ List.mem_cons_self, rfl⟩
  exact ⟨hname, rfl, hindex, rfl, rfl, (matchesThrough_iff hname rfl hindex rfl rfl).1.mpr (.inl hone)⟩

theorem not_matchesThrough_of_nested_array :
    let items : List Value := [.document [("r", .array [.int32 1, .int32 2])]]
    ¬MatchesThrough [("_id", .int32 1), ("h", .array items)] "h" "r" items (.int32 1) := by
  intro items hmatches
  have helement : holds [("r", .array [.int32 1, .int32 2])] [("r", .int32 1)] = .ok true := by rfl
  have hdocument : holds [("_id", .int32 1), ("h", .array items)] [("h" ++ "." ++ "r", .int32 1)]
      = .ok false := by rfl
  have hholds := hmatches.mpr ⟨_, List.mem_cons_self, helement⟩
  rw [hdocument] at hholds
  cases hholds

end Predicate
end DocQuery
