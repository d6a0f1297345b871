import DocQuery.Filter.Basic

/-!
This module contains the writing of filters as values, and the proof that a filter which is written and read
again is the same filter, unless it holds something that reads as something else.
-/

namespace DocQuery
namespace Operator

def tokens : List String := ["=", "!=", "<>", "<", "<=", ">", ">=", "like", "in", "not in"]

def IsPlain : Operator → Prop
  | unknown token => Text.trim token = token ∧ Text.lowercase token = token ∧ token ∉ tokens
  | _ => True

instance : DecidablePred IsPlain
  | unknown token =>
    inferInstanceAs (Decidable (Text.trim token = token ∧ Text.lowercase token = token ∧ token ∉ tokens))
  | eq | ne | lt | lte | gt | gte | like | isIn | notIn => inferInstanceAs (Decidable True)

theorem ofToken_of_not_mem {token : String} (h : token ∉ tokens) : ofToken token = unknown token := by
  unfold ofToken
  split
  case h_11 => rfl
  all_goals simp [tokens] at h

theorem parse_token {operator : Operator} (h : operator.IsPlain) : parse operator.token = operator := by
  cases operator with
  | unknown token =>
    rcases h with ⟨htrim, hlowercase, hunknown⟩
    rw [parse, Operator.token, htrim, hlowercase]
    exact ofToken_of_not_mem hunknown
  | _ => decide +kernel

end Operator

namespace Condition

def writePair (pair : Operator × Value) : Value := .array [.string pair.1.token, pair.2]

def toValue : Condition → Value
  | .equals value => value
  | .between low high => .array [.string "between", low, high]
  | .all pairs => .array (pairs.map writePair)

def IsPlain : Condition → Prop
  | .equals (.array _) => False
  | .equals _ | .between _ _ => True
  | .all pairs => ∀ pair ∈ pairs, pair.1.IsPlain

theorem readPair_writePair {pair : Operator × Value} (h : pair.1.IsPlain) :
    readPair (writePair pair) = pair := by
  rw [writePair, readPair, readOperator, Operator.parse_token h]
  rfl

theorem ofValue_written {condition : Condition} (h : condition.IsPlain) :
    ofValue condition.toValue = condition := by
  cases condition with
  | equals value =>
    cases value with
    | array => cases h
    | _ => rfl
  | between low high => rfl
  | all pairs =>
    have hread : (pairs.map writePair).map readPair = pairs := by
      rw [List.map_map]
      exact (List.map_congr_left fun pair hmem => readPair_writePair (h pair hmem)).trans (List.map_id pairs)
    cases pairs with
    | nil => rfl
    | cons pair rest => exact congrArg Condition.all hread

end Condition

namespace Filter

def writeEntry (entry : String × Condition) : String × Value := (entry.1, entry.2.toValue)

mutual

def toValue : Filter → Value
  | .fields conditions => .document (Fields.ofList (conditions.map writeEntry))
  | .logical conjunct alternatives =>
    .document (writeConjunct conjunct ++ writeAlternatives alternatives)
  | .any members => .array (toValues members)

def toValues : List Filter → List Value
  | [] => []
  | filter :: rest => filter.toValue :: toValues rest

def writeConjunct : Option Filter → Document
  | none => []
  | some filter => [("and", filter.toValue)]

def writeAlternatives : Option (List Filter) → Document
  | none => []
  | some members => [("or", .array (toValues members))]

end

/--
The filters that read as themselves when they are written. Each of the conditions of a leaf has to, and none
may stand under a name that makes a document logical; a logical filter has to ask for something.
-/
inductive IsPlain : Filter → Prop where
  | fields {conditions} (hnames : (Fields.names conditions).Nodup)
    (hconditions : ∀ entry ∈ conditions, entry.2.IsPlain)
    (hleaf : ∀ entry ∈ conditions, entry.1 = "and" ∨ entry.1 = "or" →
      entry.2 = .equals .null ∨ entry.2 = .equals .undefined) :
    IsPlain (.fields conditions)
  | logical {conjunct alternatives} (hsome : conjunct.isSome ∨ alternatives.isSome)
    (hc : ∀ filter, conjunct = some filter → IsPlain filter)
    (ha : ∀ members, alternatives = some members → ∀ filter ∈ members, IsPlain filter) :
    IsPlain (.logical conjunct alternatives)
  | any {members} (h : ∀ filter ∈ members, IsPlain filter) : IsPlain (.any members)

theorem readConjunct_eq_none {entries : Document} (h : ∀ entry ∈ entries, entry.1 = "and" →
    entry.2.isDefined = false) : readConjunct entries = none := by
  induction entries with
  | nil => rw [readConjunct]
  | cons entry rest ih =>
    rw [List.forall_mem_cons] at h
    rw [readConjunct, ih h.2]
    split
    · next hname => simp [h.1 hname]
    · rfl

theorem readAlternatives_cons_of_ne {name : String} (value : Value) (rest : Document)
    (h : name ≠ "or") : readAlternatives ((name, value) :: rest) = readAlternatives rest := by
  cases value with
  | array items => rw [readAlternatives, if_neg h]
  | _ =>
    rw [readAlternatives, if_neg h]
    simp

theorem readAlternatives_eq_none {entries : Document} (h : ∀ entry ∈ entries, entry.1 = "or" →
    entry.2.isDefined = false) : readAlternatives entries = none := by
  induction entries with
  | nil => rw [readAlternatives]
  | cons entry rest ih =>
    rcases entry with ⟨name, value⟩
    rw [List.forall_mem_cons] at h
    by_cases hname : name = "or"
    · have hundefined := h.1 hname
      cases value with
      | null | undefined =>
        rw [readAlternatives, if_pos hname, hundefined]
        · rfl
        · simp
      | _ => cases hundefined
    · rw [readAlternatives_cons_of_ne value rest hname]
      exact ih h.2

theorem ofValues_toValues {members : List Filter}
    (h : ∀ filter ∈ members, ofValue filter.toValue = filter) : ofValues (toValues members) = members := by
  induction members with
  | nil => rw [toValues, ofValues]
  | cons filter rest ih =>
    rw [List.forall_mem_cons] at h
    rw [toValues, ofValues, h.1, ih h.2]

theorem isDefined_toValue (filter : Filter) : filter.toValue.isDefined = true := by
  cases filter with
  | fields | logical | any =>
    rw [toValue]
    rfl

theorem readConjunct_written {conjunct : Option Filter} (alternatives : Option (List Filter))
    (h : ∀ filter, conjunct = some filter → ofValue filter.toValue = filter) :
    readConjunct (writeConjunct conjunct ++ writeAlternatives alternatives) = conjunct := by
  cases conjunct with
  | none =>
    apply readConjunct_eq_none
    intro entry hmem hname
    cases alternatives with
    | none => cases hmem
    | some members =>
      rw [List.mem_singleton.mp hmem] at hname
      simp at hname
  | some filter =>
    rw [writeConjunct, List.singleton_append, readConjunct, if_pos rfl, isDefined_toValue, h filter rfl]
    rfl

theorem readAlternatives_written (conjunct : Option Filter) {alternatives : Option (List Filter)}
    (h : ∀ members, alternatives = some members → ∀ filter ∈ members, ofValue filter.toValue = filter) :
    readAlternatives (writeConjunct conjunct ++ writeAlternatives alternatives) = alternatives := by
  have hskip : readAlternatives (writeConjunct conjunct ++ writeAlternatives alternatives)
      = readAlternatives (writeAlternatives alternatives) := by
    cases conjunct with
    | none => rfl
    | some filter =>
      apply readAlternatives_cons_of_ne
      decide
  rw [hskip]
  cases alternatives with
  | none => rw [writeAlternatives, readAlternatives]
  | some members =>
    rw [writeAlternatives, readAlternatives, if_pos rfl, ofValues_toValues (h members rfl)]

theorem ofValue_written_fields {conditions : List (String × Condition)}
    (hnames : (Fields.names conditions).Nodup) (hconditions : ∀ entry ∈ conditions, entry.2.IsPlain)
    (hleaf : ∀ entry ∈ conditions, entry.1 = "and" ∨ entry.1 = "or" →
      entry.2 = .equals .null ∨ entry.2 = .equals .undefined) :
    ofValue (toValue (.fields conditions)) = .fields conditions := by
  have hwritten : Fields.ofList (conditions.map writeEntry) = conditions.map writeEntry := by
    apply Fields.ofList_of_nodup
    rw [Fields.names, List.map_map]
    exact hnames
  have hundefined : ∀ entry ∈ conditions.map writeEntry, entry.1 = "and" ∨ entry.1 = "or" →
      entry.2.isDefined = false := by
    rw [List.forall_mem_map]
    intro entry hmem hname
    cases hleaf entry hmem hname with
    | inl h | inr h =>
      rw [writeEntry, h]
      rfl
  have hread : (conditions.map writeEntry).map (fun entry => (entry.1, Condition.ofValue entry.2))
      = conditions := by
    rw [List.map_map]
    refine (List.map_congr_left fun entry hmem => ?_).trans (List.map_id conditions)
    exact congrArg (entry.1, ·) (Condition.ofValue_written (hconditions entry hmem))
  rw [toValue, hwritten, ofValue]
  rw [readConjunct_eq_none fun entry hmem hname => hundefined entry hmem (Or.inl hname)]
  rw [readAlternatives_eq_none fun entry hmem hname => hundefined entry hmem (Or.inr hname)]
  exact congrArg Filter.fields hread

theorem ofValue_toValue {filter : Filter} (h : filter.IsPlain) : ofValue filter.toValue = filter := by
  induction h with
  | fields hnames hconditions hleaf => exact ofValue_written_fields hnames hconditions hleaf
  | @logical conjunct alternatives hsome _ _ ihc iha =>
    rw [toValue, ofValue, readConjunct_written alternatives ihc, readAlternatives_written conjunct iha]
    -- only a document that says nothing under both names is taken for a leaf
    split
    · simp at hsome
    · rfl
  | any _ ih => rw [toValue, ofValue, ofValues_toValues ih]

theorem ofValue_toValue_nested :
    let leaf : Filter := .fields [("price", .between (.int32 10) .null), ("and", .equals .undefined),
      ("age", .all [(.gt, .int32 18), (.ne, .int32 20), (.unknown "~=", .array [])])]
    let filter : Filter := .logical (some (.any [leaf, .fields []])) (some [.logical none (some []), .any []])
    filter.IsPlain
      ∧
    filter.toValue = .document [
      ("and", .array [
        .document [
          ("price", .array [.string "between", .int32 10, .null]),
          ("and", .undefined),
          ("age", .array [
            .array [.string ">", .int32 18],
            .array [.string "!=", .int32 20],
            .array [.string "~=", .array []]])],
        .document []]),
      ("or", .array [.document [("or", .array [])], .array []])]
      ∧
    ofValue filter.toValue = filter := by
  intro leaf filter
  have hpairs : Condition.IsPlain (.all [(.gt, .int32 18), (.ne, .int32 20), (.unknown "~=", .array [])]) := by
    unfold Condition.IsPlain
    decide +kernel
  have hleaf : leaf.IsPlain := by
    apply IsPlain.fields
    · decide
    · exact List.forall_mem_cons.mpr ⟨trivial, List.forall_mem_cons.mpr ⟨trivial,
        List.forall_mem_singleton.mpr hpairs⟩⟩
    · simp
  have hempty : IsPlain (.fields []) := .fields List.nodup_nil (by simp) (by simp)
  have hdisj : IsPlain (.logical none (some [])) := .logical (Or.inr rfl) (by simp) (by simp)
  have hplain : filter.IsPlain := by
    apply IsPlain.logical (Or.inl rfl)
    · rintro _ ⟨⟩
      apply IsPlain.any
      exact List.forall_mem_cons.mpr ⟨hleaf, List.forall_mem_singleton.mpr hempty⟩
    · rintro _ ⟨⟩
      exact List.forall_mem_cons.mpr ⟨hdisj, List.forall_mem_singleton.mpr (.any (by simp))⟩
  exact ⟨hplain, rfl, ofValue_toValue hplain⟩

end Filter
end DocQuery
