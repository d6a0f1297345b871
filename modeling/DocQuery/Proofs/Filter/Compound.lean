import DocQuery.Pattern.Standard
import DocQuery.Filter.Compile
import DocQuery.Proofs.Predicate.Evaluation

/-!
This module contains what a compound condition asks for after its pairs are merged into one document: a
pair only counts where no later pair with the same operator takes its place.
-/

namespace DocQuery

namespace Operator

def nativeNames : Operator → List String
  | eq => ["$eq"]
  | ne => ["$ne"]
  | lt => ["$lt"]
  | lte => ["$lte"]
  | gt => ["$gt"]
  | gte => ["$gte"]
  | like => ["$regex", "$options"]
  | isIn => ["$in"]
  | notIn => ["$nin"]
  | unknown _ => []

theorem names_compile (operator : Operator) (value : Value) (h : operator.compile value ≠ []) :
    Fields.names (operator.compile value) = operator.nativeNames := by
  unfold compile at h ⊢
  split
  case h_7 =>
    split
    · rfl
    · next hnone =>
      rw [hnone] at h
      exact absurd rfl h
  case h_10 => exact absurd rfl h
  all_goals rfl

theorem mem_nativeNames_of_mem {operator : Operator} {value : Value} {name : String}
    (h : name ∈ Fields.names (operator.compile value)) : name ∈ operator.nativeNames := by
  rw [← names_compile operator value]
  · exact h
  · intro hnil
    rw [hnil] at h
    cases h

theorem nodup_names_compile (operator : Operator) (value : Value) :
    (Fields.names (operator.compile value)).Nodup := by
  by_cases h : operator.compile value = []
  · rw [h]
    exact List.nodup_nil
  · rw [names_compile operator value h]
    cases operator <;> simp [nativeNames]

theorem eq_of_mem_nativeNames {first second : Operator} {name : String}
    (hfirst : name ∈ first.nativeNames) (hsecond : name ∈ second.nativeNames) : first = second := by
  cases first <;> simp only [nativeNames, List.mem_cons, List.not_mem_nil, or_false] at hfirst <;>
    cases second <;> simp_all [nativeNames]

theorem isMarked_of_mem_nativeNames {operator : Operator} {name : String}
    (h : name ∈ operator.nativeNames) : isMarked name = true := by
  cases operator <;> simp only [nativeNames, List.mem_cons, List.not_mem_nil, or_false] at h
  case like => cases h with
    | inl h => rw [h]; rfl
    | inr h => rw [h]; rfl
  all_goals
    rw [h]
    rfl

end Operator

namespace Condition

def replaces (later pair : Operator × Value) : Bool :=
  decide (later.1 = pair.1) && !(later.1.compile later.2).isEmpty

def lasting : List (Operator × Value) → List (Operator × Value)
  | [] => []
  | pair :: rest => if rest.any (replaces · pair) then lasting rest else pair :: lasting rest

def replaced : List (Operator × Value) → List (Operator × Value)
  | [] => []
  | pair :: rest => if rest.any (replaces · pair) then pair :: replaced rest else replaced rest

theorem mem_iff_lasting_or_replaced (pair : Operator × Value) (pairs : List (Operator × Value)) :
    pair ∈ pairs ↔ pair ∈ lasting pairs ∨ pair ∈ replaced pairs := by
  induction pairs with
  | nil => simp [lasting, replaced]
  | cons first rest ih =>
    rw [lasting, replaced, List.mem_cons, ih]
    split
    · rw [List.mem_cons]
      exact or_left_comm
    · rw [List.mem_cons, or_assoc]

theorem replaces_of_mem_names {later pair : Operator × Value} {name : String}
    (hpair : name ∈ Fields.names (pair.1.compile pair.2))
    (hlater : name ∈ Fields.names (later.1.compile later.2)) : replaces later pair = true := by
  have hop : later.1 = pair.1 := by
    apply Operator.eq_of_mem_nativeNames
    · exact Operator.mem_nativeNames_of_mem hlater
    · exact Operator.mem_nativeNames_of_mem hpair
  have hne : (later.1.compile later.2).isEmpty = false := by
    rw [List.isEmpty_eq_false_iff]
    intro hnil
    rw [hnil] at hlater
    cases hlater
  rw [replaces, hne, hop]
  simp

theorem mem_names_of_replaces {later pair : Operator × Value} {name : String}
    (h : replaces later pair = true) (hpair : name ∈ Fields.names (pair.1.compile pair.2)) :
    name ∈ Fields.names (later.1.compile later.2) := by
  simp only [replaces, Bool.and_eq_true, decide_eq_true_eq, Bool.not_eq_true',
    List.isEmpty_eq_false_iff] at h
  rw [Operator.names_compile _ _ h.2, h.1]
  exact Operator.mem_nativeNames_of_mem hpair

theorem get?_compileOnto (pairs : List (Operator × Value)) (below : Document) (name : String)
    (value : Value) :
    Fields.get? (pairs.foldl (fun merged pair => Fields.merge merged (pair.1.compile pair.2)) below) name
        = some value
      ↔
    (∃ pair ∈ lasting pairs, (name, value) ∈ pair.1.compile pair.2) ∨
      ((∀ pair ∈ pairs, name ∉ Fields.names (pair.1.compile pair.2)) ∧
        Fields.get? below name = some value) := by
  -- what the first pair writes is below what the other pairs write
  induction pairs generalizing below with
  | nil => simp [lasting]
  | cons pair rest ih =>
    have hnodup := Operator.nodup_names_compile pair.1 pair.2
    rw [List.foldl_cons, ih, Fields.get?_merge _ _ hnodup, lasting]
    cases hget : Fields.get? (pair.1.compile pair.2) name with
    | none =>
      have hname := (Fields.get?_eq_none_iff _ _).mp hget
      have hmem : (name, value) ∉ pair.1.compile pair.2 := fun hmem =>
        hname (List.mem_map_of_mem hmem)
      split <;> simp [hname, hmem]
    | some found =>
      have hname : name ∈ Fields.names (pair.1.compile pair.2) :=
        List.mem_map_of_mem (Fields.mem_of_get? hget)
      have hmem : (name, value) ∈ pair.1.compile pair.2 ↔ found = value := by
        constructor
        · intro hmem
          rw [Fields.get?_of_mem hnodup hmem] at hget
          exact (Option.some.inj hget).symm
        · intro heq
          rw [← heq]
          exact Fields.mem_of_get? hget
      have hfirst : ¬ ((∀ other ∈ pair :: rest, name ∉ Fields.names (other.1.compile other.2)) ∧
          Fields.get? below name = some value) := fun h => h.1 pair List.mem_cons_self hname
      rw [or_iff_left hfirst]
      split
      -- a later pair with the operator writes every name that the first pair writes
      · next hany =>
        rw [List.any_eq_true] at hany
        rcases hany with ⟨later, hlater, hreplaces⟩
        have hwritten := mem_names_of_replaces hreplaces hname
        rw [or_iff_left fun h => h.1 later hlater hwritten]
      · next hany =>
        have hrest : ∀ later ∈ rest, name ∉ Fields.names (later.1.compile later.2) := by
          intro later hlater hwritten
          apply hany
          rw [List.any_eq_true]
          exact ⟨later, hlater, replaces_of_mem_names hname hwritten⟩
        rw [and_iff_right hrest, Option.some_or, Option.some_inj, ← hmem]
        simp only [List.mem_cons, or_and_right, exists_or, exists_eq_left]
        exact or_comm

theorem nodup_names_compileOnto (pairs : List (Operator × Value)) (below : Document)
    (h : (Fields.names below).Nodup) :
    (Fields.names (pairs.foldl (fun merged pair => Fields.merge merged (pair.1.compile pair.2)) below)).Nodup := by
  induction pairs generalizing below with
  | nil => exact h
  | cons pair rest ih =>
    rw [List.foldl_cons]
    apply ih
    apply Fields.nodup_names_merge
    exact h

theorem nodup_names_compilePairs (pairs : List (Operator × Value)) :
    (Fields.names (compilePairs pairs)).Nodup := by
  apply nodup_names_compileOnto
  exact List.nodup_nil

theorem mem_compilePairs_iff (pairs : List (Operator × Value)) (clause : String × Value) :
    clause ∈ compilePairs pairs ↔ ∃ pair ∈ lasting pairs, clause ∈ pair.1.compile pair.2 := by
  have hnodup := nodup_names_compilePairs pairs
  have hget := get?_compileOnto pairs [] clause.1 clause.2
  rw [← compilePairs] at hget
  simp only [Fields.get?_nil, reduceCtorEq, and_false, or_false] at hget
  rw [← hget]
  constructor
  · intro hmem
    exact Fields.get?_of_mem hnodup hmem
  · intro hfound
    exact Fields.mem_of_get? hfound

def meetsClause [Pattern.Engine] (field : String) (document : Document) (clause : String × Value) : Prop :=
  Predicate.isConnective field = false ∧
    (clause.1 ≠ "$options" →
      Predicate.passes (document.resolve? (.ofString field)) [("$options", .string "i")] clause.1 clause.2
        = .ok true)

theorem holds_clauses_iff [Pattern.Engine] (field : String) (document : Document) {ops : Document}
    (hne : ops ≠ []) (hmarked : ∀ clause ∈ ops, isMarked clause.1 = true)
    (hoptions : "$regex" ∈ Fields.names ops → Predicate.patternOptions ops = "i") :
    Predicate.holds document [(field, .document ops)] = .ok true
      ↔
    ∀ clause ∈ ops, meetsClause field document clause := by
  -- the options of a pattern are always the same, so that a clause means the same by itself
  have hpasses : ∀ clause ∈ ops,
      Predicate.passes (document.resolve? (.ofString field)) ops clause.1 clause.2
        =
      Predicate.passes (document.resolve? (.ofString field)) [("$options", .string "i")] clause.1
        clause.2 := by
    intro clause hmem
    apply Predicate.passes_congr
    intro hregex
    rw [hoptions]
    · rfl
    · rw [← hregex]
      exact List.mem_map_of_mem hmem
  have hops : Document.isOperators ops = true := by
    cases ops with
    | nil => exact absurd rfl hne
    | cons first rest => exact hmarked first List.mem_cons_self
  rw [Predicate.holds_operators _ _ _ hops, Predicate.passesAll_eq_true_iff]
  constructor
  · intro h clause hmem
    refine ⟨h.1, fun hname => ?_⟩
    rw [← hpasses clause hmem]
    exact h.2 clause hmem hname
  · intro h
    rcases List.exists_mem_of_ne_nil ops hne with ⟨first, hfirst⟩
    refine ⟨(h first hfirst).1, fun clause hmem hname => ?_⟩
    rw [hpasses clause hmem]
    exact (h clause hmem).2 hname

theorem isMarked_of_mem_compile {pair : Operator × Value} {clause : String × Value}
    (h : clause ∈ pair.1.compile pair.2) : isMarked clause.1 = true := by
  apply Operator.isMarked_of_mem_nativeNames
  apply Operator.mem_nativeNames_of_mem
  exact List.mem_map_of_mem h

theorem mem_options_of_mem_regex {pair : Operator × Value}
    (h : "$regex" ∈ Fields.names (pair.1.compile pair.2)) :
    ("$options", .string "i") ∈ pair.1.compile pair.2 := by
  have hlike : pair.1 = .like := by
    apply Operator.eq_of_mem_nativeNames
    · exact Operator.mem_nativeNames_of_mem h
    · simp [Operator.nativeNames]
  rw [hlike] at h ⊢
  unfold Operator.compile at h ⊢
  dsimp only at h ⊢
  split
  · simp
  · next hnone =>
    rw [hnone] at h
    cases h

theorem patternOptions_of_mem {ops : Document} (hnodup : (Fields.names ops).Nodup)
    (h : ("$options", .string "i") ∈ ops) : Predicate.patternOptions ops = "i" := by
  rw [Predicate.patternOptions, Fields.get?_of_mem hnodup h]
  rfl

theorem patternOptions_compilePairs {pairs : List (Operator × Value)}
    (h : "$regex" ∈ Fields.names (compilePairs pairs)) :
    Predicate.patternOptions (compilePairs pairs) = "i" := by
  rcases List.mem_map.mp h with ⟨clause, hmem, hname⟩
  rcases (mem_compilePairs_iff pairs clause).mp hmem with ⟨pair, hpair, hclause⟩
  apply patternOptions_of_mem
  · exact nodup_names_compilePairs pairs
  · rw [mem_compilePairs_iff]
    refine ⟨pair, hpair, mem_options_of_mem_regex ?_⟩
    rw [← hname]
    exact List.mem_map_of_mem hclause

section

variable [Pattern.Engine]

def holdsAt (field : String) (document : Document) (condition : Condition) : Prop :=
  ∀ native, condition.compile? = some native → Predicate.holds document [(field, native)] = .ok true

/--
Does a document meet every pair by itself? Pairs that are compiled to nothing do not count.
-/
def eachHolds (field : String) (document : Document) (pairs : List (Operator × Value)) : Prop :=
  ∀ pair ∈ pairs, pair.1.compile pair.2 ≠ [] →
    Predicate.holds document [(field, .document (pair.1.compile pair.2))] = .ok true

theorem eachHolds_iff (field : String) (document : Document) (pairs : List (Operator × Value)) :
    eachHolds field document pairs
      ↔
    ∀ pair ∈ pairs, ∀ clause ∈ pair.1.compile pair.2, meetsClause field document clause := by
  unfold eachHolds
  apply forall₂_congr
  intro pair _
  by_cases hnil : pair.1.compile pair.2 = []
  · simp [hnil]
  · rw [← holds_clauses_iff field document hnil]
    · simp [hnil]
    · intro clause hmem
      exact isMarked_of_mem_compile hmem
    · intro hregex
      apply patternOptions_of_mem
      · exact Operator.nodup_names_compile pair.1 pair.2
      · exact mem_options_of_mem_regex hregex

theorem holdsAt_all_iff (field : String) (document : Document) (pairs : List (Operator × Value)) :
    (Condition.all pairs).holdsAt field document
      ↔
    ∀ clause ∈ compilePairs pairs, meetsClause field document clause := by
  simp only [holdsAt, compile?]
  split
  · next hnil => simp [hnil]
  · next hne =>
    rw [← holds_clauses_iff field document hne]
    · simp
    · intro clause hmem
      rcases (mem_compilePairs_iff pairs clause).mp hmem with ⟨pair, _, hclause⟩
      exact isMarked_of_mem_compile hclause
    · exact patternOptions_compilePairs

theorem holdsAt_all_iff_lasting (field : String) (document : Document)
    (pairs : List (Operator × Value)) :
    (Condition.all pairs).holdsAt field document ↔ eachHolds field document (lasting pairs) := by
  rw [holdsAt_all_iff, eachHolds_iff]
  simp only [mem_compilePairs_iff]
  constructor
  · intro h pair hpair clause hclause
    exact h clause ⟨pair, hpair, hclause⟩
  · rintro h clause ⟨pair, hpair, hclause⟩
    exact h pair hpair clause hclause

theorem eachHolds_iff_lasting_and_replaced (field : String) (document : Document)
    (pairs : List (Operator × Value)) :
    eachHolds field document pairs
      ↔
    eachHolds field document (lasting pairs) ∧ eachHolds field document (replaced pairs) := by
  unfold eachHolds
  constructor
  · intro h
    constructor
    · intro pair hmem
      exact h pair ((mem_iff_lasting_or_replaced pair pairs).mpr (Or.inl hmem))
    · intro pair hmem
      exact h pair ((mem_iff_lasting_or_replaced pair pairs).mpr (Or.inr hmem))
  · intro h pair hmem
    cases (mem_iff_lasting_or_replaced pair pairs).mp hmem with
    | inl hlasting => exact h.1 pair hlasting
    | inr hreplaced => exact h.2 pair hreplaced

omit [Pattern.Engine] in
theorem replaced_of_nodup {pairs : List (Operator × Value)} (h : (pairs.map Prod.fst).Nodup) :
    replaced pairs = [] := by
  induction pairs with
  | nil => rfl
  | cons pair rest ih =>
    rw [List.map_cons, List.nodup_cons] at h
    rw [replaced, if_neg, ih h.2]
    intro hany
    rw [List.any_eq_true] at hany
    rcases hany with ⟨later, hlater, hreplaces⟩
    simp only [replaces, Bool.and_eq_true, decide_eq_true_eq] at hreplaces
    apply h.1
    rw [← hreplaces.1]
    exact List.mem_map_of_mem hlater

theorem holdsAt_all_iff_eachHolds_iff (field : String) (document : Document)
    (pairs : List (Operator × Value)) :
    ((Condition.all pairs).holdsAt field document ↔ eachHolds field document (lasting pairs))
      ∧
    (((Condition.all pairs).holdsAt field document ↔ eachHolds field document pairs)
      ↔
    (eachHolds field document (lasting pairs) → eachHolds field document (replaced pairs)))
      ∧
    ((pairs.map Prod.fst).Nodup →
      ((Condition.all pairs).holdsAt field document ↔ eachHolds field document pairs)) := by
  have hlasting := holdsAt_all_iff_lasting field document pairs
  have hsplit := eachHolds_iff_lasting_and_replaced field document pairs
  have hlaw : ((Condition.all pairs).holdsAt field document ↔ eachHolds field document pairs)
        ↔
      (eachHolds field document (lasting pairs) → eachHolds field document (replaced pairs)) := by
    rw [hlasting, hsplit]
    exact iff_self_and
  refine ⟨hlasting, hlaw, ?_⟩
  intro hnodup
  rw [hlaw, replaced_of_nodup hnodup]
  intro _ pair hmem
  cases hmem

end

theorem holdsAt_all_iff_eachHolds_range :
    ([(.parse ">=", .int32 18), (.parse "<", .int32 65), (.parse "like", .null)].map
        (Prod.fst : Operator × Value → Operator)).Nodup
      ∧
    ((Condition.all [(.parse ">=", .int32 18), (.parse "<", .int32 65), (.parse "like", .null)]).holdsAt
        "age" [("age", .int32 20)]
      ↔
    eachHolds "age" [("age", .int32 20)]
      [(.parse ">=", .int32 18), (.parse "<", .int32 65), (.parse "like", .null)]) := by
  have hnodup : ([(.parse ">=", .int32 18), (.parse "<", .int32 65), (.parse "like", .null)].map
      (Prod.fst : Operator × Value → Operator)).Nodup := by decide
  exact ⟨hnodup, (holdsAt_all_iff_eachHolds_iff "age" [("age", .int32 20)] _).2.2 hnodup⟩

theorem not_eachHolds_of_repeated_ne :
    ¬ ((Condition.all [(.parse "!=", .int32 1), (.parse "<>", .int32 2)]).holdsAt "a" [("a", .int32 1)]
        ↔
      eachHolds "a" [("a", .int32 1)] [(.parse "!=", .int32 1), (.parse "<>", .int32 2)]) := by
  have hheld : (Condition.all [(.parse "!=", .int32 1), (.parse "<>", .int32 2)]).holdsAt "a"
      [("a", .int32 1)] := by
    intro native hnative
    cases hnative
    rfl
  intro hlaw
  have hfirst := hlaw.mp hheld _ List.mem_cons_self (List.cons_ne_nil _ _)
  cases hfirst

end Condition
end DocQuery
