import DocQuery.Proofs.Store.Inserts
import Mathlib.Data.List.Perm.Basic

/-!
This module contains whether documents can be inserted in every order or only in some. A new id is refused if it
is an element of a stored id that is an array, but not the other way round, so that the order matters exactly
where an id is an element of another one and the ids could all be stored in some order.
-/

namespace DocQuery
namespace Collated

mutual

def depth : Collated → Nat
  | .array items => depthItems items + 1
  | _ => 0

def depthItems : List Collated → Nat
  | [] => 0
  | item :: rest => max item.depth (depthItems rest)

end

mutual

theorem depth_eq_of_same : ∀ a b : Collated, a.same b = true → a.depth = b.depth
  | .array as, b, h => by
    cases b with
    | array bs => rw [depth, depth, depthItems_eq_of_sameItems as bs h]
    | _ => cases h
  | .null, b, h | .number _, b, h | .string _, b, h | .map _, b, h | .objectId _, b, h | .bool _, b, h
  | .dateTime _, b, h | .other _, b, h => by
    cases b with
    | array => cases h
    | _ => rfl

theorem depthItems_eq_of_sameItems : ∀ as bs : List Collated, sameItems as bs = true →
    depthItems as = depthItems bs
  | [], [], _ => rfl
  | [], _ :: _, h | _ :: _, [], h => by cases h
  | a :: as, b :: bs, h => by
    rw [sameItems, Bool.and_eq_true] at h
    rw [depthItems, depthItems, depth_eq_of_same a b h.1, depthItems_eq_of_sameItems as bs h.2]

end

end Collated

namespace Value

def depth (value : Value) : Nat := value.collate.depth

theorem depth_lt_of_mem {items : List Value} {item : Value} (h : item ∈ items) :
    item.depth < (Value.array items).depth := by
  unfold depth
  rw [collate, Collated.depth]
  induction items with
  | nil => cases h
  | cons first rest ih =>
    rw [collateItems, Collated.depthItems]
    cases List.mem_cons.mp h with
    | inl h =>
      rw [h]
      omega
    | inr h =>
      have hlt := ih h
      omega

end Value

namespace Document

def sharesId (first second : Document) : Bool :=
  match first.id?, second.id? with
  | some a, some b => a.equals b
  | _, _ => false

def listsId (first second : Document) : Bool :=
  match first.id?, second.id? with
  | some (.array items), some b => items.any (·.equals b)
  | _, _ => false

def blocks (first second : Document) : Bool := second.id?.any first.hasId

variable {first second : Document}

theorem blocks_eq (h : first.id?.isSome) :
    first.blocks second = (first.sharesId second || first.listsId second) := by
  obtain ⟨a, ha⟩ := Option.isSome_iff_exists.mp h
  unfold blocks sharesId listsId hasId
  rw [← id?, ha]
  cases second.id? with
  | none => cases a <;> rfl
  | some b => cases a <;> rfl

theorem sharesId_comm (first second : Document) : first.sharesId second = second.sharesId first := by
  unfold sharesId
  cases first.id? with
  | none => cases second.id? <;> rfl
  | some a =>
    cases second.id? with
    | none => rfl
    | some b => apply Value.equals_comm

def idDepth (document : Document) : Nat := (document.id?.map Value.depth).getD 0

theorem idDepth_lt_of_listsId (h : first.listsId second = true) : second.idDepth < first.idDepth := by
  unfold listsId at h
  split at h
  · next items b hfirst hsecond =>
    obtain ⟨item, hmem, hequals⟩ := List.any_eq_true.mp h
    have hdepth : item.depth = b.depth := Collated.depth_eq_of_same _ _ hequals
    have hlt := Value.depth_lt_of_mem hmem
    simp only [idDepth, hfirst, hsecond, Option.map_some, Option.getD_some]
    omega
  · cases h

end Document

def Admissible (documents : List Document) : Prop :=
  documents.Pairwise fun first second => first.blocks second = false

/--
Documents of which two have equal ids, or none of which has an id that is an element of another one's. They can
be stored in no order or in every one.
-/
def OrderFree (documents : List Document) : Prop :=
  (¬documents.Pairwise fun first second => first.sharesId second = false)
    ∨
  documents.Pairwise fun first second => first.listsId second = false ∧ second.listsId first = false

section

variable {documents other : List Document} (hids : ∀ document ∈ documents, document.id?.isSome)

include hids

theorem pairwise_not_sharesId (h : Admissible documents) :
    documents.Pairwise fun first second => first.sharesId second = false := by
  apply List.Pairwise.imp_of_mem _ h
  intro first second hfirst _ hblocks
  rw [Document.blocks_eq (hids first hfirst), Bool.or_eq_false_iff] at hblocks
  exact hblocks.1

theorem exists_admissible (h : documents.Pairwise fun first second => first.sharesId second = false) :
    ∃ other, documents.Perm other ∧ Admissible other := by
  let sorted := documents.mergeSort fun first second => first.idDepth ≤ second.idDepth
  have hperm : documents.Perm sorted := (List.mergeSort_perm _ _).symm
  have hdepth : sorted.Pairwise fun first second => first.idDepth ≤ second.idDepth := by
    have hsorted : sorted.Pairwise fun first second => decide (first.idDepth ≤ second.idDepth) = true := by
      apply List.pairwise_mergeSort
      · simp only [decide_eq_true_eq]
        omega
      · simp only [Bool.or_eq_true, decide_eq_true_eq]
        omega
    simpa using hsorted
  have hdiffer : sorted.Pairwise fun first second => first.sharesId second = false := by
    apply h.perm hperm
    intro first second hdiffers
    rw [Document.sharesId_comm]
    exact hdiffers
  refine ⟨sorted, hperm, ?_⟩
  apply List.Pairwise.imp_of_mem _ (hdepth.and hdiffer)
  rintro first second hfirst _ ⟨hle, hdiffers⟩
  rw [Document.blocks_eq (hids first (hperm.mem_iff.mpr hfirst)), hdiffers, Bool.false_or]
  rw [Bool.eq_false_iff]
  intro hlists
  have hlt := Document.idDepth_lt_of_listsId hlists
  omega

theorem exists_not_admissible
    (h : ¬documents.Pairwise fun first second => first.listsId second = false ∧ second.listsId first = false) :
    ∃ other, documents.Perm other ∧ ¬Admissible other := by
  have hrefused : ∀ first second rest, documents.Perm (first :: second :: rest) → first.listsId second = true →
      ∃ other, documents.Perm other ∧ ¬Admissible other := by
    intro first second rest hperm hlists
    refine ⟨_, hperm, fun hadmissible => ?_⟩
    have hblocks := (List.pairwise_cons.mp hadmissible).1 second List.mem_cons_self
    have hid := hids first (hperm.mem_iff.mpr List.mem_cons_self)
    rw [Document.blocks_eq hid, hlists, Bool.or_true] at hblocks
    cases hblocks
  rw [List.pairwise_iff_forall_sublist] at h
  simp only [not_forall] at h
  obtain ⟨first, second, hsublist, hlists⟩ := h
  obtain ⟨rest, hperm⟩ := hsublist.exists_perm_append
  rw [← Bool.or_eq_false_iff, Bool.not_eq_false, Bool.or_eq_true] at hlists
  cases hlists with
  | inl hlists => exact hrefused first second rest hperm hlists
  | inr hlists => exact hrefused second first rest (hperm.trans (List.Perm.swap second first rest)) hlists

theorem admissible_iff_of_not_listsId
    (h : documents.Pairwise fun first second => first.listsId second = false ∧ second.listsId first = false) :
    Admissible documents ↔ documents.Pairwise fun first second => first.sharesId second = false := by
  constructor
  · apply pairwise_not_sharesId
    exact hids
  · intro hdiffer
    apply List.Pairwise.imp_of_mem _ (hdiffer.and h)
    intro first second hfirst _ hnone
    rw [Document.blocks_eq (hids first hfirst), hnone.1, hnone.2.1, Bool.or_false]

theorem admissible_perm_iff_orderFree :
    (∀ other, documents.Perm other → (Admissible documents ↔ Admissible other)) ↔ OrderFree documents := by
  have hsymm : ∀ {first second : Document}, first.sharesId second = false → second.sharesId first = false := by
    intro first second hdiffers
    rw [Document.sharesId_comm]
    exact hdiffers
  constructor
  · intro hsame
    rw [OrderFree, or_iff_not_imp_left, not_not]
    intro hdiffer
    by_contra hlists
    obtain ⟨accepted, haccepted, hadmissible⟩ := exists_admissible hids hdiffer
    obtain ⟨refused, hrefused, hnot⟩ := exists_not_admissible hids hlists
    apply hnot
    rw [← hsame refused hrefused, hsame accepted haccepted]
    exact hadmissible
  · intro hfree other hperm
    have hothers : ∀ document ∈ other, document.id?.isSome :=
      fun document hmem => hids document (hperm.mem_iff.mpr hmem)
    cases hfree with
    | inl hshares =>
      -- two equal ids are refused in both orders
      have hnot : ¬Admissible documents := fun h => hshares (pairwise_not_sharesId hids h)
      have hnotOther : ¬Admissible other := by
        intro h
        apply hshares
        rw [hperm.pairwise_iff hsymm]
        exact pairwise_not_sharesId hothers h
      simp [hnot, hnotOther]
    | inr hlists =>
      -- where no id is an element of another one, it is refused by the same ids in both orders
      have hother : other.Pairwise fun first second => first.listsId second = false ∧ second.listsId first = false :=
        (hperm.pairwise_iff And.symm).mp hlists
      rw [admissible_iff_of_not_listsId hids hlists, admissible_iff_of_not_listsId hothers hother]
      exact hperm.pairwise_iff hsymm

end

theorem orderFree_of_not_array {documents : List Document}
    (h : ∀ document ∈ documents, ∀ items, document.id? ≠ some (.array items)) :
    OrderFree documents := by
  apply Or.inr
  have hnone : ∀ first ∈ documents, ∀ second : Document, first.listsId second = false := by
    intro first hfirst second
    unfold Document.listsId
    split
    · next items _ harray _ => exact absurd harray (h first hfirst items)
    · rfl
  apply List.pairwise_of_forall_mem_list
  intro first hfirst second hsecond
  exact ⟨hnone first hfirst second, hnone second hsecond first⟩

namespace Store

theorem isOk_stage_iff {existing staged documents : List Document} {collection : String} {nextId : ObjectId}
    {ids : List Value} (hids : ∀ document ∈ documents, document.id?.isSome) :
    (stage existing collection nextId staged ids documents).1.isOk
      ↔
    (∀ document ∈ documents, ∀ earlier ∈ existing ++ staged, earlier.blocks document = false)
      ∧ Admissible documents := by
  induction documents generalizing staged ids with
  | nil => simp [stage, Except.isOk, Except.toBool, Admissible]
  | cons document rest ih =>
    rw [List.forall_mem_cons] at hids
    obtain ⟨id, hid⟩ := Option.isSome_iff_exists.mp hids.1
    have hblocks : ∀ earlier : Document, earlier.blocks document = earlier.hasId id := by simp [Document.blocks, hid]
    rw [stage_cons, Document.ensureId_of_id? hid, Admissible, List.pairwise_cons, ← Admissible,
      List.forall_mem_cons]
    simp only [hblocks]
    cases hunique : checkUnique (existing ++ staged) id collection with
    | error failure =>
      have htaken : ¬∀ earlier ∈ existing ++ staged, earlier.hasId id = false := by
        rw [← checkUnique_eq_ok_iff, hunique]
        simp
      constructor
      · intro hok
        cases hok
      · rintro ⟨⟨hfree, _⟩, _⟩
        exact absurd hfree htaken
    | ok =>
      -- the document is staged, so those behind it are held against it as well
      have hfree := checkUnique_eq_ok_iff.mp hunique
      dsimp only
      rw [ih hids.2, ← List.append_assoc]
      simp only [List.forall_mem_append, List.forall_mem_singleton] at hfree ⊢
      constructor
      · rintro ⟨hrest, hadmissible⟩
        refine ⟨⟨hfree, fun later hlater => (hrest later hlater).1⟩, fun later hlater => ?_, hadmissible⟩
        exact (hrest later hlater).2
      · rintro ⟨⟨_, hrest⟩, hfirst, hadmissible⟩
        exact ⟨fun later hlater => ⟨hrest later hlater, hfirst later hlater⟩, hadmissible⟩

theorem isOk_insertMany (store : Store) (documents : List Document) (collection : String) :
    (store.insertMany documents collection).1.isOk
      =
    (stage (store.documents collection) collection store.nextId [] [] documents).1.isOk := by
  unfold insertMany
  dsimp only
  split
  · next hstage =>
    rw [hstage]
    rfl
  · next hstage =>
    rw [hstage]
    rfl

section

variable {store : Store} {collection : String} {documents : List Document}
  (hempty : store.documents collection = []) (hids : ∀ document ∈ documents, document.id?.isSome)

include hempty hids

theorem isOk_insertMany_iff : (store.insertMany documents collection).1.isOk ↔ Admissible documents := by
  rw [isOk_insertMany, isOk_stage_iff hids, hempty]
  simp

theorem isOk_seeded_iff {pieces : List (List Document)} (hpieces : pieces.flatten = documents) :
    (seeded (gather (pieces.map (collection, ·)))).isOk ↔ Admissible documents := by
  subst hpieces
  rw [← isOk_insertMany_iff hempty hids]
  have hsame := congrArg Except.isOk (seeded_eq_insertMany hempty (Or.inr hids))
  rw [Outcome.isOk_map, Outcome.isOk_map] at hsame
  rw [hsame]

theorem arrival_order_irrelevant_iff :
    ((∀ other, documents.Perm other →
        (store.insertMany other collection).1.isOk = (store.insertMany documents collection).1.isOk)
      ↔ OrderFree documents)
      ∧
    ((∀ pieces others : List (List Document), pieces.flatten = documents → documents.Perm others.flatten →
        (seeded (gather (others.map (collection, ·)))).isOk = (seeded (gather (pieces.map (collection, ·)))).isOk)
      ↔ OrderFree documents)
      ∧
    ((∀ document ∈ documents, ∀ items, document.id? ≠ some (.array items)) → OrderFree documents) := by
  have hothers : ∀ other, documents.Perm other → ∀ document ∈ other, document.id?.isSome :=
    fun other hperm document hmem => hids document (hperm.mem_iff.mpr hmem)
  refine ⟨?_, ?_, orderFree_of_not_array⟩
  · rw [← admissible_perm_iff_orderFree hids]
    refine forall₂_congr fun other hperm => ?_
    rw [Bool.eq_iff_iff, isOk_insertMany_iff hempty hids, isOk_insertMany_iff hempty (hothers other hperm)]
    exact Iff.comm
  · rw [← admissible_perm_iff_orderFree hids]
    constructor
    · intro hsame other hperm
      -- a single call hands over each order
      have hsingle := hsame [documents] [other] (by simp) (by simpa using hperm)
      rw [Bool.eq_iff_iff, isOk_seeded_iff hempty (hothers other hperm) (by simp),
        isOk_seeded_iff hempty hids (by simp)] at hsingle
      exact hsingle.symm
    · intro hsame pieces others hpieces hperm
      rw [Bool.eq_iff_iff, isOk_seeded_iff hempty hids hpieces,
        isOk_seeded_iff hempty (hothers others.flatten hperm) rfl]
      exact (hsame others.flatten hperm).symm

end

theorem arrival_order_irrelevant_array :
    let first : List Document := [[("_id", .array [.string "a", .null])], [("_id", .string "b")]]
    let second : List Document := [[("_id", .string "b")], [("_id", .array [.string "a", .null])]]
    empty.documents "c" = []
      ∧
    (∀ document ∈ first, document.id?.isSome)
      ∧
    OrderFree first
      ∧
    first.Perm second
      ∧
    (empty.insertMany first "c").1 = .ok [.array [.string "a", .null], .string "b"]
      ∧
    (empty.insertMany second "c").1.isOk = (empty.insertMany first "c").1.isOk := by
  intro first second
  have hids : ∀ document ∈ first, document.id?.isSome := by decide
  have hfree : OrderFree first := by
    apply Or.inr
    apply List.pairwise_pair.mpr
    exact ⟨rfl, rfl⟩
  have hperm : first.Perm second := List.Perm.swap _ _ _
  refine ⟨rfl, hids, hfree, hperm, rfl, ?_⟩
  exact (@arrival_order_irrelevant_iff empty "c" first rfl hids).1.mpr hfree second hperm

theorem not_order_irrelevant_of_listed_id :
    let first : List Document := [[("_id", .array [.string "a"])], [("_id", .string "a")]]
    let second : List Document := [[("_id", .string "a")], [("_id", .array [.string "a"])]]
    first.Perm second
      ∧
    (∀ document ∈ first, document.id?.isSome)
      ∧
    empty.documents "c" = []
      ∧
    (empty.insertMany first "c").1 = .error (.invalidDocument (.duplicateId (.string "a") "c"))
      ∧
    (empty.insertMany second "c").1 = .ok [.string "a", .array [.string "a"]]
      ∧
    (seeded (gather [("c", first)])).isOk = false
      ∧
    (seeded (gather [("c", second)])).isOk = true := by
  intro first second
  exact ⟨List.Perm.swap _ _ _, by decide, rfl, rfl, rfl, rfl, rfl⟩

end Store
end DocQuery
