import DocQuery.Proofs.Collation.Equivalence
import DocQuery.Proofs.Outcome
import DocQuery.Proofs.Pipeline.Grouping
import DocQuery.Proofs.Pipeline.Sums

/-!
This module contains the rows of a grouping. There is one for every key, in the order in which the keys first
appear, and it is worked out from the documents that have the key, in their order.
-/

namespace DocQuery

theorem exists_filter_eq_singleton {α : Type} {items : List α} {p : α → Bool}
    (hmem : ∃ item ∈ items, p item = true)
    (h : items.Pairwise fun a b => p a = true → p b = false) : ∃ item, items.filter p = [item] := by
  rcases hmem with ⟨item, hitem, hp⟩
  have hpairs := h.filter p
  have hfound := List.mem_filter.mpr ⟨hitem, hp⟩
  have hmet : ∀ other ∈ items.filter p, p other = true := fun other hother => (List.mem_filter.mp hother).2
  generalize items.filter p = found at *
  cases found with
  | nil => cases hfound
  | cons first rest =>
    cases rest with
    | nil => exact ⟨first, rfl⟩
    | cons second rest =>
      rw [List.forall_mem_cons, List.forall_mem_cons] at hmet
      rw [List.pairwise_cons, List.forall_mem_cons] at hpairs
      rw [hpairs.1.1 hmet.1] at hmet
      cases hmet.2.1

theorem distinctValues_eq_eraseDupsBy (values : List Value) :
    distinctValues values = values.eraseDupsBy Value.equals := by
  have hloop : ∀ seen : List Value,
      values.foldl (fun seen value => if seen.any (·.equals value) then seen else seen ++ [value]) seen
        =
      List.eraseDupsBy.loop Value.equals values seen.reverse := by
    induction values with
    | nil => simp [List.eraseDupsBy.loop]
    | cons value rest ih =>
      intro seen
      have hany : seen.reverse.any value.equals = seen.any (·.equals value) := by
        rw [List.any_reverse]
        congr 1
        funext old
        apply Value.equals_comm
      rw [List.foldl_cons, ih, List.eraseDupsBy.loop, hany]
      cases seen.any (·.equals value) with
      | true => rfl
      | false => simp
  exact hloop []

theorem pairwise_distinctValues (values : List Value) :
    (distinctValues values).Pairwise fun earlier later => earlier.equals later = false := by
  induction values using List.reverseRecOn with
  | nil => exact .nil
  | append_singleton values value ih =>
    rw [distinctValues_append_singleton]
    split
    · exact ih
    · next hnew =>
      rw [Bool.not_eq_true, List.any_eq_false] at hnew
      rw [List.pairwise_append]
      refine ⟨ih, List.pairwise_singleton _ _, ?_⟩
      intro earlier hearlier later hlater
      rw [List.mem_singleton.mp hlater]
      exact Bool.eq_false_iff.mpr (hnew earlier hearlier)

theorem exists_mem_distinctValues {values : List Value} {value : Value} (hmem : value ∈ values)
    (h : ∀ value ∈ values, value.holdsNumbers = true) :
    ∃ key ∈ distinctValues values, key.equals value = true := by
  induction values using List.reverseRecOn with
  | nil => cases hmem
  | append_singleton values last ih =>
    rw [List.forall_mem_append] at h
    rw [distinctValues_append_singleton]
    rcases List.mem_append.mp hmem with hmem | hmem
    · obtain ⟨key, hkey, hequals⟩ := ih hmem h.1
      refine ⟨key, ?_, hequals⟩
      split
      · exact hkey
      · exact List.mem_append_left _ hkey
    · rw [List.mem_singleton.mp hmem]
      split
      · next hold => exact List.any_eq_true.mp hold
      · exact ⟨last, by simp, Value.equals_self last (h.2 last (by simp))⟩

theorem keyedBy_equals [DecidableEq (Value → Bool)] {values : List Value}
    (h : ∀ value ∈ values, value.holdsNumbers = true) : KeyedBy Value.equals values := by
  intro a _ b hb
  rw [Bool.eq_iff_iff, Value.equals_iff_class_eq (h b hb), beq_iff_eq]

namespace Group

theorem map_key_place (value : Value) (document : Document) (groups : List Group) :
    (place value document groups).map (·.key)
      =
    if (groups.map (·.key)).any (·.equals value) then
      groups.map (·.key)
    else
      groups.map (·.key) ++ [value] := by
  induction groups with
  | nil => rfl
  | cons group rest ih =>
    rw [place, List.map_cons, List.any_cons]
    cases group.key.equals value with
    | true => rfl
    | false =>
      rw [if_neg Bool.false_ne_true, List.map_cons, ih, Bool.false_or]
      split <;> rfl

theorem map_key_ofDocuments (keyExpr : Value) (documents : List Document) :
    (ofDocuments keyExpr documents).map (·.key) = distinctValues (documents.map (·.evaluate keyExpr)) := by
  induction documents using List.reverseRecOn with
  | nil => rfl
  | append_singleton documents document ih =>
    rw [ofDocuments_append_singleton, map_key_place, ih, List.map_append, List.map_singleton,
      distinctValues_append_singleton]

theorem members_place_perm (value : Value) (document : Document) (groups : List Group) :
    ((place value document groups).flatMap (·.members)).Perm
      (groups.flatMap (·.members) ++ [document]) := by
  induction groups with
  | nil => exact .refl _
  | cons group rest ih =>
    rw [place]
    split
    · rw [List.flatMap_cons, List.flatMap_cons, List.append_assoc, List.append_assoc]
      apply List.Perm.append_left
      exact List.perm_append_comm
    · rw [List.flatMap_cons, List.flatMap_cons, List.append_assoc]
      exact ih.append_left group.members

theorem members_ofDocuments_perm (keyExpr : Value) (documents : List Document) :
    ((ofDocuments keyExpr documents).flatMap (·.members)).Perm documents := by
  induction documents using List.reverseRecOn with
  | nil => exact .refl _
  | append_singleton documents document ih =>
    rw [ofDocuments_append_singleton]
    exact (members_place_perm _ document _).trans (ih.append_right [document])

theorem sum_length_members (keyExpr : Value) (documents : List Document) :
    ((ofDocuments keyExpr documents).map (·.members.length)).sum = documents.length := by
  rw [← List.length_flatMap]
  exact (members_ofDocuments_perm keyExpr documents).length_eq

theorem members_place_ne_nil {value : Value} {document : Document} {groups : List Group}
    (h : ∀ group ∈ groups, group.members ≠ []) :
    ∀ group ∈ place value document groups, group.members ≠ [] := by
  induction groups with
  | nil =>
    rw [place, List.forall_mem_singleton]
    exact List.cons_ne_nil document []
  | cons group rest ih =>
    rw [List.forall_mem_cons] at h
    rw [place]
    split
    · rw [List.forall_mem_cons]
      exact ⟨List.append_ne_nil_of_right_ne_nil _ (List.cons_ne_nil document []), h.2⟩
    · rw [List.forall_mem_cons]
      exact ⟨h.1, ih h.2⟩

theorem members_ne_nil (keyExpr : Value) (documents : List Document) :
    ∀ group ∈ ofDocuments keyExpr documents, group.members ≠ [] := by
  induction documents using List.reverseRecOn with
  | nil => nofun
  | append_singleton documents document ih =>
    rw [ofDocuments_append_singleton]
    exact members_place_ne_nil ih

def keysOf (keyExpr : Value) (documents : List Document) : List Value :=
  (documents.map (·.evaluate keyExpr)).eraseDupsBy Value.equals

def sharing (keyExpr : Value) (documents : List Document) (key : Value) : List Document :=
  documents.filter fun document => key.equals (document.evaluate keyExpr)

section

variable {keyExpr : Value} {documents : List Document}
  (h : ∀ document ∈ documents, (document.evaluate keyExpr).holdsNumbers = true)

include h

theorem members_eq_sharing {group : Group} (hgroup : group ∈ ofDocuments keyExpr documents) :
    group.members = sharing keyExpr documents group.key := by
  classical
  have hkeyed : KeyedBy Value.equals (documents.map (·.evaluate keyExpr)) :=
    keyedBy_equals (List.forall_mem_map.mpr h)
  have hkey : group.key ∈ documents.map (·.evaluate keyExpr) :=
    keys_ofDocuments keyExpr documents (List.mem_map_of_mem hgroup)
  have hrow := List.mem_map_of_mem (f := keyed Value.equals) hgroup
  rw [map_ofDocuments hkeyed] at hrow
  obtain ⟨shared, -, heq⟩ := List.mem_map.mp hrow
  have hshared : shared = group.key.equals := congrArg Prod.fst heq
  have hmembers : documents.filter (fun document => (document.evaluate keyExpr).equals == shared)
      = group.members := congrArg Prod.snd heq
  rw [← hmembers, hshared]
  apply List.filter_congr
  intro document hdocument
  rw [hkeyed _ hkey _ (List.mem_map_of_mem hdocument)]
  exact BEq.comm

theorem ofDocuments_eq_map_keysOf :
    ofDocuments keyExpr documents
      =
    (keysOf keyExpr documents).map fun key => ⟨key, sharing keyExpr documents key⟩ := by
  have hself : ∀ group ∈ ofDocuments keyExpr documents,
      ((fun key => ⟨key, sharing keyExpr documents key⟩) ∘ Group.key) group = group := by
    intro group hgroup
    rw [Function.comp_apply, ← members_eq_sharing h hgroup]
  rw [keysOf, ← distinctValues_eq_eraseDupsBy, ← map_key_ofDocuments, List.map_map,
    List.map_congr_left hself, List.map_id']

theorem exists_filter_keysOf {document : Document} (hdocument : document ∈ documents) :
    ∃ key, (keysOf keyExpr documents).filter (·.equals (document.evaluate keyExpr)) = [key] := by
  rw [keysOf, ← distinctValues_eq_eraseDupsBy]
  apply exists_filter_eq_singleton
  · exact exists_mem_distinctValues (List.mem_map_of_mem hdocument) (List.forall_mem_map.mpr h)
  · apply (pairwise_distinctValues _).imp
    intro earlier later hunequal hearlier
    by_contra hlater
    rw [Bool.not_eq_false, Value.equals_comm] at hlater
    rw [Value.equals_trans hearlier hlater] at hunequal
    cases hunequal

end

end Group

namespace GroupField

theorem name_read {name : String} {spec : Value} {field : GroupField} (h : read name spec = .ok field) :
    field.name = name := by
  unfold read at h
  split at h
  · split at h
    · cases h
      rfl
    · cases h
  · cases h

theorem names_readAll {spec : Document} {fields : List GroupField} (h : readAll spec = .ok fields) :
    fields.map (·.name) = (Fields.names spec).filter (· ≠ "_id") := by
  induction spec generalizing fields with
  | nil =>
    cases h
    rfl
  | cons entry rest ih =>
    rcases entry with ⟨name, value⟩
    unfold readAll at h
    rw [Fields.names, List.map_cons, ← Fields.names]
    split at h
    · next hid =>
      rw [List.filter_cons_of_neg (by simpa using hid)]
      exact ih h
    · next hid =>
      obtain ⟨field, hfield, h⟩ := Outcome.bind_eq_ok_iff.mp h
      obtain ⟨others, hothers, h⟩ := Outcome.bind_eq_ok_iff.mp h
      cases h
      rw [List.filter_cons_of_pos (by simpa using hid), List.map_cons, name_read hfield, ih hothers]

theorem nodup_names {spec : Document} {fields : List GroupField} (h : readAll spec = .ok fields)
    (hspec : (Fields.names spec).Nodup) : ("_id" :: fields.map (·.name)).Nodup := by
  rw [names_readAll h, List.nodup_cons]
  exact ⟨by simp, hspec.filter _⟩

end GroupField

namespace Group

theorem row_eq {fields : List GroupField} (h : ("_id" :: fields.map (·.name)).Nodup) (group : Group) :
    row fields group
      =
    ("_id", group.key) :: fields.map fun field => (field.name, field.total group.members) := by
  apply Fields.merge_of_nodup
  rw [Fields.names, List.map_append, List.map_map]
  exact h

theorem get?_row {fields : List GroupField} (h : ("_id" :: fields.map (·.name)).Nodup) (group : Group)
    {field : GroupField} (hfield : field ∈ fields) :
    Fields.get? (row fields group) field.name = some (field.total group.members) := by
  have hnames : Fields.names (row fields group) = "_id" :: fields.map (·.name) := by
    rw [row_eq h, Fields.names, List.map_cons, List.map_map]
    rfl
  rw [← hnames] at h
  apply Fields.get?_of_mem h
  rw [row_eq (hnames ▸ h)]
  exact List.mem_cons_of_mem _ (List.mem_map.mpr ⟨field, hfield, rfl⟩)

end Group

def GroupField.countsMembers (field : GroupField) : Prop :=
  field.accumulator = .sum ∧ field.expr.asInt? = some 1

theorem Document.evaluate_of_asInt? {document : Document} {literal : Value} {n : Int}
    (h : literal.asInt? = some n) : document.evaluate literal = literal := by
  rcases Value.asInt?_eq_some_iff.mp h with ⟨word, rfl, -⟩ | ⟨word, rfl, -⟩
  · rfl
  · rfl

theorem GroupField.asInt?_total {field : GroupField} {members : List Document} (h : field.countsMembers)
    (hlength : members.length < 2 ^ 63) : (field.total members).asInt? = some (members.length : Int) := by
  have hones : ∀ value ∈ members.map (·.evaluate field.expr), value.asInt? = some 1 := by
    rw [List.forall_mem_map]
    intro member _
    rw [Document.evaluate_of_asInt? h.2, h.2]
  have htotal := Accumulator.asInt?_total_sum_of_ones hones
  rw [List.length_map] at htotal
  rw [GroupField.total, h.1]
  exact htotal hlength

theorem Group.length_members_le {keyExpr : Value} {documents : List Document} {group : Group}
    (hgroup : group ∈ ofDocuments keyExpr documents) : group.members.length ≤ documents.length := by
  rw [← sum_length_members keyExpr documents]
  exact List.le_sum_of_mem (List.mem_map.mpr ⟨group, hgroup, rfl⟩)

end DocQuery
