import TomtitAgent.Conversation.SnapshotInvariants
import TomtitAgent.Conversation.Polarity

/-!
# `save_relation_update` as a replacement

The function deletes the first record that a search of the facts finds under
`_get_lookup_labels(label)`, and saves the new name.  `RelationReplaced` is what an update of a
relation is to do: after it every lookup under a synonym of the label gives the new name and no
older one, and the other relations stay.

* `keptRecords`           the live records that the deletion leaves;
* `live_relationUpdate`   the live records after the update: those, and the new one;
* `mem_relations_update`  the relations that the snapshot shows then;
* `find_update`           what `find_existing_profile_value` answers then;
* `relationReplaced_iff`  the update replaces exactly when none of the records it leaves is in its
  way (`Replaceable`).
-/

namespace Tomtit
open Py

section
variable (env : MemoryEnv)

/-- `md.get("relation_label") == label` -/
def Metadata.labelled (md : Metadata) : Option PyStr → Bool
  | some l => md.is (py "relation_label") l
  | none => match md.dict.get? (py "relation_label") with
    | none => true
    | some .none => true
    | _ => false

def findExistingProfileValue (candidate : ProfileFactCandidate) (w : World) : Option PyStr :=
  ((w.profileRecords env .fact 100).find? fun r =>
    if candidate.subject = self then r.states self (py "name")
    else r.states (py "relation") (py "name") && r.metadata.labelled candidate.relationLabel).map
      fun r => r.metadata.value

/-- The candidate with which the callers look a relation up. -/
def relationCandidate (label : PyStr) : ProfileFactCandidate where
  subject := py "relation"
  relation := py "name"
  value := []
  relationLabel := some label
  originalText := []

def Synonym (label q : PyStr) : Prop := q ∈ getLookupLabels label ∨ label ∈ getLookupLabels q

/-- What an update of a relation is to do. -/
structure RelationReplaced (label name : PyStr) (w w' : World) : Prop where
  shown : ∀ q, Synonym label q →
    ∃ l ∈ getLookupLabels q, (l, name) ∈ (collectProfileSnapshot env w').relations
  only : ∀ q, Synonym label q → ∀ l ∈ getLookupLabels q, ∀ v,
    (l, v) ∈ (collectProfileSnapshot env w').relations → v = name
  found : ∀ q, Synonym label q →
    findExistingProfileValue env (relationCandidate q) w' = some name
  others : ∀ l, (∀ q, Synonym label q → l ∉ getLookupLabels q) →
    w'.live.filter (·.namesRelation [l]) = w.live.filter (·.namesRelation [l]) ∧
      findExistingProfileValue env (relationCandidate l) w' =
        findExistingProfileValue env (relationCandidate l) w ∧
      ∀ v, (l, v) ∈ (collectProfileSnapshot env w').relations ↔
        (l, v) ∈ (collectProfileSnapshot env w).relations

/-- Each search of the relations finds every record it is about. -/
def World.searchable (w : World) : Prop :=
  (w.live.filter (·.tagged .fact)).length ≤ 100 ∧ (w.live.filter (·.tagged .preference)).length ≤ 200

def replacedRecord (label : PyStr) (w : World) : Option MemoryRecord :=
  (w.profileRecords env .fact 100).find? (·.namesRelation (getLookupLabels label))

def keptRecords (label : PyStr) (w : World) : List MemoryRecord :=
  w.live.filter fun r => (replacedRecord env label w).all fun x => r.id ≠ x.id

/-- The first of the facts under the label in the ranking of a search. -/
def firstNamed (q : PyStr) (rs : List MemoryRecord) : Option MemoryRecord :=
  (sortDescending MemoryRecord.rank (rs.filter fun r => r.namesRelation [q] && r.tagged .fact)).head?

def updateRank (label : PyStr) (w : World) : Int ×ₗ Int :=
  toLex (weight09.key, env.now ((deleteRelationFact env label w).2.ticks + 2))

/-- The label and the name are texts that a lookup shows, no record that the deletion leaves shows
another name under a synonym, and a search under a synonym comes to no such record first. -/
structure Replaceable (label name : PyStr) (w : World) : Prop where
  labelled : label ≠ []
  named : name ≠ []
  clean : isDirtyValue env.toUnicode name = false
  shown : ∀ r ∈ keptRecords env label w, r.isConfirmedProfile = true →
    ∀ q, Synonym label q → ∀ l ∈ getLookupLabels q, ∀ v, r.shown env = some (.relations, l, v) →
      v = name
  first : ∀ q, Synonym label q → match firstNamed q (keptRecords env label w) with
    | none => q = label
    | some r => r.metadata.value = name ∨ (q = label ∧ r.rank < updateRank env label w)

/-! ### the record of the update -/

def storedLabel (label : PyStr) : PyStr := if label = [] then py "relation" else label

def relationMetadata (label name originalText : PyStr) : Metadata :=
  profileMetadata [(py "profile_schema", schemaV1), (py "subject", py "relation"),
      (py "relation", py "name"), (py "value", name)]
    ([(py "confirmation_source", py "auto_safe"), (py "original_text", originalText),
      (py "write_policy", py "auto_safe")] ++ [(py "relation_label", storedLabel label)])

def relationMemory (label name originalText : PyStr) : NewMemory where
  content := storedLabel label ++ py " của bạn tên là " ++ name
  type := .fact
  tags := [userProfile, py "relation", py "name",
    (relationTagMap.lookup (storedLabel label)).getD (replaceChar 32 95 (storedLabel label))]
  importance := weight09
  confidence := weight1
  source := .user
  metadata := relationMetadata label name originalText
  texts := profileMetadata_texts _ _

theorem saveRelation_eq (label name sessionId originalText : PyStr) (w : World) :
    saveConfirmedProfileFact env ⟨py "relation", py "name", name, some label, originalText⟩ sessionId w =
      trySave env sessionId (relationMemory label name originalText) w := by
  have hself : ¬ py "relation" = self := by simp [self]
  unfold saveConfirmedProfileFact
  rw [if_neg hself]
  cases label with
  | nil => rfl
  | cons c cs => rfl

theorem saveRelationUpdate_eq (label name sessionId originalText : PyStr) (w : World) :
    saveRelationUpdate env label name sessionId originalText w =
      trySave env sessionId (relationMemory label name originalText)
        (deleteRelationFact env label w).2 := saveRelation_eq env _ _ _ _ _

theorem relationMemory_content (label name originalText : PyStr) :
    strip (relationMemory label name originalText).content ≠ [] := by
  refine strip_ne_nil_of_mem (c := CodePoint.ofChar 'c') ?_ rfl
  exact List.mem_append_left _ (List.mem_append_right _ (mem_py.mpr (by simp)))

theorem relationMetadata_reads (label name originalText : PyStr) :
    let md := relationMetadata label name originalText
    md.value = name ∧ md.confirmedProfile = true ∧
      (∀ s, md.is (py "subject") s = decide (py "relation" = s)) ∧
      (∀ s, md.is (py "relation") s = decide (py "name" = s)) ∧
      (∀ s, md.is (py "relation_label") s = decide (storedLabel label = s)) ∧
      ∀ d, md.text (py "relation_label") d = storedLabel label := by
  have hget : ∀ k, (relationMetadata label name originalText).dict.get? k =
      assoc (textItems [(py "relation_label", storedLabel label), (py "write_policy", py "auto_safe"),
        (py "original_text", originalText), (py "confirmation_source", py "auto_safe")] ++
        (confirmedItem ++ textItems [(py "value", name), (py "relation", py "name"),
          (py "subject", py "relation"), (py "profile_schema", schemaV1)])) k := fun k => get?_dictOf _ _
  have hvalue := hget (py "value")
  have hconfirmed := hget (py "confirmed")
  have hschema := hget (py "profile_schema")
  have hsubject := hget (py "subject")
  have hrelation := hget (py "relation")
  have hlabel := hget (py "relation_label")
  simp only [textItems, confirmedItem, List.map_cons, List.map_nil, List.cons_append, List.nil_append,
    assoc_cons, py_inj, String.reduceEq, if_true, if_false]
    at hvalue hconfirmed hschema hsubject hrelation hlabel
  have hs : hasProfileSchema (relationMetadata label name originalText).dict = true := by
    simp [hasProfileSchema, holdsText, hschema, profileSchemas, PyVal.asStr, schemaV1]
  refine ⟨?_, ?_, fun s => ?_, fun s => ?_, fun s => ?_, fun d => ?_⟩
  · simp only [Metadata.value, Metadata.text, hvalue]
  · simp [Metadata.confirmedProfile, hconfirmed, hs, truthy]
  · simp [Metadata.is, holdsText, hsubject, PyVal.asStr]
  · simp [Metadata.is, holdsText, hrelation, PyVal.asStr]
  · simp [Metadata.is, holdsText, hlabel, PyVal.asStr]
  · simp only [Metadata.text, hlabel]

/-! ### what a record shows and under which label -/

theorem is_of_is {md : Metadata} {k s : PyStr} (h : md.is k s = true) (t : PyStr) :
    md.is k t = decide (s = t) := by
  unfold Metadata.is holdsText at h ⊢
  rw [of_decide_eq_true h]
  simp

theorem text_of_is {md : Metadata} (hmd : md.Texts) (hschema : hasProfileSchema md.dict = true)
    {k : PyStr} (hk : k ∈ profileTextKeys) {s : PyStr} (h : md.is k s = true) (d : PyStr) :
    md.text k d = s := by
  unfold Metadata.is holdsText at h
  have hs := of_decide_eq_true h
  cases e : md.dict.get? k with
  | none =>
    rw [e] at hs
    exact absurd hs (by simp)
  | some v =>
    obtain ⟨t, rfl⟩ := hmd hschema k hk v e
    rw [e] at hs
    unfold Metadata.text
    rw [e]
    exact Option.some.inj hs

theorem namesRelation_iff {labels : List PyStr} {r : MemoryRecord} :
    r.namesRelation labels = true ↔ r.metadata.confirmedProfile = true ∧
      r.concerns (py "relation") (py "name") = true ∧
      ∃ l ∈ labels, r.metadata.is (py "relation_label") l = true := by
  unfold MemoryRecord.namesRelation MemoryRecord.states
  rw [Bool.and_eq_true, Bool.and_eq_true, List.any_eq_true, and_assoc]

theorem namesRelation_label {labels : List PyStr} {r : MemoryRecord} {l : PyStr}
    (h : r.namesRelation labels = true) (hl : r.metadata.is (py "relation_label") l = true) :
    l ∈ labels := by
  obtain ⟨-, -, l', hl', h'⟩ := namesRelation_iff.mp h
  rw [is_of_is hl] at h'
  rw [of_decide_eq_true h']
  exact hl'

theorem slot?_relation {r : MemoryRecord} :
    r.slot? = some .relation ↔ r.concerns (py "relation") (py "name") = true :=
  ⟨concerns_of_slot, fun h => (slot_of_concerns h).trans (slot_of_row 21 rfl)⟩

theorem of_slotEntry_relations {md : Metadata} {val l v : PyStr} {slot : ProfileSlot}
    (h : slotEntry env md val slot = some (.relations, l, v)) :
    slot = .relation ∧ l = md.text (py "relation_label") (py "người liên quan") ∧ v = val := by
  cases slot with
  | relation =>
    have e := (Prod.mk.inj (Option.some.inj h)).2
    exact ⟨rfl, (Prod.mk.inj e).1.symm, (Prod.mk.inj e).2.symm⟩
  | preference =>
    unfold slotEntry at h
    split_ifs at h <;> simp at h
  | _ => simp [slotEntry] at h

theorem shown_relations {r : MemoryRecord} {l v : PyStr} :
    r.shown env = some (.relations, l, v) ↔
      r.concerns (py "relation") (py "name") = true ∧ r.metadata.value = v ∧ v ≠ [] ∧
        isDirtyValue env.toUnicode v = false ∧
        r.metadata.text (py "relation_label") (py "người liên quan") = l := by
  have hplain : r.concerns (py "relation") (py "name") = true →
      r.metadata.is (py "relation") (py "comparative") = false := by
    intro h
    unfold MemoryRecord.concerns at h
    rw [is_of_is (Bool.and_eq_true_iff.mp h).2]
    simp
  unfold MemoryRecord.shown MemoryRecord.readable
  constructor
  · intro h
    split_ifs at h with hread
    rw [Bool.and_eq_true, decide_eq_true_eq, Bool.or_eq_true, Bool.not_eq_true'] at hread
    obtain ⟨slot, hslot, hentry⟩ := Option.bind_eq_some_iff.mp h
    obtain ⟨rfl, hl, hv⟩ := @of_slotEntry_relations env _ _ _ _ _ hentry
    have hc := slot?_relation.mp hslot
    rw [hplain hc] at hread
    rw [hv]
    exact ⟨hc, rfl, hread.1, hread.2.resolve_left Bool.false_ne_true, hl.symm⟩
  · rintro ⟨hc, hv, hne, hclean, hl⟩
    have hread : (decide (r.metadata.value ≠ []) && (r.metadata.is (py "relation") (py "comparative") ||
        !isDirtyValue env.toUnicode r.metadata.value)) = true := by
      rw [hv, hclean, decide_eq_true hne, Bool.not_false, Bool.or_true, Bool.and_true]
    rw [if_pos hread, slot?_relation.mpr hc, ← hv, ← hl]
    rfl

/-! ### lookups in a searchable store -/

theorem mem_confirmedRecords_searchable {w : World} (hw : w.searchable) {r : MemoryRecord} :
    r ∈ confirmedRecords env w ↔ r ∈ w.live ∧ r.isConfirmedProfile = true := by
  unfold confirmedRecords MemoryRecord.isConfirmedProfile
  rw [List.mem_insertionSort, List.mem_filter, List.mem_append,
    mem_profileRecords_within (hw.1.trans (by omega)), mem_profileRecords_within hw.2, Bool.and_eq_true,
    Bool.or_eq_true, ← and_or_left, and_assoc]

theorem mem_relations {w : World} (hw : w.searchable) {l v : PyStr} :
    (l, v) ∈ (collectProfileSnapshot env w).relations ↔
      ∃ r ∈ w.live, r.isConfirmedProfile = true ∧ r.shown env = some (.relations, l, v) := by
  have hkeys := @mem_keys_collect env w .relations (l, v)
  have hlist : (collectProfileSnapshot env w).keys env .relations =
      (collectProfileSnapshot env w).relations := rfl
  rw [hlist] at hkeys
  rw [hkeys]
  constructor
  · rintro ⟨r, hr, hs⟩
    obtain ⟨hl, hc⟩ := (mem_confirmedRecords_searchable env hw).mp hr
    exact ⟨r, hl, hc, hs⟩
  · rintro ⟨r, hl, hc, hs⟩
    exact ⟨r, (mem_confirmedRecords_searchable env hw).mpr ⟨hl, hc⟩, hs⟩

theorem findExistingProfileValue_relation {w : World} (hw : w.searchable) (q : PyStr) :
    findExistingProfileValue env (relationCandidate q) w =
      (firstNamed q w.live).map fun r => r.metadata.value := by
  have hself : ¬ py "relation" = self := by simp [self]
  have hcond : (fun r : MemoryRecord =>
      if (relationCandidate q).subject = self then r.states self (py "name")
      else r.states (py "relation") (py "name") &&
        r.metadata.labelled (relationCandidate q).relationLabel) = fun r => r.namesRelation [q] := by
    funext r
    show (if py "relation" = self then _ else _) = _
    rw [if_neg hself]
    show (r.states _ _ && r.metadata.is (py "relation_label") q) = (r.states _ _ && (_ || false))
    rw [Bool.or_false]
  unfold findExistingProfileValue firstNamed
  rw [hcond, profileRecords_eq,
    List.take_of_length_le (by rw [(sortDescending_perm _).length_eq]; exact hw.1),
    ← List.head?_filter, ← sortDescending_filter, List.filter_filter]

/-! ### the records after the update -/

theorem deleteRelationFact_keeps (label : PyStr) (w : World) :
    (deleteRelationFact env label w).2.live = keptRecords env label w ∧
      (deleteRelationFact env label w).2.made = w.made ∧
      (deleteRelationFact env label w).2.store.records.keys = w.store.records.keys := by
  unfold deleteRelationFact keptRecords replacedRecord
  cases (w.profileRecords env .fact 100).find? (·.namesRelation (getLookupLabels label)) with
  | none => exact ⟨(List.filter_eq_self.mpr fun _ _ => rfl).symm, rfl, rfl⟩
  | some x =>
    refine ⟨?_, rfl, InMemoryStore.keys_delete _ _ _ _ _⟩
    show (World.delete env x.id (py "user_removal") w).live = _
    rw [World.live_delete]
    rfl

theorem mem_live_of_kept {label : PyStr} {w : World} {r : MemoryRecord}
    (h : r ∈ keptRecords env label w) : r ∈ w.live := (List.mem_filter.mp h).1

theorem mem_kept_of_not {label : PyStr} {w : World} {r : MemoryRecord} (hr : r ∈ w.live)
    (hout : r.namesRelation (getLookupLabels label) ≠ true) : r ∈ keptRecords env label w := by
  refine List.mem_filter.mpr ⟨hr, ?_⟩
  unfold replacedRecord
  cases e : (w.profileRecords env .fact 100).find? (·.namesRelation (getLookupLabels label)) with
  | none => rfl
  | some x =>
    show decide (r.id ≠ x.id) = true
    rw [decide_eq_true_eq]
    intro hid
    have hx := mem_live_of_profileRecords env x (List.mem_of_find?_eq_some e)
    obtain rfl := InMemoryStore.live_id_inj hr hx hid
    exact hout (List.find?_some e)

def relationRecord (label name sessionId originalText : PyStr) (w : World) : MemoryRecord :=
  savedRecord env sessionId (relationMemory label name originalText) w

theorem relationRecord_isConfirmedProfile (label name sessionId originalText : PyStr) (w : World) :
    (relationRecord env label name sessionId originalText w).isConfirmedProfile = true ∧
      (relationRecord env label name sessionId originalText w).tagged .fact = true := by
  have htag : (relationRecord env label name sessionId originalText w).tagged .fact = true := by
    show (decide (MemoryType.fact = .fact) && decide (userProfile ∈ userProfile :: _)) = true
    simp
  refine ⟨?_, htag⟩
  unfold MemoryRecord.isConfirmedProfile
  rw [htag, Bool.true_or, Bool.true_and]
  exact (relationMetadata_reads label name originalText).2.1

theorem relationRecord_namesRelation (label name sessionId originalText : PyStr) (w : World)
    (labels : List PyStr) :
    (relationRecord env label name sessionId originalText w).namesRelation labels = true ↔
      storedLabel label ∈ labels := by
  obtain ⟨-, hconfirmed, hsubject, hrelation, hlabel, -⟩ :=
    relationMetadata_reads label name originalText
  have hmd : (relationRecord env label name sessionId originalText w).metadata =
      relationMetadata label name originalText := rfl
  rw [namesRelation_iff]
  unfold MemoryRecord.concerns
  rw [hmd, hconfirmed, hsubject, hrelation]
  simp [hlabel]

theorem shown_relationRecord {label name sessionId originalText l v : PyStr} {w : World} :
    (relationRecord env label name sessionId originalText w).shown env = some (.relations, l, v) ↔
      name = v ∧ v ≠ [] ∧ isDirtyValue env.toUnicode v = false ∧ storedLabel label = l := by
  obtain ⟨hvalue, -, hsubject, hrelation, -, htext⟩ :=
    relationMetadata_reads label name originalText
  have hmd : (relationRecord env label name sessionId originalText w).metadata =
      relationMetadata label name originalText := rfl
  rw [shown_relations]
  unfold MemoryRecord.concerns
  rw [hmd, hvalue, htext, hsubject, hrelation]
  simp

def updateRecord (label name sessionId originalText : PyStr) (w : World) : MemoryRecord :=
  relationRecord env label name sessionId originalText (deleteRelationFact env label w).2

section
variable {env} {label name sessionId originalText : PyStr} {w : World}
  (hfresh : env.uuid w.made ∉ w.store.records.keys)
  (hsaved : (saveRelationUpdate env label name sessionId originalText w).1 = true)
include hfresh hsaved

theorem live_relationUpdate :
    (saveRelationUpdate env label name sessionId originalText w).2.live =
      keptRecords env label w ++ [updateRecord env label name sessionId originalText w] := by
  obtain ⟨hlive, hmade, hkeys⟩ := deleteRelationFact_keeps env label w
  have hcontent := relationMemory_content label name originalText
  rw [saveRelationUpdate_eq] at hsaved ⊢
  rw [trySave_fst hcontent, Option.isNone_iff_eq_none] at hsaved
  rw [← hkeys, ← hmade] at hfresh
  rw [(trySave_fresh hcontent hsaved hfresh).1, hlive]
  rfl

/-- The relations that the snapshot shows after the update. -/
theorem mem_relations_update
    (hw' : (saveRelationUpdate env label name sessionId originalText w).2.searchable) {l v : PyStr} :
    (l, v) ∈ (collectProfileSnapshot env
        (saveRelationUpdate env label name sessionId originalText w).2).relations ↔
      (∃ r ∈ keptRecords env label w, r.isConfirmedProfile = true ∧
        r.shown env = some (.relations, l, v)) ∨
      (name = v ∧ v ≠ [] ∧ isDirtyValue env.toUnicode v = false ∧ storedLabel label = l) := by
  rw [mem_relations env hw', live_relationUpdate hfresh hsaved]
  rw [← @shown_relationRecord env label name sessionId originalText l v
    (deleteRelationFact env label w).2]
  constructor
  · rintro ⟨r, hr, hc, hs⟩
    rcases List.mem_append.mp hr with hr | hr
    · exact .inl ⟨r, hr, hc, hs⟩
    · rw [List.mem_singleton.mp hr] at hs
      exact .inr hs
  · rintro (⟨r, hr, hc, hs⟩ | hs)
    · exact ⟨r, List.mem_append_left _ hr, hc, hs⟩
    · refine ⟨_, List.mem_append_right _ List.mem_cons_self, ?_, hs⟩
      exact (relationRecord_isConfirmedProfile env label name sessionId originalText _).1

/-- What the search for the label finds first after the update. -/
theorem find_update
    (hw' : (saveRelationUpdate env label name sessionId originalText w).2.searchable) (q : PyStr) :
    findExistingProfileValue env (relationCandidate q)
        (saveRelationUpdate env label name sessionId originalText w).2 =
      if storedLabel label = q then
        match firstNamed q (keptRecords env label w) with
        | none => some name
        | some r => if updateRank env label w ≤ r.rank then some r.metadata.value else some name
      else (firstNamed q (keptRecords env label w)).map fun r => r.metadata.value := by
  have hvalue : (updateRecord env label name sessionId originalText w).metadata.value = name :=
    (relationMetadata_reads label name originalText).1
  have hrank : (updateRecord env label name sessionId originalText w).rank =
      updateRank env label w := rfl
  have hnames : (updateRecord env label name sessionId originalText w).namesRelation [q] = true ↔
      storedLabel label ∈ [q] := relationRecord_namesRelation env _ _ _ _ _ _
  have htag : (updateRecord env label name sessionId originalText w).tagged .fact = true :=
    (relationRecord_isConfirmedProfile env label name sessionId originalText _).2
  rw [List.mem_singleton] at hnames
  rw [findExistingProfileValue_relation env hw', live_relationUpdate hfresh hsaved]
  unfold firstNamed
  rw [List.filter_append]
  split_ifs with hq
  · rw [List.filter_cons_of_pos (by rw [hnames.mpr hq, htag]; rfl), List.filter_nil,
      head?_sortDescending_concat]
    cases (sortDescending MemoryRecord.rank ((keptRecords env label w).filter
        fun r => r.namesRelation [q] && r.tagged .fact)).head? with
    | none => exact congrArg some hvalue
    | some r =>
      dsimp only
      rw [hrank]
      split_ifs
      · rfl
      · exact congrArg some hvalue
  · rw [List.filter_cons_of_neg, List.filter_nil, List.append_nil]
    rw [Bool.and_eq_true]
    exact fun h => hq (hnames.mp h.1)

theorem filter_update {l : PyStr} (hl : l ∉ getLookupLabels label) :
    (saveRelationUpdate env label name sessionId originalText w).2.live.filter
        (·.namesRelation [l]) =
      w.live.filter (·.namesRelation [l]) ++
        if storedLabel label = l then
          [updateRecord env label name sessionId originalText w] else [] := by
  have hnames : (updateRecord env label name sessionId originalText w).namesRelation [l] = true ↔
      storedLabel label ∈ [l] := relationRecord_namesRelation env _ _ _ _ _ _
  rw [List.mem_singleton] at hnames
  have hkept : (keptRecords env label w).filter (·.namesRelation [l]) =
      w.live.filter (·.namesRelation [l]) := by
    show (w.live.filter _).filter _ = _
    rw [List.filter_filter]
    refine List.filter_congr fun r hr => ?_
    cases hr' : r.namesRelation [l] with
    | false => rfl
    | true =>
      obtain ⟨-, -, l', hl', hlabel⟩ := namesRelation_iff.mp hr'
      rw [List.mem_singleton.mp hl'] at hlabel
      rw [Bool.true_and]
      have hout : r.namesRelation (getLookupLabels label) ≠ true := fun h =>
        hl (namesRelation_label h hlabel)
      exact (List.mem_filter.mp (mem_kept_of_not env hr hout)).2
  rw [live_relationUpdate hfresh hsaved, List.filter_append, hkept]
  refine congrArg (w.live.filter (·.namesRelation [l]) ++ ·) ?_
  split_ifs with h
  · exact List.filter_cons_of_pos (hnames.mpr h)
  · exact List.filter_cons_of_neg fun h' => h (hnames.mp h')

end

/-! ### the update replaces -/

theorem getLookupLabels_cases (q : PyStr) :
    ((q = py "người yêu" ∨ q = py "partner") ∧
        getLookupLabels q = [py "bạn gái", py "bạn trai", py "người yêu", py "partner"]) ∨
      getLookupLabels q = [q] := by
  unfold getLookupLabels relationSynonymMap
  rw [List.lookup_cons]
  split
  next h => exact .inl ⟨.inl (eq_of_beq h), rfl⟩
  next =>
    rw [List.lookup_cons]
    split
    next h => exact .inl ⟨.inr (eq_of_beq h), rfl⟩
    next => exact .inr rfl

theorem getLookupLabels_self (label : PyStr) : label ∈ getLookupLabels label := by
  rcases getLookupLabels_cases label with ⟨rfl | rfl, h⟩ | h
  · rw [h]
    simp
  · rw [h]
    simp
  · rw [h]
    exact List.mem_cons_self

theorem synonym_self (label : PyStr) : Synonym label label := .inl (getLookupLabels_self label)

theorem py_ne_nil {s : String} (h : s ≠ "") : py s ≠ [] := by
  intro e
  have hempty : py "" = [] := by simp [py]
  exact h (py_inj.mp (e.trans hempty.symm))

theorem synonym_nil {q : PyStr} (h : Synonym [] q) : q = [] := by
  rcases h with h | h
  · exact List.mem_singleton.mp h
  · by_contra hq
    rcases getLookupLabels_cases q with ⟨-, e⟩ | e
    · rw [e] at h
      simp only [List.mem_cons, List.not_mem_nil, or_false] at h
      rcases h with h | h | h | h
      all_goals exact py_ne_nil (by simp) h.symm
    · rw [e] at h
      exact hq (List.mem_singleton.mp h).symm

section
variable {env} {label name sessionId originalText : PyStr} {w : World}
  (hfresh : env.uuid w.made ∉ w.store.records.keys)
  (hsaved : (saveRelationUpdate env label name sessionId originalText w).1 = true)
  (hw' : (saveRelationUpdate env label name sessionId originalText w).2.searchable)
include hfresh hsaved hw'

theorem replaceable_of_replaced (h : RelationReplaced env label name w
    (saveRelationUpdate env label name sessionId originalText w).2) :
    Replaceable env label name w := by
  have hlabel : label ≠ [] := by
    -- the record of an empty label is stored under another one
    rintro rfl
    have hout : ∀ q, Synonym [] q → py "relation" ∉ getLookupLabels q := by
      intro q hq hmem
      rw [synonym_nil hq] at hmem
      exact absurd (List.mem_singleton.mp hmem) (py_ne_nil (by simp))
    have hsame := (h.others (py "relation") hout).1
    rw [filter_update hfresh hsaved (hout [] (synonym_self []))] at hsame
    have hlen := congrArg List.length hsame
    rw [List.length_append, if_pos (show storedLabel [] = py "relation" from rfl)] at hlen
    simp at hlen
  have hstored : storedLabel label = label := if_neg hlabel
  obtain ⟨l, -, hl⟩ := h.shown label (synonym_self label)
  obtain ⟨x, -, -, hx⟩ := (mem_relations env hw').mp hl
  obtain ⟨-, -, hname, hclean, -⟩ := (shown_relations env).mp hx
  refine ⟨hlabel, hname, hclean, fun r hr hc q hq l hl v hs => ?_, fun q hq => ?_⟩
  · exact h.only q hq l hl v ((mem_relations_update hfresh hsaved hw').mpr (.inl ⟨r, hr, hc, hs⟩))
  · have hf := h.found q hq
    rw [find_update hfresh hsaved hw', hstored] at hf
    cases e : firstNamed q (keptRecords env label w) with
    | none =>
      rw [e] at hf
      dsimp only at hf ⊢
      split_ifs at hf with hq'
      · exact hq'.symm
      · exact absurd hf (by simp)
    | some r =>
      rw [e] at hf
      dsimp only at hf ⊢
      split_ifs at hf with hq' hrank
      · exact .inl (Option.some.inj hf)
      · exact .inr ⟨hq'.symm, not_le.mp hrank⟩
      · exact .inl (Option.some.inj hf)

variable (hw : w.searchable)
include hw

theorem replaced_of_replaceable (h : Replaceable env label name w) :
    RelationReplaced env label name w
      (saveRelationUpdate env label name sessionId originalText w).2 := by
  have hstored : storedLabel label = label := if_neg h.labelled
  have hfound : ∀ q, Synonym label q → findExistingProfileValue env (relationCandidate q)
      (saveRelationUpdate env label name sessionId originalText w).2 = some name := by
    intro q hq
    have hfirst := h.first q hq
    rw [find_update hfresh hsaved hw', hstored]
    cases e : firstNamed q (keptRecords env label w) with
    | none =>
      rw [e] at hfirst
      rw [if_pos (Eq.symm hfirst)]
    | some r =>
      rw [e] at hfirst
      dsimp only at hfirst ⊢
      split_ifs with hlabel hrank
      · rcases hfirst with hv | ⟨-, hlt⟩
        · rw [hv]
        · exact absurd hlt (not_lt.mpr hrank)
      · rfl
      · rcases hfirst with hv | ⟨rfl, -⟩
        · exact congrArg some hv
        · exact absurd rfl hlabel
  refine ⟨fun q hq => ?_, fun q hq l hl v hv => ?_, hfound, fun l hl => ⟨?_, ?_, fun v => ?_⟩⟩
  · -- the record that the search finds is one that the snapshot shows
    have hf := hfound q hq
    rw [findExistingProfileValue_relation env hw'] at hf
    obtain ⟨r, hr, hvalue⟩ := Option.map_eq_some_iff.mp hf
    have hmem := mem_sortDescending.mp (List.mem_of_head? hr)
    obtain ⟨hlive, hcond⟩ := List.mem_filter.mp hmem
    obtain ⟨hnames, htag⟩ := Bool.and_eq_true_iff.mp hcond
    obtain ⟨hconfirmed, hconcerns, l, hl, hlabel⟩ := namesRelation_iff.mp hnames
    rw [List.mem_singleton.mp hl] at hlabel
    refine ⟨q, getLookupLabels_self q, (mem_relations env hw').mpr ⟨r, hlive, ?_, ?_⟩⟩
    · unfold MemoryRecord.isConfirmedProfile
      rw [htag, hconfirmed]
      rfl
    · refine (shown_relations env).mpr ⟨hconcerns, hvalue, h.named, h.clean, ?_⟩
      refine text_of_is ((saveRelationUpdate env label name sessionId originalText w).2.texts r ?_) ?_
        (by simp [profileTextKeys]) hlabel _
      · exact (List.mem_filter.mp hlive).1
      · exact (Bool.and_eq_true_iff.mp hconfirmed).2
  · rcases (mem_relations_update hfresh hsaved hw').mp hv with ⟨r, hr, hc, hs⟩ | ⟨e, -⟩
    · exact h.shown r hr hc q hq l hl v hs
    · exact e.symm
  · have hout : l ∉ getLookupLabels label := hl label (synonym_self label)
    rw [filter_update hfresh hsaved hout, hstored, if_neg, List.append_nil]
    rintro rfl
    exact hout (getLookupLabels_self label)
  · have hout : l ∉ getLookupLabels label := hl label (synonym_self label)
    have hrecords := filter_update hfresh hsaved hout
    rw [hstored, if_neg (fun e : label = l => hout (e ▸ getLookupLabels_self label)), List.append_nil] at hrecords
    rw [findExistingProfileValue_relation env hw', findExistingProfileValue_relation env hw]
    unfold firstNamed
    simp only [← List.filter_filter, Bool.and_comm (MemoryRecord.namesRelation [l] _)]
    rw [hrecords]
  · have hout : l ∉ getLookupLabels label := hl label (synonym_self label)
    rw [mem_relations_update hfresh hsaved hw', mem_relations env hw, hstored]
    constructor
    · rintro (⟨r, hr, hc, hs⟩ | ⟨-, -, -, rfl⟩)
      · exact ⟨r, mem_live_of_kept env hr, hc, hs⟩
      · exact absurd (getLookupLabels_self label) hout
    · rintro ⟨r, hr, hc, hs⟩
      refine .inl ⟨r, mem_kept_of_not env hr fun hnames => ?_, hc, hs⟩
      obtain ⟨hconfirmed, -, l', hl', hlabel⟩ := namesRelation_iff.mp hnames
      have htext := text_of_is (w.texts r (List.mem_filter.mp hr).1)
        (Bool.and_eq_true_iff.mp hconfirmed).2 (by simp [profileTextKeys]) hlabel
        (py "người liên quan")
      rw [((shown_relations env).mp hs).2.2.2.2] at htext
      exact hout (htext ▸ hl')

/-- An update replaces the relation exactly when the records it leaves are not in its way. -/
theorem relationReplaced_iff :
    RelationReplaced env label name w
        (saveRelationUpdate env label name sessionId originalText w).2 ↔
      Replaceable env label name w :=
  ⟨replaceable_of_replaced hfresh hsaved hw', replaced_of_replaceable hfresh hsaved hw' hw⟩

end

end

/-! ### two friends -/

theorem clean_friend {s : String} (h : s = "lan" ∨ s = "mai") :
    isDirtyValue plainEnv.toUnicode (py s) = false := by
  have hlower : plainEnv.toUnicode.lower (py s) = py s := by
    rcases h with rfl | rfl <;> exact asciiUnicode.lower_py (by simp)
  have hword : IsWord (py s) := by
    rcases h with rfl | rfl <;> exact isWord_py (by simp) (by simp; decide)
  refine isDirtyValue_word _ hword ?_ ?_ ?_
  · rw [hlower, mem_py]
    rcases h with rfl | rfl <;> simp
  · rw [hlower]
    rcases h with rfl | rfl <;> simp [dirtyValueQuestionTails]
  · rcases h with rfl | rfl <;> simp

def acquaint (label name : PyStr) (w : World) : World :=
  (saveConfirmedProfileFact plainEnv ⟨py "relation", py "name", name, some label, []⟩ (py "s") w).2

theorem acquaint_live (label name : PyStr) {w : World} (h : plainEnv.uuid w.made ∉ w.store.records.keys) :
    (acquaint label name w).live = w.live ++ [relationRecord plainEnv label name (py "s") [] w] ∧
      (acquaint label name w).made = w.made + 1 ∧
      (acquaint label name w).store.records.keys = w.store.records.keys ++ [plainEnv.uuid w.made] := by
  unfold acquaint
  rw [saveRelation_eq]
  exact trySave_fresh (relationMemory_content _ _ _) rfl h

theorem synonym_wife {q : PyStr} (hq : Synonym (py "vợ") q) : q = py "vợ" := by
  rcases hq with h | h
  · rcases getLookupLabels_cases (py "vợ") with ⟨e, -⟩ | e
    · simp at e
    · rw [e] at h
      exact List.mem_singleton.mp h
  · rcases getLookupLabels_cases q with ⟨-, e⟩ | e
    · rw [e] at h
      simp at h
    · rw [e] at h
      exact (List.mem_singleton.mp h).symm

/-- The wife of the profile, under the name `mai`. -/
def wifeMai : World := acquaint (py "vợ") (py "mai") .empty

theorem keptRecords_wifeMai : keptRecords plainEnv (py "vợ") wifeMai = [] := by
  obtain ⟨hlive, -⟩ := acquaint_live (py "vợ") (py "mai") (w := .empty) List.not_mem_nil
  have hrecords : wifeMai.live = [relationRecord plainEnv (py "vợ") (py "mai") (py "s") [] .empty] := hlive
  have hmem : relationRecord plainEnv (py "vợ") (py "mai") (py "s") [] .empty ∈
      wifeMai.profileRecords plainEnv .fact 100 := by
    refine (mem_profileRecords_within ?_).mpr ⟨?_, (relationRecord_isConfirmedProfile _ _ _ _ _ _).2⟩
    · rw [hrecords]
      exact (List.length_filter_le _ _).trans (by simp)
    · rw [hrecords]
      exact List.mem_cons_self
  have hnames : (relationRecord plainEnv (py "vợ") (py "mai") (py "s") [] .empty).namesRelation
      (getLookupLabels (py "vợ")) = true := by
    rw [relationRecord_namesRelation]
    unfold storedLabel
    rw [if_neg (py_ne_nil (by simp))]
    exact getLookupLabels_self _
  unfold keptRecords replacedRecord
  cases e : (wifeMai.profileRecords plainEnv .fact 100).find? (·.namesRelation (getLookupLabels (py "vợ"))) with
  | none => exact absurd hnames (List.find?_eq_none.mp e _ hmem)
  | some x =>
    have hx := mem_live_of_profileRecords plainEnv x (List.mem_of_find?_eq_some e)
    rw [hrecords, List.mem_singleton] at hx
    rw [hrecords, hx]
    simp

/-- The wife is renamed from `mai` to `lan`. -/
theorem relationReplaced_wife :
    (py "vợ", py "mai") ∈ (collectProfileSnapshot plainEnv wifeMai).relations ∧
      RelationReplaced plainEnv (py "vợ") (py "lan") wifeMai
        (saveRelationUpdate plainEnv (py "vợ") (py "lan") (py "s") [] wifeMai).2 := by
  obtain ⟨hlive, hmade, hkeys⟩ := acquaint_live (py "vợ") (py "mai") (w := .empty) List.not_mem_nil
  have hrecords : wifeMai.live = [relationRecord plainEnv (py "vợ") (py "mai") (py "s") [] .empty] := hlive
  have hfresh : plainEnv.uuid wifeMai.made ∉ wifeMai.store.records.keys := by
    unfold wifeMai
    rw [hmade, hkeys]
    decide
  have hsaved : (saveRelationUpdate plainEnv (py "vợ") (py "lan") (py "s") [] wifeMai).1 = true := by
    rw [saveRelationUpdate_eq, trySave_fst (relationMemory_content _ _ _)]
    rfl
  have hfew : ∀ {w : World}, w.live.length ≤ 1 → w.searchable := fun h =>
    ⟨((List.length_filter_le _ _).trans h).trans (by omega),
      ((List.length_filter_le _ _).trans h).trans (by omega)⟩
  have hw : wifeMai.searchable := hfew (by rw [hrecords]; exact le_refl 1)
  have hlive' := live_relationUpdate hfresh hsaved
  rw [keptRecords_wifeMai, List.nil_append] at hlive'
  refine ⟨(mem_relations plainEnv hw).mpr ⟨_, by rw [hrecords]; exact List.mem_cons_self,
      (relationRecord_isConfirmedProfile _ _ _ _ _ _).1, ?_⟩,
    (relationReplaced_iff hfresh hsaved (hfew (by rw [hlive']; exact le_refl 1)) hw).mpr
      ⟨py_ne_nil (by simp), py_ne_nil (by simp), clean_friend (.inl rfl), fun r hr => ?_, fun q hq => ?_⟩⟩
  · exact (shown_relationRecord plainEnv).mpr
      ⟨rfl, py_ne_nil (by simp), clean_friend (.inr rfl), if_neg (py_ne_nil (by simp))⟩
  · rw [keptRecords_wifeMai] at hr
    exact absurd hr List.not_mem_nil
  · rw [keptRecords_wifeMai]
    exact synonym_wife hq

def twoFriends : World := acquaint (py "bạn") (py "mai") (acquaint (py "bạn") (py "lan") .empty)

/-- An update of the friend leaves one of two friends behind. -/
theorem not_relationReplaced_friends :
    ¬ RelationReplaced plainEnv (py "bạn") (py "may") twoFriends
      (saveRelationUpdate plainEnv (py "bạn") (py "may") (py "s") [] twoFriends).2 := by
  have h1 : plainEnv.uuid World.empty.made ∉ World.empty.store.records.keys := List.not_mem_nil
  obtain ⟨hlive1, hmade1, hkeys1⟩ := acquaint_live (py "bạn") (py "lan") h1
  have h2 : plainEnv.uuid (acquaint (py "bạn") (py "lan") .empty).made ∉
      (acquaint (py "bạn") (py "lan") .empty).store.records.keys := by
    rw [hmade1, hkeys1]
    decide
  obtain ⟨hlive2, hmade2, hkeys2⟩ := acquaint_live (py "bạn") (py "mai") h2
  have hfresh : plainEnv.uuid twoFriends.made ∉ twoFriends.store.records.keys := by
    unfold twoFriends
    rw [hmade2, hkeys2, hmade1, hkeys1]
    decide
  have hlive : twoFriends.live =
      [relationRecord plainEnv (py "bạn") (py "lan") (py "s") [] .empty,
        relationRecord plainEnv (py "bạn") (py "mai") (py "s") [] (acquaint (py "bạn") (py "lan") .empty)] := by
    unfold twoFriends
    rw [hlive2, hlive1]
    rfl
  have hsaved : (saveRelationUpdate plainEnv (py "bạn") (py "may") (py "s") [] twoFriends).1 = true := by
    rw [saveRelationUpdate_eq, trySave_fst (relationMemory_content _ _ _)]
    rfl
  have hfew : ∀ p : MemoryRecord → Bool, ((saveRelationUpdate plainEnv (py "bạn") (py "may") (py "s") []
      twoFriends).2.live.filter p).length ≤ 3 := by
    intro p
    refine (List.length_filter_le _ _).trans ?_
    rw [live_relationUpdate hfresh hsaved, List.length_append]
    have hkept := List.length_filter_le (fun r => (replacedRecord plainEnv (py "bạn") twoFriends).all
      fun x => r.id ≠ x.id) twoFriends.live
    rw [hlive] at hkept
    exact Nat.add_le_add_right hkept 1
  intro h
  have hcond := replaceable_of_replaced hfresh hsaved
    ⟨(hfew _).trans (by omega), (hfew _).trans (by omega)⟩ h
  have hname : ∀ {s : String} {w : World}, (s = "lan" ∨ s = "mai") →
      relationRecord plainEnv (py "bạn") (py s) (py "s") [] w ∉
        keptRecords plainEnv (py "bạn") twoFriends := by
    intro s w hs hr
    have hconfirmed := (relationRecord_isConfirmedProfile plainEnv (py "bạn") (py s) (py "s") [] w).1
    have hne : py s ≠ [] := py_ne_nil (by rcases hs with rfl | rfl <;> simp)
    have hstored : storedLabel (py "bạn") = py "bạn" := if_neg (py_ne_nil (by simp))
    have e := hcond.shown _ hr hconfirmed (py "bạn") (synonym_self _) (py "bạn")
      (getLookupLabels_self _) (py s)
      ((shown_relationRecord plainEnv).mpr ⟨rfl, hne, clean_friend hs, hstored⟩)
    rcases hs with rfl | rfl <;> simp at e
  -- the deletion takes one record at most
  have hkeeps : ∀ r ∈ twoFriends.live, r ∉ keptRecords plainEnv (py "bạn") twoFriends →
      ∃ x, replacedRecord plainEnv (py "bạn") twoFriends = some x ∧ r.id = x.id := by
    intro r hr hout
    unfold keptRecords at hout
    rw [List.mem_filter] at hout
    cases e : replacedRecord plainEnv (py "bạn") twoFriends with
    | none =>
      rw [e] at hout
      exact absurd ⟨hr, rfl⟩ hout
    | some x =>
      rw [e] at hout
      refine ⟨x, rfl, ?_⟩
      by_contra hid
      exact hout ⟨hr, decide_eq_true hid⟩
  obtain ⟨x, hx, hid1⟩ := hkeeps _ (by rw [hlive]; exact List.mem_cons_self) (hname (.inl rfl))
  obtain ⟨y, hy, hid2⟩ := hkeeps _ (by rw [hlive]; exact List.mem_cons_of_mem _ List.mem_cons_self)
    (hname (.inr rfl))
  rw [hx] at hy
  rw [← Option.some.inj hy, ← hid1] at hid2
  have hid : plainEnv.uuid (acquaint (py "bạn") (py "lan") .empty).made = plainEnv.uuid World.empty.made := hid2
  rw [hmade1] at hid
  exact absurd hid (by decide)

end Tomtit
