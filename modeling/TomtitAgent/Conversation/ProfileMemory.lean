import TomtitAgent.Memory.MemoryAgent
import TomtitAgent.Conversation.ProfileValues

/-!
# Saving and deleting profile facts

The storage functions of `profile_memory.py`.  A save builds the metadata of a profile record and
writes one record; `except Exception: return False` makes it a `Bool` (`trySave`).  A deletion is a
bounded search of the records tagged `user_profile` and a loop of `store.delete` over the hits
(`World.deleteEach`).
-/

namespace Tomtit
open Py

def self : PyStr := py "self"
def userProfile : PyStr := py "user_profile"
def schemaV1 : PyStr := py "user_profile_fact_v1"
def schemaV2 : PyStr := py "user_profile_fact_v2"

/-! ### searches -/

/-- `MemoryQuery(text="", types=[type], tags=["user_profile"], limit=limit)` -/
def profileQuery (type : MemoryType) (limit : Nat) : MemoryQuery where
  text := []
  userId := none
  sessionId := none
  types := some [type]
  tags := some [userProfile]
  includeDeleted := false
  limit := limit

def World.profileRecords (env : MemoryEnv) (type : MemoryType) (limit : Nat) (w : World) :
    List MemoryRecord := w.store.search env.toMemoryRuntime (profileQuery type limit)

/-- The record has the type and the tag `user_profile`. -/
def MemoryRecord.tagged (type : MemoryType) (r : MemoryRecord) : Bool :=
  r.type = type && userProfile ∈ r.tags

/-- How many live records of the type tagged `user_profile` the ranking of a search puts before
`r`: those of a greater `(importance, updated_at)`, and those of the same that are older. -/
def World.aheadOf (type : MemoryType) (r : MemoryRecord) (w : World) : Nat :=
  ahead MemoryRecord.rank MemoryRecord.id (w.live.filter (·.tagged type)) r

theorem admits_profileQuery (env : MemoryEnv) (type : MemoryType) (limit : Nat) (r : MemoryRecord) :
    InMemoryStore.admits env.toMemoryRuntime (profileQuery type limit) r = r.tagged type := by
  have htext : strip (env.toMemoryRuntime.lower (profileQuery type limit).text) = [] := by
    show strip (env.toUnicode.lower []) = []
    rw [env.toUnicode.lower_nil]
    rfl
  unfold InMemoryStore.admits MemoryRecord.tagged
  rw [htext]
  simp [profileQuery]

theorem profileRecords_eq (env : MemoryEnv) (type : MemoryType) (limit : Nat) (w : World) :
    w.profileRecords env type limit =
      (sortDescending MemoryRecord.rank (w.live.filter (·.tagged type))).take limit := by
  unfold World.profileRecords
  rw [InMemoryStore.search_eq _ rfl]
  show sliceTo (limit : Int) _ = _
  rw [sliceTo_natCast]
  refine congrArg (fun xs => (sortDescending MemoryRecord.rank xs).take limit) ?_
  exact List.filter_congr fun r _ => admits_profileQuery env type limit r

theorem mem_profileRecords {env : MemoryEnv} {type : MemoryType} {limit : Nat} {w : World}
    {r : MemoryRecord} :
    r ∈ w.profileRecords env type limit ↔
      r ∈ w.live ∧ r.tagged type = true ∧ w.aheadOf type r < limit := by
  have hnd : ((w.live.filter (·.tagged type)).map MemoryRecord.id).Nodup :=
    (InMemoryStore.live_ids_nodup w.store).sublist (List.filter_sublist.map _)
  rw [profileRecords_eq, mem_take_sortDescending hnd, List.mem_filter, and_assoc]
  rfl

theorem mem_profileRecords_within {env : MemoryEnv} {type : MemoryType} {limit : Nat} {w : World}
    (h : (w.live.filter (·.tagged type)).length ≤ limit) {r : MemoryRecord} :
    r ∈ w.profileRecords env type limit ↔ r ∈ w.live ∧ r.tagged type = true := by
  rw [profileRecords_eq, List.take_of_length_le (by rw [(sortDescending_perm _).length_eq]; exact h),
    mem_sortDescending, List.mem_filter]

theorem exists_beyond (env : MemoryEnv) {type : MemoryType} {limit : Nat} {w : World}
    (h : limit < (w.live.filter (·.tagged type)).length) :
    ∃ r ∈ w.live, r.tagged type = true ∧ limit ≤ w.aheadOf type r := by
  by_contra hnone
  have hsub : w.live.filter (·.tagged type) ⊆ w.profileRecords env type limit := by
    intro r hr
    obtain ⟨hl, ht⟩ := List.mem_filter.mp hr
    refine mem_profileRecords.mpr ⟨hl, ht, ?_⟩
    by_contra ha
    exact hnone ⟨r, hl, ht, Nat.not_lt.mp ha⟩
  have hnd := (InMemoryStore.live_nodup w.store).filter (·.tagged type)
  have hle := (List.subperm_of_subset hnd hsub).length_le
  rw [profileRecords_eq] at hle
  exact absurd (hle.trans (List.length_take_le limit _)) (Nat.not_le.mpr h)

theorem mem_profileBothRecords {env : MemoryEnv} {limit : Nat} {w : World} {r : MemoryRecord} :
    r ∈ w.profileRecords env .fact limit ++ w.profileRecords env .preference limit ↔
      r ∈ w.live ∧ (r.tagged .fact = true ∨ r.tagged .preference = true) ∧
        w.aheadOf r.type r < limit := by
  have htype : ∀ type, r.tagged type = true → r.type = type := by
    intro type h
    exact of_decide_eq_true (Bool.and_eq_true_iff.mp h).1
  rw [List.mem_append, mem_profileRecords, mem_profileRecords]
  constructor
  · rintro (⟨hl, ht, ha⟩ | ⟨hl, ht, ha⟩)
    · exact ⟨hl, .inl ht, by rw [htype _ ht]; exact ha⟩
    · exact ⟨hl, .inr ht, by rw [htype _ ht]; exact ha⟩
  · rintro ⟨hl, ht | ht, ha⟩
    · exact .inl ⟨hl, ht, by rw [htype _ ht] at ha; exact ha⟩
    · exact .inr ⟨hl, ht, by rw [htype _ ht] at ha; exact ha⟩

namespace MemoryRecord

/-- `md.get("subject") == subject and md.get("relation") == relation` -/
def concerns (subject relation : PyStr) (r : MemoryRecord) : Bool :=
  r.metadata.is (py "subject") subject && r.metadata.is (py "relation") relation

/-- The test on `confirmed` and `profile_schema`, and the one on the subject and the relation. -/
def states (subject relation : PyStr) (r : MemoryRecord) : Bool :=
  r.metadata.confirmedProfile && r.concerns subject relation

end MemoryRecord

/-- `matched = matched or stored` -/
def orStored (matched : Option PyStr) (stored : PyStr) : Option PyStr :=
  match matched with
  | some (c :: cs) => some (c :: cs)
  | _ => some stored

/-- The value of `matched` after a loop over the records that `cond` selects. -/
def matchedValue (cond : MemoryRecord → Bool) (rs : List MemoryRecord) : Option PyStr :=
  ((rs.filter cond).map fun r => r.metadata.value).foldl orStored none

/-! ### saves -/

/-- A `dict` literal: a later item with the same key replaces the value. -/
def dictOf (items : List (PyStr × PyVal)) : Dict PyStr PyVal :=
  items.foldl (fun d kv => d.set kv.1 kv.2) Dict.empty

theorem get?_dictOf (items : List (PyStr × PyVal)) (k : PyStr) :
    (dictOf items).get? k = assoc items.reverse k := by
  induction items using List.reverseRecOn with
  | nil => rfl
  | append_singleton items kv ih =>
    unfold dictOf at ih ⊢
    rw [List.foldl_append, List.foldl_cons, List.foldl_nil, Dict.get?_set, ih, List.reverse_append,
      List.reverse_singleton, List.singleton_append, assoc_cons]

theorem mem_dictOf {items : List (PyStr × PyVal)} {k : PyStr} {v : PyVal}
    (h : (dictOf items).get? k = some v) : (k, v) ∈ items := by
  rw [get?_dictOf] at h
  exact List.mem_reverse.mp (assoc_mem h)

def TextItems (items : List (PyStr × PyVal)) : Prop :=
  ∀ kv ∈ items, kv.1 ∈ profileTextKeys → ∃ s, kv.2 = .str s

theorem TextItems.metadata {items : List (PyStr × PyVal)} (h : TextItems items) :
    (Metadata.mk (dictOf items)).Texts := fun _ _ hk _ hv => h _ (mem_dictOf hv) hk

theorem TextItems.append {items items' : List (PyStr × PyVal)} (h : TextItems items)
    (h' : TextItems items') : TextItems (items ++ items') := by
  intro kv hkv
  rcases List.mem_append.mp hkv with hm | hm
  · exact h kv hm
  · exact h' kv hm

def textItems (texts : List (PyStr × PyStr)) : List (PyStr × PyVal) :=
  texts.map fun kv => (kv.1, .str kv.2)

theorem textItems_texts (texts : List (PyStr × PyStr)) : TextItems (textItems texts) := by
  intro kv hkv _
  obtain ⟨kv', _, rfl⟩ := List.mem_map.mp hkv
  exact ⟨kv'.2, rfl⟩

def confirmedItem : List (PyStr × PyVal) := [(py "confirmed", .bool true)]

theorem confirmedItem_texts : TextItems confirmedItem := by
  intro kv hkv hk
  rw [List.mem_singleton.mp hkv] at hk
  simp [profileTextKeys] at hk

/-- The metadata of a profile record: texts, `confirmed`, and the texts after it. -/
def profileMetadata (before after : List (PyStr × PyStr)) : Metadata :=
  ⟨dictOf (textItems before ++ (confirmedItem ++ textItems after))⟩

theorem get?_profileMetadata (before after : List (PyStr × PyStr)) (k : PyStr) :
    (profileMetadata before after).dict.get? k =
      assoc (textItems before ++ (confirmedItem ++ textItems after)).reverse k := get?_dictOf _ _

theorem profileMetadata_texts (before after : List (PyStr × PyStr)) :
    (profileMetadata before after).Texts :=
  ((textItems_texts before).append (confirmedItem_texts.append (textItems_texts after))).metadata

def weight07 : Weight := ⟨⟨0x3FE6666666666666#64⟩, by decide⟩
def weight08 : Weight := ⟨⟨0x3FE999999999999A#64⟩, by decide⟩
def weight09 : Weight := ⟨⟨0x3FECCCCCCCCCCCCD#64⟩, by decide⟩
def weight095 : Weight := ⟨⟨0x3FEE666666666666#64⟩, by decide⟩

section
variable (env : MemoryEnv)

/-- `try: MemoryAgent(store, user_id=None, session_id=session_id).save_…(…); return True` with
`except Exception: return False`. -/
def trySave (sessionId : PyStr) (m : NewMemory) (w : World) : Bool × World :=
  match (MemoryAgent.mk none (some sessionId)).saveMemory env m w with
  | (.ok _, w') => (true, w')
  | (.error _, w') => (false, w')

structure ProfileFactCandidate where
  subject : PyStr
  relation : PyStr
  value : PyStr
  relationLabel : Option PyStr
  originalText : PyStr

/-- `_RELATION_TAG_MAP` -/
def relationTagMap : List (PyStr × PyStr) :=
  [(py "bạn gái", py "ban_gai"), (py "bạn trai", py "ban_trai"), (py "vợ", py "vo"),
    (py "chồng", py "chong"), (py "người yêu", py "nguoi_yeu"), (py "partner", py "partner")]

/-- `save_confirmed_profile_fact(…, confirmation_source="auto_safe")` -/
def saveConfirmedProfileFact (candidate : ProfileFactCandidate) (sessionId : PyStr) (w : World) :
    Bool × World :=
  let before := [(py "profile_schema", schemaV1), (py "subject", candidate.subject),
    (py "relation", candidate.relation), (py "value", candidate.value)]
  let after := [(py "confirmation_source", py "auto_safe"),
    (py "original_text", candidate.originalText), (py "write_policy", py "auto_safe")]
  let label := match candidate.relationLabel with
    | some (c :: cs) => c :: cs
    | _ => py "relation"
  if candidate.subject = self then
    trySave env sessionId
      { content := py "tên của bạn là " ++ candidate.value
        type := .fact
        tags := [userProfile, self, py "name"]
        importance := weight09
        confidence := weight1
        source := .user
        metadata := profileMetadata before after
        texts := profileMetadata_texts _ _ } w
  else
    trySave env sessionId
      { content := label ++ py " của bạn tên là " ++ candidate.value
        type := .fact
        tags := [userProfile, py "relation", py "name",
          (relationTagMap.lookup label).getD (replaceChar 32 95 label)]
        importance := weight09
        confidence := weight1
        source := .user
        metadata := profileMetadata before (after ++ [(py "relation_label", label)])
        texts := profileMetadata_texts _ _ } w

/-- The metadata that every v2 fact starts with, and the texts a caller adds. -/
def v2Metadata (subject relation value originalText : PyStr) (extra : List (PyStr × PyStr)) :
    Metadata :=
  profileMetadata [(py "profile_schema", schemaV2), (py "subject", subject),
      (py "relation", relation), (py "value", value)]
    ([(py "confirmation_source", py "auto_safe"), (py "write_policy", py "auto_safe"),
      (py "source", py "conversation"), (py "confidence_label", py "high"),
      (py "extractor", py "rule_based_profile_v1"), (py "original_text", originalText)] ++ extra)

/-- The keys that the callers of `v2Metadata` add. -/
def extraKeys : List PyStr :=
  [py "preference_kind", py "favorite_domain", py "compared_to", py "comparative_domain",
    py "date_scope"]

def Extra (extra : List (PyStr × PyStr)) : Prop := ∀ kv ∈ extra, kv.1 ∈ extraKeys

theorem assoc_append_of_notMem {κ ν : Type} [DecidableEq κ] {kvs kvs' : List (κ × ν)} {k : κ}
    (h : k ∉ kvs.map Prod.fst) : assoc (kvs ++ kvs') k = assoc kvs' k := by
  induction kvs with
  | nil => rfl
  | cons kv kvs ih =>
    obtain ⟨a, v⟩ := kv
    rw [List.map_cons, List.mem_cons, not_or] at h
    rw [List.cons_append, assoc_cons, if_neg h.1, ih h.2]

theorem get?_v2Metadata {subject relation value originalText : PyStr} {extra : List (PyStr × PyStr)}
    {k : PyStr} (h : k ∉ extra.map Prod.fst) :
    (v2Metadata subject relation value originalText extra).dict.get? k =
      (v2Metadata subject relation value originalText []).dict.get? k := by
  have hsplit : ∀ base : List (PyStr × PyStr),
      textItems (base ++ extra) = textItems base ++ textItems extra := fun base => List.map_append
  have hkeys : k ∉ (textItems extra).reverse.map Prod.fst := by
    rw [List.map_reverse, List.mem_reverse]
    unfold textItems
    rw [List.map_map]
    exact h
  unfold v2Metadata
  rw [get?_profileMetadata, get?_profileMetadata, hsplit, List.append_nil, ← List.append_assoc,
    ← List.append_assoc, List.reverse_append, assoc_append_of_notMem hkeys, List.append_assoc]

section
variable {subject relation value originalText : PyStr} {extra : List (PyStr × PyStr)}

theorem Extra.notMem (h : Extra extra) {k : PyStr} (hk : k ∉ extraKeys) : k ∉ extra.map Prod.fst := by
  intro hmem
  obtain ⟨kv, hkv, rfl⟩ := List.mem_map.mp hmem
  exact hk (h kv hkv)

theorem v2Metadata_reads (h : Extra extra) :
    let md := v2Metadata subject relation value originalText extra
    md.value = value ∧ md.confirmedProfile = true ∧ hasProfileSchema md.dict = true ∧
      (∀ s, md.is (py "subject") s = decide (subject = s)) ∧
      (∀ s, md.is (py "relation") s = decide (relation = s)) := by
  have hget : ∀ k, k ∉ extraKeys → (v2Metadata subject relation value originalText extra).dict.get? k =
      assoc (textItems [(py "original_text", originalText), (py "extractor", py "rule_based_profile_v1"),
        (py "confidence_label", py "high"), (py "source", py "conversation"),
        (py "write_policy", py "auto_safe"), (py "confirmation_source", py "auto_safe")] ++
        (confirmedItem ++ textItems [(py "value", value), (py "relation", relation),
          (py "subject", subject), (py "profile_schema", schemaV2)])) k := by
    intro k hk
    rw [get?_v2Metadata (h.notMem hk)]
    exact get?_dictOf _ _
  have hvalue := hget (py "value") (by simp [extraKeys])
  have hconfirmed := hget (py "confirmed") (by simp [extraKeys])
  have hschema := hget (py "profile_schema") (by simp [extraKeys])
  have hsubject := hget (py "subject") (by simp [extraKeys])
  have hrelation := hget (py "relation") (by simp [extraKeys])
  simp only [textItems, confirmedItem, List.map_cons, List.map_nil, List.cons_append, List.nil_append,
    assoc_cons, py_inj, String.reduceEq, if_true, if_false] at hvalue hconfirmed hschema hsubject hrelation
  have hs : hasProfileSchema (v2Metadata subject relation value originalText extra).dict = true := by
    simp [hasProfileSchema, holdsText, hschema, profileSchemas, PyVal.asStr, schemaV2]
  refine ⟨?_, ?_, hs, fun s => ?_, fun s => ?_⟩
  · simp only [Metadata.value, Metadata.text, hvalue]
  · simp [Metadata.confirmedProfile, hconfirmed, hs, truthy]
  · simp [Metadata.is, holdsText, hsubject, PyVal.asStr]
  · simp [Metadata.is, holdsText, hrelation, PyVal.asStr]

end

/-- `_save_profile_v2_fact` -/
def saveProfileV2Fact (sessionId subject relation value content : PyStr) (tags : List PyStr)
    (originalText : PyStr) (extra : List (PyStr × PyStr)) (w : World) : Bool × World :=
  trySave env sessionId
    { content := content
      type := .fact
      tags := tags
      importance := weight08
      confidence := weight095
      source := .user
      metadata := v2Metadata subject relation value originalText extra
      texts := profileMetadata_texts _ _ } w

/-! ### deletions -/

/-- `_delete_profile_records` -/
def deleteProfileRecords (subject relation value : PyStr) (w : World) : World :=
  w.deleteEach env
    (fun r => r.states subject relation &&
      normCmp env.toUnicode r.metadata.value = normCmp env.toUnicode value)
    (py "affection_polarity_superseded") (w.profileRecords env .fact 200)

/-- `_RELATION_SYNONYM_MAP` -/
def relationSynonymMap : List (PyStr × List PyStr) :=
  [(py "người yêu", [py "bạn gái", py "bạn trai", py "người yêu", py "partner"]),
    (py "partner", [py "bạn gái", py "bạn trai", py "người yêu", py "partner"])]

/-- `_get_lookup_labels` of a label -/
def getLookupLabels (label : PyStr) : List PyStr := (relationSynonymMap.lookup label).getD [label]

/-- A confirmed name of a relation under one of the labels. -/
def MemoryRecord.namesRelation (labels : List PyStr) (r : MemoryRecord) : Bool :=
  r.states (py "relation") (py "name") && labels.any fun l => r.metadata.is (py "relation_label") l

def deleteRelationFact (label : PyStr) (w : World) : Option PyStr × World :=
  match (w.profileRecords env .fact 100).find? (·.namesRelation (getLookupLabels label)) with
  | none => (none, w)
  | some r => (some r.metadata.value, w.delete env r.id (py "user_removal"))

def deleteOccupationFact (value : PyStr) (w : World) : Option PyStr × World :=
  let cond (r : MemoryRecord) : Bool := r.states self (py "occupation") &&
    normCmp env.toUnicode r.metadata.value = normCmp env.toUnicode value
  let records := w.profileRecords env .fact 200
  (matchedValue cond records, w.deleteEach env cond (py "user_removal") records)

/-- `_find_conflicting_preference_records` -/
def findConflictingPreferenceRecords (value : PyStr) (w : World) : List MemoryRecord :=
  (w.profileRecords env .fact 200 ++ w.profileRecords env .preference 200).filter fun r =>
    (r.states self (py "preference") || r.states self (py "negative_preference")) &&
    r.metadata.value ≠ [] && preferenceConflicts env.toUnicode r.metadata.value value

def oppositePreference (newRelation : PyStr) : PyStr :=
  if newRelation = py "preference" then py "negative_preference" else py "preference"

def resolvePreferenceConflicts (value newRelation : PyStr) (w : World) : World :=
  w.deleteEach env (fun r => r.metadata.is (py "relation") (oppositePreference newRelation))
    (py "preference_conflict_resolved") (findConflictingPreferenceRecords env value w)

/-- `_delete_canonical_alias_preference_records` -/
def deleteCanonicalAliasPreferenceRecords (value relation : PyStr) (w : World) : World :=
  let canonical := normCmp env.toUnicode (canonicalizeKnownPreferenceValue env.toUnicode value)
  w.deleteEach env
    (fun r => r.metadata.is (py "relation") relation &&
      normCmp env.toUnicode r.metadata.value ≠ canonical &&
      normCmp env.toUnicode (canonicalizeKnownPreferenceValue env.toUnicode r.metadata.value) =
        canonical)
    (py "preference_alias_canonicalized") (findConflictingPreferenceRecords env value w)

def oppositeSkill (newRelation : PyStr) : PyStr :=
  if newRelation = py "skill" then py "negative_skill" else py "skill"

def resolveSkillConflicts (value newRelation : PyStr) (w : World) : World :=
  w.deleteEach env
    (fun r => r.states self (oppositeSkill newRelation) &&
      normCmp env.toUnicode r.metadata.value = normCmp env.toUnicode value)
    (py "skill_conflict_resolved") (w.profileRecords env .fact 200)

/-! ### the saves of each kind of fact -/

structure AutoProfileCandidate where
  relation : PyStr
  value : PyStr
  originalText : PyStr
  preferenceKind : Option PyStr := none

/-- `_content_map` as the text before the value -/
def contentMap : List (PyStr × PyStr) :=
  [(py "occupation", py "bạn là "), (py "preference", py "bạn thích "),
    (py "goal", py "mục tiêu của bạn là "), (py "wants_to_marry", py "bạn muốn cưới "),
    (py "wants_to_eat", py "bạn muốn ăn "), (py "temporal_today", py "hôm nay bạn muốn "),
    (py "learning_focus", py "bạn đang học "), (py "habit", py "bạn hay "),
    (py "skill", py "bạn biết "), (py "household_pet", py "nhà bạn có nuôi "),
    (py "negative_preference", py "bạn không thích "), (py "negative_skill", py "bạn không biết "),
    (py "goal_focus", py "mục tiêu chính của bạn là ")]

def isPreferenceRelation (relation : PyStr) : Bool :=
  relation = py "preference" || relation = py "negative_preference"

/-- The record of `save_auto_profile_fact`. -/
def autoProfileMemory (candidate : AutoProfileCandidate) : NewMemory :=
  let relation := candidate.relation
  let value := if isPreferenceRelation relation then
    canonicalizeKnownPreferenceValue env.toUnicode candidate.value else candidate.value
  let kind := match candidate.preferenceKind with
    | some (c :: cs) => if relation = py "preference" then [(py "preference_kind", c :: cs)] else []
    | _ => []
  { content := (contentMap.lookup relation).getD (relation ++ py ": ") ++ value
    type := if relation = py "preference" then .preference else .fact
    tags := [userProfile, self, relation] ++
      if relation = py "preference" then [py "interest"] else []
    importance := if relation = py "preference" then weight07 else weight08
    confidence := weight095
    source := .user
    metadata := v2Metadata self relation value candidate.originalText kind
    texts := profileMetadata_texts _ _ }

def saveAutoProfileFact (candidate : AutoProfileCandidate) (sessionId : PyStr) (w : World) :
    Bool × World :=
  let m := autoProfileMemory env candidate
  trySave env sessionId m
    (if isPreferenceRelation candidate.relation then
      deleteCanonicalAliasPreferenceRecords env
        (canonicalizeKnownPreferenceValue env.toUnicode candidate.value) candidate.relation w
    else w)

def saveAffectionFact (value sessionId originalText : PyStr) (w : World) : Bool × World :=
  saveProfileV2Fact env sessionId self (py "affection") value (py "bạn có tình cảm/thích " ++ value)
    [userProfile, self, py "affection"] originalText []
    (deleteProfileRecords env self (py "negative_affection") value w)

def saveNegativeAffectionFact (value sessionId originalText : PyStr) (w : World) : Bool × World :=
  saveProfileV2Fact env sessionId self (py "negative_affection") value
    (py "bạn không còn thích/quan tâm " ++ value)
    [userProfile, self, py "affection"] originalText []
    (deleteProfileRecords env self (py "affection") value w)

def saveFavoriteFact (value domain sessionId originalText : PyStr) (w : World) : Bool × World :=
  saveProfileV2Fact env sessionId self (py "favorite") value
    (py "bạn thích " ++ value ++ py " nhất") [userProfile, self, py "favorite"] originalText
    [(py "favorite_domain", domain)] w

def saveComparativeFact (winner loser domain sessionId originalText : PyStr) (w : World) :
    Bool × World :=
  saveProfileV2Fact env sessionId self (py "comparative") winner
    (py "bạn thích " ++ winner ++ py " hơn " ++ loser) [userProfile, self, py "comparative"]
    originalText [(py "compared_to", loser), (py "comparative_domain", domain)] w

def saveExternalAffectionFact (admirer sessionId originalText : PyStr) (w : World) : Bool × World :=
  saveProfileV2Fact env sessionId (py "external") (py "affection_to_user") admirer
    (admirer ++ py " thích bạn (theo thông tin bạn cung cấp)")
    [userProfile, py "external", py "affection"] originalText []
    (deleteProfileRecords env (py "external") (py "affection_to_user_negative") admirer w)

def saveNegativeExternalAffectionFact (admirer sessionId originalText : PyStr) (w : World) :
    Bool × World :=
  saveProfileV2Fact env sessionId (py "external") (py "affection_to_user_negative") admirer
    (admirer ++ py " không thích bạn (theo thông tin bạn cung cấp)")
    [userProfile, py "external", py "affection"] originalText []
    (deleteProfileRecords env (py "external") (py "affection_to_user") admirer w)

def saveIntentionGoalFact (value sessionId originalText : PyStr) (w : World) : Bool × World :=
  saveProfileV2Fact env sessionId self (py "goal") value (py "bạn định/muốn " ++ value)
    [userProfile, self, py "goal"] originalText []
    (deleteProfileRecords env self (py "negative_goal") value w)

def saveNegativeGoalFact (value sessionId originalText : PyStr) (w : World) : Bool × World :=
  saveProfileV2Fact env sessionId self (py "negative_goal") value
    (py "bạn không còn muốn/định " ++ value) [userProfile, self, py "goal"] originalText []
    (deleteProfileRecords env self (py "goal_focus") value
      (deleteProfileRecords env self (py "goal") value w))

def saveSelfNameUpdate (value sessionId originalText : PyStr) (w : World) : Bool × World :=
  saveConfirmedProfileFact env
    { subject := self, relation := py "name", value := value, relationLabel := none
      originalText := originalText } sessionId w

def saveRelationUpdate (label newName sessionId originalText : PyStr) (w : World) : Bool × World :=
  saveConfirmedProfileFact env
    { subject := py "relation", relation := py "name", value := newName
      relationLabel := some label, originalText := originalText } sessionId
    (deleteRelationFact env label w).2

/-! ### bulk deletion -/

/-- The loop of the bulk deletions: `seen` are the ids of the records before, and the count grows
with each deletion. -/
def deleteSeen (cond : MemoryRecord → Bool) (reason : PyStr) :
    List PyStr → List MemoryRecord → Nat × World → Nat × World
  | _, [], acc => acc
  | seen, r :: rs, acc =>
    if r.id ∈ seen then deleteSeen cond reason seen rs acc
    else deleteSeen cond reason (r.id :: seen) rs
      (if cond r then (acc.1 + 1, acc.2.delete env r.id reason) else acc)

def deleteProfileMemoryForSession (sessionId : PyStr) (w : World) : Nat × World :=
  deleteSeen env
    (fun r => r.sessionId = some sessionId && hasProfileSchema r.metadata.dict)
    (py "debug_session_memory_reset") []
    (w.profileRecords env .fact 500 ++ w.profileRecords env .preference 500) (0, w)

def deleteAllProfileMemory (w : World) : Nat × World :=
  deleteSeen env (fun r => hasProfileSchema r.metadata.dict) (py "user_delete_all_memory") []
    (w.profileRecords env .fact 500 ++ w.profileRecords env .preference 500) (0, w)

end

end Tomtit
