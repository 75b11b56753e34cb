import TomtitAgent.Conversation.Snapshot

/-!
# What the snapshot contains

A `Shelf` is a list of the snapshot that collects values, and `ProfileSnapshot.keys` the entries of a
shelf up to `_norm_cmp`.  `MemoryRecord.shown` is the one entry that a record is to put on a shelf.
`mem_keys_collect` says that the snapshot has exactly the entries of the records that it reads: an
entry is merged with an equal one, and none is dropped or replaced.
-/

namespace Tomtit
open Py

inductive Shelf where
  | goals | negativeGoals | skills | personal | professional | dislikes | affections
  | negativeAffections | external | negativeExternal | habits | relations
deriving DecidableEq, Repr

section
variable (env : MemoryEnv)

/-- The keys of a list of values: a relation has its label besides. -/
def valueKeys (values : List PyStr) : List (PyStr × PyStr) := values.map fun v => ([], env.norm v)

def ProfileSnapshot.keys (snap : ProfileSnapshot) : Shelf → List (PyStr × PyStr)
  | .goals => valueKeys env snap.goals
  | .negativeGoals => valueKeys env snap.negativeGoals
  | .skills => valueKeys env snap.skills
  | .personal => valueKeys env snap.preferencesPersonal
  | .professional => valueKeys env snap.preferencesProfessional
  | .dislikes => valueKeys env snap.dislikes
  | .affections => valueKeys env snap.affections
  | .negativeAffections => valueKeys env snap.negativeAffections
  | .external => valueKeys env snap.externalAffections
  | .negativeExternal => valueKeys env snap.negativeExternalAffections
  | .habits => valueKeys env snap.habits
  | .relations => snap.relations

def MemoryEnv.valueKey (env : MemoryEnv) (val : PyStr) : PyStr × PyStr := ([], env.norm val)

def MemoryEnv.personKey (env : MemoryEnv) (val : PyStr) : PyStr × PyStr :=
  ([], env.norm (canonicalPersonName env.toUnicode val))

/-- The entry of a record with the slot; the winner of a comparison is a personal preference. -/
def slotEntry (md : Metadata) (val : PyStr) : ProfileSlot → Option (Shelf × PyStr × PyStr)
  | .goal => some (.goals, env.valueKey val)
  | .focus => some (.goals, env.valueKey val)
  | .negativeGoal => some (.negativeGoals, env.valueKey val)
  | .skill => some (.skills, env.valueKey val)
  | .comparative => some (.personal, env.valueKey val)
  | .preference =>
    if isPollutedPreference env.toUnicode val then none
    else if md.is (py "preference_kind") (py "professional") then
      some (.professional, env.valueKey val)
    else some (.personal, env.valueKey val)
  | .negativePreference => some (.dislikes, env.valueKey val)
  | .affection => some (.affections, env.personKey val)
  | .negativeAffection => some (.negativeAffections, env.personKey val)
  | .externalAffection => some (.external, env.personKey val)
  | .negativeExternalAffection => some (.negativeExternal, env.personKey val)
  | .habit => some (.habits, env.valueKey val)
  | .relation =>
    some (.relations, md.text (py "relation_label") (py "người liên quan"), val)
  | .name | .occupation | .negativeSkill | .learning | .marry | .eat | .today | .favorite | .pet => none

/-- The value of a record that the snapshot reads: not empty, and clean unless it is a comparison. -/
def MemoryRecord.readable (r : MemoryRecord) : Bool :=
  r.metadata.value ≠ [] &&
    (r.metadata.is (py "relation") (py "comparative") || !isDirtyValue env.toUnicode r.metadata.value)

def MemoryRecord.shown (r : MemoryRecord) : Option (Shelf × PyStr × PyStr) :=
  if r.readable env then r.slot?.bind (slotEntry env r.metadata r.metadata.value) else none

/-! ### one record -/

/-- The keys before the corrections, where the winners still wait beside the preferences. -/
def draftKeys (snap : ProfileSnapshot) : Shelf → List (PyStr × PyStr)
  | .personal => valueKeys env snap.preferencesPersonal ++
      valueKeys env (snap.comparatives.map Prod.fst)
  | s => snap.keys env s

theorem mem_valueKeys_addValue {bucket : List PyStr} {val : PyStr} {k : PyStr × PyStr} :
    k ∈ valueKeys env (addValue env bucket val) ↔ k ∈ valueKeys env bucket ∨ k = env.valueKey val := by
  have hmem : env.norm val ∈ bucket.map env.norm ↔ env.valueKey val ∈ valueKeys env bucket := by
    unfold valueKeys MemoryEnv.valueKey
    simp only [List.mem_map, Prod.mk.injEq, true_and]
  unfold addValue
  split_ifs with h
  · refine ⟨.inl, fun hk => hk.elim id ?_⟩
    rintro rfl
    exact hmem.mp h
  · unfold valueKeys
    rw [List.map_append, List.mem_append, List.map_singleton, List.mem_singleton]
    rfl

theorem mem_addPair {pairs : List (PyStr × PyStr)} {p k : PyStr × PyStr} :
    k ∈ addPair pairs p ↔ k ∈ pairs ∨ k = p := by
  unfold addPair
  split_ifs with h
  · refine ⟨.inl, fun hk => hk.elim id ?_⟩
    rintro rfl
    exact h
  · rw [List.mem_append, List.mem_singleton]

theorem mem_winners_addPair {pairs : List (PyStr × PyStr)} {winner loser : PyStr}
    {k : PyStr × PyStr} :
    k ∈ valueKeys env ((addPair pairs (winner, loser)).map Prod.fst) ↔
      k ∈ valueKeys env (pairs.map Prod.fst) ∨ k = env.valueKey winner := by
  unfold valueKeys MemoryEnv.valueKey
  simp only [List.mem_map, mem_addPair]
  constructor
  · rintro ⟨v, ⟨p, hp | rfl, rfl⟩, rfl⟩
    · exact .inl ⟨_, ⟨p, hp, rfl⟩, rfl⟩
    · exact .inr rfl
  · rintro (⟨v, ⟨p, hp, rfl⟩, rfl⟩ | rfl)
    · exact ⟨_, ⟨p, .inl hp, rfl⟩, rfl⟩
    · exact ⟨_, ⟨_, .inr rfl, rfl⟩, rfl⟩

theorem mem_draftKeys_fillSlot {snap : ProfileSnapshot} {md : Metadata} {val : PyStr}
    {slot : ProfileSlot} {s : Shelf} {k : PyStr × PyStr} :
    k ∈ draftKeys env (fillSlot env snap md val slot) s ↔
      k ∈ draftKeys env snap s ∨ slotEntry env md val slot = some (s, k) := by
  have hkeep : ∀ snap' : ProfileSnapshot, draftKeys env snap' s = draftKeys env snap s →
      (k ∈ draftKeys env snap' s ↔ k ∈ draftKeys env snap s ∨
        (none : Option (Shelf × PyStr × PyStr)) = some (s, k)) := by
    intro snap' h
    rw [h]
    exact ⟨.inl, fun h => h.resolve_right (by simp)⟩
  cases slot with
  | name =>
    refine hkeep _ ?_
    rw [fillSlot]
    split
    · split_ifs <;> cases s <;> rfl
    · cases s <;> rfl
  | occupation => exact hkeep _ (by cases s <;> rfl)
  | negativeSkill => exact hkeep _ (by cases s <;> rfl)
  | learning => exact hkeep _ (by cases s <;> rfl)
  | marry => exact hkeep _ (by cases s <;> rfl)
  | eat => exact hkeep _ (by cases s <;> rfl)
  | pet => exact hkeep _ (by cases s <;> rfl)
  | today =>
    refine hkeep _ ?_
    rw [fillSlot]
    split_ifs <;> cases s <;> rfl
  | favorite =>
    refine hkeep _ ?_
    rw [fillSlot]
    split_ifs <;> cases s <;> rfl
  | preference =>
    rw [fillSlot, slotEntry]
    split_ifs with hp hk
    · exact ⟨.inl, fun h => h.resolve_right id⟩
    · cases s <;> simp [draftKeys, ProfileSnapshot.keys, mem_valueKeys_addValue, eq_comm]
    · cases s <;>
        simp [draftKeys, ProfileSnapshot.keys, mem_valueKeys_addValue, eq_comm, or_right_comm]
  | comparative =>
    cases s <;>
      simp [fillSlot, slotEntry, draftKeys, ProfileSnapshot.keys, mem_winners_addPair, eq_comm,
        or_assoc]
  | relation =>
    cases s <;> simp [fillSlot, slotEntry, draftKeys, ProfileSnapshot.keys, mem_addPair, eq_comm]
  | _ =>
    cases s <;>
      simp [fillSlot, slotEntry, draftKeys, ProfileSnapshot.keys, mem_valueKeys_addValue,
        MemoryEnv.personKey, MemoryEnv.valueKey, eq_comm]

theorem mem_draftKeys_readRecord {snap : ProfileSnapshot} {r : MemoryRecord} {s : Shelf}
    {k : PyStr × PyStr} :
    k ∈ draftKeys env (readRecord env snap r) s ↔
      k ∈ draftKeys env snap s ∨ r.shown env = some (s, k) := by
  have hskip : k ∈ draftKeys env snap s ↔
      k ∈ draftKeys env snap s ∨ (none : Option (Shelf × PyStr × PyStr)) = some (s, k) :=
    ⟨.inl, fun h => h.resolve_right (by simp)⟩
  unfold readRecord MemoryRecord.shown MemoryRecord.readable
  by_cases hval : r.metadata.value = []
  · simp only [hval, if_true, ne_eq, not_true_eq_false, decide_false, Bool.false_and,
      Bool.false_eq_true, if_false]
    exact hskip
  · by_cases hdirty : (!r.metadata.is (py "relation") (py "comparative") &&
        isDirtyValue env.toUnicode r.metadata.value) = true
    · have hunread : (r.metadata.is (py "relation") (py "comparative") ||
          !isDirtyValue env.toUnicode r.metadata.value) = false := by
        rw [Bool.and_eq_true, Bool.not_eq_true'] at hdirty
        rw [hdirty.1, hdirty.2]
        rfl
      simp only [hval, hdirty, hunread, if_false, if_true, Bool.and_false, Bool.false_eq_true]
      exact hskip
    · have hread : (r.metadata.is (py "relation") (py "comparative") ||
          !isDirtyValue env.toUnicode r.metadata.value) = true := by
        rw [Bool.not_eq_true, Bool.and_eq_false_iff, Bool.not_eq_false'] at hdirty
        rcases hdirty with h | h
        · rw [h]
          rfl
        · rw [h, Bool.not_false, Bool.or_true]
      simp only [hval, hdirty, hread, if_false, if_true, Bool.and_true, ne_eq, not_false_eq_true,
        decide_true]
      cases r.slot? with
      | none => exact hskip
      | some slot => exact mem_draftKeys_fillSlot env

theorem mem_draftKeys_foldl {rs : List MemoryRecord} {snap : ProfileSnapshot} {s : Shelf}
    {k : PyStr × PyStr} :
    k ∈ draftKeys env (rs.foldl (readRecord env) snap) s ↔
      k ∈ draftKeys env snap s ∨ ∃ r ∈ rs, r.shown env = some (s, k) := by
  induction rs generalizing snap with
  | nil => simp
  | cons r rs ih =>
    rw [List.foldl_cons, ih, mem_draftKeys_readRecord, List.exists_mem_cons_iff, or_assoc]

/-! ### the corrections -/

theorem mem_valueKeys_foldl_addValue {values bucket : List PyStr} {k : PyStr × PyStr} :
    k ∈ valueKeys env (values.foldl (addValue env) bucket) ↔
      k ∈ valueKeys env bucket ∨ k ∈ valueKeys env values := by
  induction values generalizing bucket with
  | nil => simp [valueKeys]
  | cons v values ih =>
    have hcons : k ∈ valueKeys env (v :: values) ↔ k = env.valueKey v ∨ k ∈ valueKeys env values :=
      List.mem_cons
    rw [List.foldl_cons, ih, mem_valueKeys_addValue, hcons, or_assoc]

theorem settleSnapshot_skills (snap : ProfileSnapshot) :
    (settleSnapshot env snap).skills = snap.skills := by
  show (if snap.negativeSkills = [] then snap.skills else snap.skills.filter _) = snap.skills
  split_ifs with h
  · rfl
  · refine List.filter_eq_self.mpr fun s hs => ?_
    rw [decide_eq_true_eq, List.mem_map]
    rintro ⟨t, ht, e⟩
    have hout := of_decide_eq_true (List.mem_filter.mp ht).2
    rw [e] at hout
    exact hout (List.mem_map_of_mem hs)

theorem mem_keys_settleSnapshot {snap : ProfileSnapshot} {s : Shelf} {k : PyStr × PyStr} :
    k ∈ (settleSnapshot env snap).keys env s ↔ k ∈ draftKeys env snap s := by
  cases s with
  | skills => rw [ProfileSnapshot.keys, settleSnapshot_skills]; rfl
  | personal =>
    rw [draftKeys, List.mem_append, ← mem_valueKeys_foldl_addValue]
    rfl
  | _ => rfl

/-- The snapshot has exactly the entries of the records that it reads. -/
theorem mem_keys_collect {w : World} {s : Shelf} {k : PyStr × PyStr} :
    k ∈ (collectProfileSnapshot env w).keys env s ↔
      ∃ r ∈ confirmedRecords env w, r.shown env = some (s, k) := by
  unfold collectProfileSnapshot
  rw [mem_keys_settleSnapshot, mem_draftKeys_foldl]
  have hnone : k ∉ draftKeys env {} s := by
    cases s <;> exact List.not_mem_nil
  exact ⟨fun h => h.resolve_left hnone, .inr⟩

theorem mem_confirmedRecords {w : World} {r : MemoryRecord} :
    r ∈ confirmedRecords env w ↔ r ∈ w.live ∧ r.metadata.confirmedProfile = true ∧
      (r.tagged .fact = true ∨ r.tagged .preference = true) ∧ w.aheadOf r.type r < 200 := by
  unfold confirmedRecords
  rw [List.mem_insertionSort, List.mem_filter, mem_profileBothRecords]
  exact ⟨fun ⟨⟨h1, h2, h3⟩, h4⟩ => ⟨h1, h4, h2, h3⟩, fun ⟨h1, h4, h2, h3⟩ => ⟨⟨h1, h2, h3⟩, h4⟩⟩

/-! ### records of the v2 schema -/

theorem find_row : ∀ row ∈ profileSlots,
    (profileSlots.find? fun row' => row.1 = row'.1 && row.2.1 = row'.2.1).map (fun row' => row'.2.2) =
      some row.2.2 := by
  unfold profileSlots self
  repeat rw [py_ofList]
  decide +kernel

theorem slot_of_row {subject relation : PyStr} {slot : ProfileSlot} (n : Nat)
    (h : profileSlots[n]? = some (subject, relation, slot)) :
    ((profileSlots.find? fun row => subject = row.1 && relation = row.2.1).map fun row => row.2.2) =
      some slot := find_row _ (List.mem_of_getElem? h)

theorem slot?_v2 {r : MemoryRecord} {subject relation value originalText : PyStr}
    {extra : List (PyStr × PyStr)} (hmd : r.metadata = v2Metadata subject relation value originalText extra)
    (h : Extra extra) :
    r.slot? = (profileSlots.find? fun row => subject = row.1 && relation = row.2.1).map
      fun row => row.2.2 := by
  obtain ⟨-, -, -, hs, hr⟩ := @v2Metadata_reads subject relation value originalText extra h
  unfold MemoryRecord.slot? MemoryRecord.concerns
  rw [hmd]
  simp only [hs, hr]

theorem shown_v2 {r : MemoryRecord} {subject relation value originalText : PyStr}
    {extra : List (PyStr × PyStr)} (hmd : r.metadata = v2Metadata subject relation value originalText extra)
    (h : Extra extra) :
    r.shown env = if value ≠ [] ∧ (relation = py "comparative" ∨ isDirtyValue env.toUnicode value = false)
      then ((profileSlots.find? fun row => subject = row.1 && relation = row.2.1).map
        fun row => row.2.2).bind (slotEntry env r.metadata value)
      else none := by
  obtain ⟨hv, -, -, -, hr⟩ := @v2Metadata_reads subject relation value originalText extra h
  unfold MemoryRecord.shown MemoryRecord.readable
  rw [slot?_v2 hmd h]
  rw [hmd, hv, hr]
  simp only [Bool.and_eq_true, Bool.or_eq_true, decide_eq_true_eq, Bool.not_eq_true']

end

end Tomtit
