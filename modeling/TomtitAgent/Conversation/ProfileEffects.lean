import TomtitAgent.Conversation.MemoryOperations

/-!
# The effect of the profile functions on the live records

One lemma for each operation says what it does to `World.live` and to the count of the records made:

* `deleteEach_of_none`, `deleteEach_of_some`   a loop of deletions with and without a hit;
* `trySave_fst`, `trySave_live`, `mem_live_trySave`   a save succeeds exactly when the store does not
  fail, a failed one leaves the live records as they were, and a successful one adds one record.
-/

namespace Tomtit
open Py

section
variable {env : MemoryEnv}

/-! ### loops of deletions -/

theorem deleteEach_of_none {cond : MemoryRecord → Bool} {reason : PyStr} {rs : List MemoryRecord}
    (h : rs.any cond = false) (w : World) : w.deleteEach env cond reason rs = w := by
  induction rs with
  | nil => rfl
  | cons r rs ih =>
    rw [List.any_cons, Bool.or_eq_false_iff] at h
    rw [World.deleteEach, h.1, if_neg Bool.false_ne_true, ih h.2]

theorem deleteEach_of_some {cond : MemoryRecord → Bool} {reason : PyStr} {rs : List MemoryRecord}
    {w : World} (hrs : ∀ r ∈ rs, r ∈ w.live) (h : rs.any cond = true) :
    (w.deleteEach env cond reason rs).live ≠ w.live := by
  obtain ⟨r, hr, hc⟩ := List.any_eq_true.mp h
  intro e
  have hmem := hrs r hr
  rw [← e] at hmem
  exact ((World.mem_live_deleteEach env hrs).mp hmem).2 ⟨hr, hc⟩

theorem live_deleteEach_sub {cond : MemoryRecord → Bool} {reason : PyStr} {rs : List MemoryRecord}
    {w : World} : (w.deleteEach env cond reason rs).live.Sublist w.live := by
  rw [World.live_deleteEach]
  exact List.filter_sublist

theorem matchedValue_eq_none {cond : MemoryRecord → Bool} {rs : List MemoryRecord} :
    matchedValue cond rs = none ↔ rs.any cond = false := by
  have hsome : ∀ (vs : List PyStr) (v : PyStr), vs.foldl orStored (some v) ≠ none := by
    intro vs
    induction vs with
    | nil => exact fun v => Option.some_ne_none v
    | cons a vs ih =>
      intro v
      cases v with
      | nil => exact ih a
      | cons c v => exact ih (c :: v)
  unfold matchedValue
  rw [← Bool.not_eq_true, List.any_eq_true]
  cases e : rs.filter cond with
  | nil =>
    refine iff_of_true rfl ?_
    rintro ⟨r, hr, hc⟩
    have hmem := List.mem_filter.mpr ⟨hr, hc⟩
    rw [e] at hmem
    exact absurd hmem List.not_mem_nil
  | cons r rest =>
    have hr : r ∈ rs.filter cond := by
      rw [e]
      exact List.mem_cons_self
    refine iff_of_false (hsome _ _) ?_
    exact not_not_intro ⟨r, List.mem_filter.mp hr⟩

theorem exists_of_matchedValue {cond : MemoryRecord → Bool} {rs : List MemoryRecord} {v : PyStr}
    (h : matchedValue cond rs = some v) : ∃ r ∈ rs, cond r = true ∧ r.metadata.value = v := by
  have hfold : ∀ (vs : List PyStr) (acc : Option PyStr), vs.foldl orStored acc = some v →
      v ∈ vs ∨ acc = some v := by
    intro vs
    induction vs with
    | nil => exact fun acc h => .inr h
    | cons a vs ih =>
      intro acc h
      rcases ih _ h with h | h
      · exact .inl (List.mem_cons_of_mem a h)
      · cases acc with
        | none =>
          rw [Option.some.inj h]
          exact .inl List.mem_cons_self
        | some t =>
          cases t with
          | nil =>
            rw [Option.some.inj h]
            exact .inl List.mem_cons_self
          | cons c t => exact .inr h
  rcases hfold _ _ h with h | h
  · obtain ⟨r, hr, rfl⟩ := List.mem_map.mp h
    exact ⟨r, (List.mem_filter.mp hr).1, (List.mem_filter.mp hr).2, rfl⟩
  · exact absurd h.symm (Option.some_ne_none v)

/-! ### searches -/

/-- Each search of the profile finds every record it is about. -/
def World.withinLimits (w : World) : Prop :=
  (w.live.filter (·.tagged .fact)).length ≤ 200 ∧ (w.live.filter (·.tagged .preference)).length ≤ 200

theorem withinLimits_of_length {w : World} (h : w.live.length ≤ 200) : w.withinLimits :=
  ⟨(List.length_filter_le _ _).trans h, (List.length_filter_le _ _).trans h⟩

theorem World.withinLimits.sub {w w' : World} (h : w.withinLimits) (hsub : w'.live.Sublist w.live) :
    w'.withinLimits :=
  ⟨((hsub.filter _).length_le).trans h.1, ((hsub.filter _).length_le).trans h.2⟩

theorem profileRecords_empty (type : MemoryType) (limit : Nat) :
    World.empty.profileRecords env type limit = [] :=
  List.eq_nil_iff_forall_not_mem.mpr fun _ h => List.not_mem_nil (mem_profileRecords.mp h).1

section
variable (env)

theorem mem_live_of_profileRecords {type : MemoryType} {limit : Nat} {w : World} :
    ∀ r ∈ w.profileRecords env type limit, r ∈ w.live := fun _ h => (mem_profileRecords.mp h).1

theorem mem_live_of_confirmedProfileFacts {w : World} :
    ∀ r ∈ confirmedProfileFacts env w, r ∈ w.live :=
  fun r h => mem_live_of_profileRecords env r (List.mem_filter.mp h).1

theorem mem_live_of_findConflicting {value : PyStr} {w : World} :
    ∀ r ∈ findConflictingPreferenceRecords env value w, r ∈ w.live := by
  intro r h
  rcases List.mem_append.mp (List.mem_filter.mp h).1 with h | h
  · exact mem_live_of_profileRecords env r h
  · exact mem_live_of_profileRecords env r h

end

/-! ### saves -/

theorem afterSave_snd (saved : Bool × World) (outcome : MemoryOperationOutcome) :
    (afterSave saved outcome).2 = saved.2 := by
  unfold afterSave
  split_ifs <;> rfl

theorem strip_ne_nil_of_mem {s : PyStr} {c : CodePoint} (h : c ∈ s) (hc : isSpace c = false) :
    strip s ≠ [] := by
  intro e
  have := (strip_eq_nil_iff s).mp e c h
  rw [hc] at this
  exact Bool.noConfusion this

theorem strip_append_ne_nil {c : Char} {s : String} {v : PyStr} (h : c ∈ s.toList)
    (hc : isSpace (CodePoint.ofChar c) = false) : strip (py s ++ v) ≠ [] :=
  strip_ne_nil_of_mem (List.mem_append_left v (mem_py.mpr h)) hc

section
variable (env)

theorem autoProfileMemory_content (candidate : AutoProfileCandidate) :
    strip (autoProfileMemory env candidate).content ≠ [] := by
  have hmap : ∀ kv ∈ contentMap, ∃ c ∈ kv.2, isSpace c = false := by
    have hb : ∀ c : Char, ∀ s : String, isSpace (CodePoint.ofChar c) = false → c ∈ s.toList →
        ∃ d ∈ py s, isSpace d = false := fun c s hc hs => ⟨_, mem_py.mpr hs, hc⟩
    unfold contentMap
    simp only [List.forall_mem_cons, List.not_mem_nil, false_implies, implies_true, and_true]
    exact ⟨hb 'b' _ rfl (by simp), hb 'b' _ rfl (by simp), hb 'm' _ rfl (by simp),
      hb 'b' _ rfl (by simp), hb 'b' _ rfl (by simp), hb 'n' _ rfl (by simp),
      hb 'b' _ rfl (by simp), hb 'b' _ rfl (by simp), hb 'b' _ rfl (by simp),
      hb 'n' _ rfl (by simp), hb 'b' _ rfl (by simp), hb 'b' _ rfl (by simp),
      hb 'm' _ rfl (by simp)⟩
  show strip ((contentMap.lookup candidate.relation).getD (candidate.relation ++ py ": ") ++ _) ≠ []
  cases e : contentMap.lookup candidate.relation with
  | none =>
    refine strip_ne_nil_of_mem (c := CodePoint.ofChar ':') ?_ rfl
    exact List.mem_append_left _ (List.mem_append_right _ (mem_py.mpr (by simp)))
  | some t =>
    obtain ⟨l₁, l₂, hl, -⟩ := List.lookup_eq_some_iff.mp e
    obtain ⟨c, hc, hs⟩ := hmap (candidate.relation, t) (by rw [hl]; simp)
    exact strip_ne_nil_of_mem (List.mem_append_left _ hc) hs

end

/-- What a save does, for a content that is not blank: the store fails and nothing is stored, or the
record is written. -/
theorem trySave_cases {sessionId : PyStr} {m : NewMemory} (hm : strip m.content ≠ []) (w : World) :
    (env.fault w.made ≠ none ∧
        trySave env sessionId m w =
          (false, { w with ticks := w.ticks + 2, made := w.made + 1 })) ∨
      (env.fault w.made = none ∧ ∃ w', trySave env sessionId m w = (true, w') ∧
        w'.store = w.store.write env.toMemoryRuntime (env.now (w.ticks + 2))
          ((MemoryAgent.mk none (some sessionId)).record env m w) ∧
        w'.made = w.made + 1) := by
  unfold trySave MemoryAgent.saveMemory
  rw [if_neg hm]
  cases e : env.fault w.made with
  | none => exact .inr ⟨rfl, _, rfl, rfl, rfl⟩
  | some x => exact .inl ⟨Option.some_ne_none x, rfl⟩

theorem trySave_fst {sessionId : PyStr} {m : NewMemory} (hm : strip m.content ≠ []) (w : World) :
    (trySave env sessionId m w).1 = (env.fault w.made).isNone := by
  rcases @trySave_cases env sessionId m hm w with ⟨h, e⟩ | ⟨h, w', e, -, -⟩
  · rw [e]
    cases hf : env.fault w.made with
    | none => exact absurd hf h
    | some x => rfl
  · rw [e, h]
    rfl

theorem trySave_live {sessionId : PyStr} {m : NewMemory} {w : World}
    (h : (trySave env sessionId m w).1 = false) : (trySave env sessionId m w).2.live = w.live := by
  by_cases hm : strip m.content = []
  · unfold trySave MemoryAgent.saveMemory
    rw [if_pos hm]
  · rcases @trySave_cases env sessionId m hm w with ⟨-, e⟩ | ⟨-, w', e, -, -⟩
    · rw [e]
      rfl
    · rw [e] at h
      exact absurd h (by simp)

/-- What is live after a save: what was live before, and the record of the save. -/
theorem mem_live_trySave {sessionId : PyStr} {m : NewMemory} {w : World} {r : MemoryRecord}
    (h : r ∈ (trySave env sessionId m w).2.live) :
    r ∈ w.live ∨ (r.type = m.type ∧ r.tags = m.tags ∧ r.metadata = m.metadata) := by
  by_cases hm : strip m.content = []
  · unfold trySave MemoryAgent.saveMemory at h
    rw [if_pos hm] at h
    exact .inl h
  · rcases @trySave_cases env sessionId m hm w with ⟨-, e⟩ | ⟨-, w', e, hstore, -⟩
    · rw [e] at h
      exact .inl h
    · rw [e] at h
      change r ∈ w'.store.live at h
      rw [hstore] at h
      rcases (InMemoryStore.mem_live_write rfl).mp h with rfl | ⟨hr, -⟩
      · exact .inr ⟨rfl, rfl, rfl⟩
      · exact .inl hr

def savedRecord (env : MemoryEnv) (sessionId : PyStr) (m : NewMemory) (w : World) : MemoryRecord :=
  ((MemoryAgent.mk none (some sessionId)).record env m w).markUpdated (env.now (w.ticks + 2))

theorem trySave_fresh {sessionId : PyStr} {m : NewMemory} (hm : strip m.content ≠ []) {w : World}
    (hfault : env.fault w.made = none) (hfresh : env.uuid w.made ∉ w.store.records.keys) :
    (trySave env sessionId m w).2.live = w.live ++ [savedRecord env sessionId m w] ∧
      (trySave env sessionId m w).2.made = w.made + 1 ∧
      (trySave env sessionId m w).2.store.records.keys = w.store.records.keys ++ [env.uuid w.made] := by
  rcases @trySave_cases env sessionId m hm w with ⟨h, -⟩ | ⟨-, w', e, hstore, hmade⟩
  · exact absurd hfault h
  · rw [e]
    refine ⟨?_, hmade, ?_⟩
    · show w'.store.live = _
      rw [hstore]
      exact InMemoryStore.live_write hfresh rfl
    · show w'.store.records.keys = _
      rw [hstore]
      exact InMemoryStore.keys_write hfresh

/-- The value that `save_auto_profile_fact` stores. -/
def AutoProfileCandidate.stored (env : MemoryEnv) (candidate : AutoProfileCandidate) : PyStr :=
  if isPreferenceRelation candidate.relation then
    canonicalizeKnownPreferenceValue env.toUnicode candidate.value else candidate.value

theorem autoProfileMemory_metadata (candidate : AutoProfileCandidate) :
    ∃ extra, Extra extra ∧ (autoProfileMemory env candidate).metadata =
      v2Metadata self candidate.relation (candidate.stored env) candidate.originalText extra := by
  refine ⟨_, fun kv hkv => ?_, rfl⟩
  split at hkv
  · split_ifs at hkv with h
    · rw [List.mem_singleton.mp hkv]
      simp [extraKeys]
    · exact absurd hkv List.not_mem_nil
  · exact absurd hkv List.not_mem_nil

end

end Tomtit
