import TomtitAgent.Conversation.Polarity

/-!
# Likes and dislikes

A preference is written by `resolve_preference_conflicts` and `save_auto_profile_fact`, a comparison
and a favorite by one save.  A write of a preference deletes the opposite preferences of the same
value, but a comparison deletes no dislike of its winner, and a dislike no comparison that its value
has won; and the snapshot counts the winner of a comparison among the preferences.

`preferences_apart_of_run`   in a run in which no comparison meets a dislike in one of these two ways,
no state dislikes what it prefers.
-/

namespace Tomtit
open Py

inductive PreferenceWrite where
  | preference (value : PyStr) (kind : Option PyStr)
  | dislike (value : PyStr)
  | comparative (winner loser domain : PyStr)
  | favorite (value domain : PyStr)

section
variable (env : MemoryEnv)

/-- `resolve_preference_conflicts(value, relation, store)` and the save of the candidate. -/
def writePreference (relation value : PyStr) (kind : Option PyStr) (sessionId text : PyStr)
    (w : World) : Bool × World :=
  saveAutoProfileFact env
    { relation := relation, value := value, originalText := text, preferenceKind := kind } sessionId
    (resolvePreferenceConflicts env value relation w)

def Turn.writesPreference (t : Turn PreferenceWrite) (w : World) : World :=
  match t.write with
  | .preference value kind =>
    (writePreference env (py "preference") value kind t.sessionId t.text w).2
  | .dislike value =>
    (writePreference env (py "negative_preference") value none t.sessionId t.text w).2
  | .comparative winner loser domain =>
    (saveComparativeFact env winner loser domain t.sessionId t.text w).2
  | .favorite value domain => (saveFavoriteFact env value domain t.sessionId t.text w).2

/-- The profile does not dislike the winner of the comparison, and has no comparison won by the value
that is disliked. -/
def meetsNoComparison (t : Turn PreferenceWrite) (w : World) : Prop :=
  match t.write with
  | .comparative winner _ _ =>
    winner ≠ [] → ∀ r ∈ w.live, r.shown env ≠ some (.dislikes, env.valueKey winner)
  | .dislike value =>
    isDirtyValue env.toUnicode (canonicalizeKnownPreferenceValue env.toUnicode value) = false →
      ∀ r ∈ w.live, r.slot? = some .comparative → r.metadata.value ≠ [] →
        env.norm r.metadata.value ≠
          env.norm (canonicalizeKnownPreferenceValue env.toUnicode value)
  | _ => True

def preferencePairs : List (Shelf × Shelf) := [(.dislikes, .personal), (.dislikes, .professional)]

end

/-! ### the shelves of likes and dislikes -/

section
variable {env : MemoryEnv}

theorem preferencePairs_spec {p : Shelf × Shelf} (hp : p ∈ preferencePairs) :
    p.1 = .dislikes ∧ (p.2 = .personal ∨ p.2 = .professional) := by
  simp only [preferencePairs, List.mem_cons, List.not_mem_nil, or_false] at hp
  rcases hp with rfl | rfl
  · exact ⟨rfl, .inl rfl⟩
  · exact ⟨rfl, .inr rfl⟩

theorem shown_dislikes {r : MemoryRecord} {k : PyStr × PyStr}
    (h : r.shown env = some (.dislikes, k)) :
    r.slot? = some .negativePreference ∧ k = env.valueKey r.metadata.value ∧ r.metadata.value ≠ [] := by
  obtain ⟨hread, slot, hslot, hentry⟩ := shown_eq_some h
  have hvalue : r.metadata.value ≠ [] := of_decide_eq_true (Bool.and_eq_true_iff.mp hread).1
  cases slot with
  | negativePreference =>
    have e := (Prod.mk.inj (Option.some.inj hentry)).2
    exact ⟨hslot, e.symm, hvalue⟩
  | preference =>
    rw [slotEntry] at hentry
    split_ifs at hentry <;> simp at hentry
  | _ => simp [slotEntry] at hentry

theorem shown_likes {r : MemoryRecord} {s : Shelf} {k : PyStr × PyStr}
    (hs : s = .personal ∨ s = .professional) (h : r.shown env = some (s, k)) :
    (r.slot? = some .preference ∨ r.slot? = some .comparative) ∧
      k = env.valueKey r.metadata.value ∧ r.metadata.value ≠ [] := by
  obtain ⟨hread, slot, hslot, hentry⟩ := shown_eq_some h
  have hvalue : r.metadata.value ≠ [] := of_decide_eq_true (Bool.and_eq_true_iff.mp hread).1
  cases slot with
  | preference =>
    rw [slotEntry] at hentry
    split_ifs at hentry
    · exact ⟨.inl hslot, (Prod.mk.inj (Option.some.inj hentry)).2.symm, hvalue⟩
    · exact ⟨.inl hslot, (Prod.mk.inj (Option.some.inj hentry)).2.symm, hvalue⟩
  | comparative => exact ⟨.inr hslot, (Prod.mk.inj (Option.some.inj hentry)).2.symm, hvalue⟩
  | _ => rcases hs with rfl | rfl <;> simp [slotEntry] at hentry

/-! ### what a write leaves -/

theorem preferenceConflicts_of_norm {a b : PyStr}
    (h : env.norm (canonicalizeKnownPreferenceValue env.toUnicode a) =
      env.norm (canonicalizeKnownPreferenceValue env.toUnicode b)) :
    preferenceConflicts env.toUnicode a b = true := by
  unfold preferenceConflicts
  dsimp only
  rw [show normCmp env.toUnicode _ = normCmp env.toUnicode _ from h]
  simp

theorem mem_live_resolve {relation value : PyStr} {w : World} (hlimits : w.withinLimits)
    {r : MemoryRecord} (hr : r ∈ (resolvePreferenceConflicts env value relation w).live) :
    r ∈ w.live ∧ (r.isConfirmedProfile = true → r.states self (oppositePreference relation) = true →
      (oppositePreference relation = py "preference" ∨
        oppositePreference relation = py "negative_preference") →
      r.metadata.value ≠ [] → preferenceConflicts env.toUnicode r.metadata.value value = false) := by
  obtain ⟨hlive, hout⟩ := (World.mem_live_deleteEach env (mem_live_of_findConflicting env)).mp hr
  refine ⟨hlive, fun hprofile hstates hrel hvalue => ?_⟩
  rw [← Bool.not_eq_true]
  intro hconflict
  obtain ⟨htagged, -⟩ := Bool.and_eq_true_iff.mp hprofile
  have hfound : r ∈ w.profileRecords env .fact 200 ++ w.profileRecords env .preference 200 := by
    rw [List.mem_append, mem_profileRecords_within hlimits.1, mem_profileRecords_within hlimits.2]
    rcases Bool.or_eq_true_iff.mp htagged with ht | ht
    · exact .inl ⟨hlive, ht⟩
    · exact .inr ⟨hlive, ht⟩
  refine hout ⟨List.mem_filter.mpr ⟨hfound, ?_⟩, ?_⟩
  · have hpref : (r.states self (py "preference") || r.states self (py "negative_preference")) = true := by
      rw [Bool.or_eq_true]
      rcases hrel with h | h
      · rw [h] at hstates
        exact .inl hstates
      · rw [h] at hstates
        exact .inr hstates
    rw [hpref, hconflict, decide_eq_true hvalue]
    rfl
  · exact (Bool.and_eq_true_iff.mp (Bool.and_eq_true_iff.mp hstates).2).2

/-! ### the invariant -/

/-- A record of the profile; a preference is stored in its corrected spelling. -/
def KeptPreference (env : MemoryEnv) (r : MemoryRecord) : Prop :=
  r.isConfirmedProfile = true ∧
    (r.slot? = some .preference ∨ r.slot? = some .negativePreference →
      canonicalizeKnownPreferenceValue env.toUnicode r.metadata.value = r.metadata.value)

structure PreferencesInv (env : MemoryEnv) (w : World) : Prop where
  kept : ∀ r ∈ w.live, KeptPreference env r
  consistent : Consistent env preferencePairs w

theorem PreferencesInv.empty : PreferencesInv env .empty :=
  ⟨fun _ hr => absurd hr List.not_mem_nil, consistent_empty⟩

theorem PreferencesInv.sub {w w' : World} (h : PreferencesInv env w)
    (hsub : ∀ r ∈ w'.live, r ∈ w.live) : PreferencesInv env w' :=
  ⟨fun r hr => h.kept r (hsub r hr), h.consistent.sub hsub⟩

theorem KeptPreference.norm_eq {r : MemoryRecord} (h : KeptPreference env r) {value : PyStr}
    (hslot : r.slot? = some .preference ∨ r.slot? = some .negativePreference)
    (hkey : env.norm r.metadata.value = env.norm (canonicalizeKnownPreferenceValue env.toUnicode value)) :
    preferenceConflicts env.toUnicode r.metadata.value value = true := by
  refine preferenceConflicts_of_norm ?_
  rw [h.2 hslot]
  exact hkey

theorem autoProfile_reads {candidate : AutoProfileCandidate} {x : MemoryRecord}
    (hx : x.metadata = (autoProfileMemory env candidate).metadata) :
    x.slot? = ((profileSlots.find? fun row => self = row.1 && candidate.relation = row.2.1).map
        fun row => row.2.2) ∧
      x.metadata.value = candidate.stored env ∧ x.metadata.confirmedProfile = true ∧
      ∀ s, x.metadata.is (py "relation") s = decide (candidate.relation = s) := by
  obtain ⟨extra, hextra, hmd⟩ := @autoProfileMemory_metadata env candidate
  exact v2Fact_reads hextra (hx.trans hmd)

theorem keptPreference_auto {candidate : AutoProfileCandidate}
    (hrel : isPreferenceRelation candidate.relation = true) {r : MemoryRecord}
    (htype : r.type = (autoProfileMemory env candidate).type)
    (htags : r.tags = (autoProfileMemory env candidate).tags)
    (hmd : r.metadata = (autoProfileMemory env candidate).metadata) : KeptPreference env r := by
  obtain ⟨-, hvalue, hconfirmed, -⟩ := autoProfile_reads hmd
  have htag : userProfile ∈ r.tags := by
    rw [htags]
    exact List.mem_append_left _ List.mem_cons_self
  refine ⟨?_, fun _ => ?_⟩
  · have htagged : (r.tagged .fact || r.tagged .preference) = true := by
      unfold MemoryRecord.tagged
      rw [decide_eq_true htag, Bool.and_true, Bool.and_true, htype]
      show (decide ((if candidate.relation = py "preference" then MemoryType.preference
        else .fact) = .fact) || decide ((if candidate.relation = py "preference" then
        MemoryType.preference else .fact) = .preference)) = true
      by_cases h : candidate.relation = py "preference"
      · rw [if_pos h]
        rfl
      · rw [if_neg h]
        rfl
    unfold MemoryRecord.isConfirmedProfile
    rw [htagged, hconfirmed]
    rfl
  · have hstored : candidate.stored env =
        canonicalizeKnownPreferenceValue env.toUnicode candidate.value := if_pos hrel
    rw [hvalue, hstored]
    exact canonicalizeKnown_idem env.toUnicode candidate.value

theorem PreferencesInv.writePreference {relation value : PyStr} {kind : Option PyStr}
    {sessionId text : PyStr} {w : World} (h : PreferencesInv env w)
    (hrel : isPreferenceRelation relation = true)
    (hnew : env.fault w.made = none →
      ∀ r ∈ (resolvePreferenceConflicts env value relation w).live, ∀ x : MemoryRecord,
        x.metadata = (autoProfileMemory env { relation := relation, value := value
                                              originalText := text, preferenceKind := kind }).metadata →
        ∀ p ∈ preferencePairs, ∀ k,
          (x.shown env = some (p.1, k) → r.shown env ≠ some (p.2, k)) ∧
          (x.shown env = some (p.2, k) → r.shown env ≠ some (p.1, k))) :
    PreferencesInv env (writePreference env relation value kind sessionId text w).2 := by
  let candidate : AutoProfileCandidate :=
    { relation := relation, value := value, originalText := text, preferenceKind := kind }
  let w1 := resolvePreferenceConflicts env value relation w
  let w2 := deleteCanonicalAliasPreferenceRecords env
    (canonicalizeKnownPreferenceValue env.toUnicode value) relation w1
  have hsub1 : ∀ r ∈ w1.live, r ∈ w.live := fun r hr => live_deleteEach_sub.subset hr
  have hsub2 : ∀ r ∈ w2.live, r ∈ w1.live := fun r hr => live_deleteEach_sub.subset hr
  have hmade : w2.made = w.made :=
    (World.made_deleteEach env _ _).trans (World.made_deleteEach env _ _)
  have hsave : (Tomtit.writePreference env relation value kind sessionId text w).2 =
      (trySave env sessionId (autoProfileMemory env candidate) w2).2 := by
    unfold Tomtit.writePreference saveAutoProfileFact
    rw [if_pos hrel]
  have h2 : PreferencesInv env w2 := (h.sub hsub1).sub hsub2
  rw [hsave]
  refine ⟨?_, ?_⟩
  · exact forall_live_trySave h2.kept fun r htype htags hmd => keptPreference_auto hrel htype htags hmd
  · refine h2.consistent.save (by simp [preferencePairs]) fun hfault x hx p hp k r hr => ?_
    rw [hmade] at hfault
    exact hnew hfault r (hsub2 r hr) x hx p hp k

theorem PreferencesInv.preference {value : PyStr} {kind : Option PyStr} {sessionId text : PyStr}
    {w : World} (h : PreferencesInv env w) (hlimits : w.withinLimits) :
    PreferencesInv env (Tomtit.writePreference env (py "preference") value kind sessionId text w).2 := by
  refine h.writePreference (by simp [isPreferenceRelation]) fun _ r hr x hx p hp k => ?_
  obtain ⟨hslot, hvalue, -, -⟩ := autoProfile_reads hx
  have hslot' : x.slot? = some .preference := hslot.trans (slot_of_row 18 rfl)
  obtain ⟨hlive, hkeeps⟩ := mem_live_resolve hlimits hr
  have hkept := h.kept r hlive
  obtain ⟨hp1, hp2⟩ := preferencePairs_spec hp
  rw [hp1]
  constructor
  · intro hshown
    have hneg := (shown_dislikes hshown).1
    rw [hslot'] at hneg
    exact absurd hneg (by simp)
  · intro hshown hshown'
    obtain ⟨-, hk, -⟩ := shown_likes hp2 hshown
    obtain ⟨hrslot, hk', hrvalue⟩ := shown_dislikes hshown'
    have hstates := states_of_slot hkept.1 hrslot
    have hkey : env.norm r.metadata.value =
        env.norm (canonicalizeKnownPreferenceValue env.toUnicode value) := by
      rw [hk, hvalue] at hk'
      exact (Prod.mk.inj hk').2.symm
    have hconflict := hkept.norm_eq (.inr hrslot) hkey
    rw [hkeeps hkept.1 hstates (.inr rfl) hrvalue] at hconflict
    exact Bool.noConfusion hconflict

theorem PreferencesInv.dislike {value sessionId text : PyStr} {w : World}
    (h : PreferencesInv env w) (hlimits : w.withinLimits)
    (hwon : env.fault w.made = none →
      isDirtyValue env.toUnicode (canonicalizeKnownPreferenceValue env.toUnicode value) = false →
      ∀ r ∈ w.live, r.slot? = some .comparative → r.metadata.value ≠ [] →
        env.norm r.metadata.value ≠
          env.norm (canonicalizeKnownPreferenceValue env.toUnicode value)) :
    PreferencesInv env
      (Tomtit.writePreference env (py "negative_preference") value none sessionId text w).2 := by
  refine h.writePreference (by simp [isPreferenceRelation]) fun hfault r hr x hx p hp k => ?_
  obtain ⟨hslot, hvalue, -, hrelation⟩ := autoProfile_reads hx
  have hslot' : x.slot? = some .negativePreference := hslot.trans (slot_of_row 1 rfl)
  have hstored : x.metadata.value = canonicalizeKnownPreferenceValue env.toUnicode value := hvalue
  obtain ⟨hlive, hkeeps⟩ := mem_live_resolve hlimits hr
  have hkept := h.kept r hlive
  obtain ⟨hp1, hp2⟩ := preferencePairs_spec hp
  rw [hp1]
  constructor
  · intro hshown hshown'
    obtain ⟨-, hk, -⟩ := shown_dislikes hshown
    obtain ⟨hrslot, hk', hrvalue⟩ := shown_likes hp2 hshown'
    have hkey : env.norm r.metadata.value =
        env.norm (canonicalizeKnownPreferenceValue env.toUnicode value) := by
      rw [hk, hstored] at hk'
      exact (Prod.mk.inj hk').2.symm
    rcases hrslot with hrslot | hrslot
    · have hstates := states_of_slot hkept.1 hrslot
      have hopposite : oppositePreference (py "negative_preference") = py "preference" := by
        simp [oppositePreference]
      have hconflict := hkept.norm_eq (.inl hrslot) hkey
      rw [hkeeps hkept.1 (by rw [hopposite]; exact hstates) (.inl hopposite) hrvalue] at hconflict
      exact Bool.noConfusion hconflict
    · have hread := (Bool.and_eq_true_iff.mp (shown_eq_some hshown).1).2
      have hclean : isDirtyValue env.toUnicode
          (canonicalizeKnownPreferenceValue env.toUnicode value) = false := by
        rw [hrelation, hstored] at hread
        simpa using hread
      exact hwon hfault hclean r hlive hrslot hrvalue hkey
  · intro hshown
    have hpos := (shown_likes hp2 hshown).1
    rw [hslot'] at hpos
    simp at hpos

theorem PreferencesInv.saveFact (slot : ProfileSlot)
    {relation value content originalText sessionId : PyStr} {tags : List PyStr}
    {extra : List (PyStr × PyStr)} (hextra : Extra extra)
    (hslot : ((profileSlots.find? fun row => self = row.1 && relation = row.2.1).map
      fun row => row.2.2) = some slot)
    (hother : slot ≠ .preference ∧ slot ≠ .negativePreference) (htags : userProfile ∈ tags) {w : World}
    (h : PreferencesInv env w)
    (hnew : env.fault w.made = none → slot = .comparative → value ≠ [] →
      ∀ r ∈ w.live, r.shown env ≠ some (.dislikes, env.valueKey value)) :
    PreferencesInv env
      (saveProfileV2Fact env sessionId self relation value content tags originalText extra w).2 := by
  refine ⟨?_, ?_⟩
  · refine forall_live_trySave h.kept fun r htype htag hmd => ?_
    obtain ⟨hrslot, -, hconfirmed, -⟩ := v2Fact_reads hextra hmd
    rw [hslot] at hrslot
    refine ⟨(isConfirmedProfile_fact htype (by rw [htag]; exact htags) hconfirmed).2, fun hpref => ?_⟩
    rw [hrslot, Option.some.injEq, Option.some.injEq] at hpref
    exact absurd hpref (not_or.mpr hother)
  · refine h.consistent.save (by simp [preferencePairs]) fun hfault x hx p hp k r hr => ?_
    obtain ⟨hxslot, hvalue, -⟩ := v2Fact_reads hextra hx
    rw [hslot] at hxslot
    obtain ⟨hp1, hp2⟩ := preferencePairs_spec hp
    rw [hp1]
    constructor
    · intro hshown
      have hneg := (shown_dislikes hshown).1
      rw [hxslot, Option.some.injEq] at hneg
      exact absurd hneg hother.2
    · intro hshown
      obtain ⟨hpos, hk, hne⟩ := shown_likes hp2 hshown
      rw [hxslot, Option.some.injEq, Option.some.injEq] at hpos
      rw [hvalue] at hk hne
      rw [hk]
      exact hnew hfault (hpos.resolve_left hother.1) hne r hr

/-! ### runs -/

theorem PreferencesInv.step {t : Turn PreferenceWrite} {w : World} (h : PreferencesInv env w)
    (hlimits : w.withinLimits) (hmeets : env.fault w.made = none → meetsNoComparison env t w) :
    PreferencesInv env (t.writesPreference env w) := by
  obtain ⟨sessionId, text, write⟩ := t
  cases write with
  | preference value kind => exact h.preference hlimits
  | dislike value => exact h.dislike hlimits hmeets
  | comparative winner loser domain =>
    have hextra : Extra [(py "compared_to", loser), (py "comparative_domain", domain)] := by
      simp [Extra, extraKeys]
    refine PreferencesInv.saveFact .comparative hextra (slot_of_row 17 rfl) ⟨by simp, by simp⟩
      List.mem_cons_self h ?_
    intro hfault _ hne
    exact hmeets hfault hne
  | favorite value domain =>
    have hextra : Extra [(py "favorite_domain", domain)] := by
      simp [Extra, extraKeys]
    refine PreferencesInv.saveFact .favorite hextra (slot_of_row 16 rfl) ⟨by simp, by simp⟩
      List.mem_cons_self h ?_
    intro _ hcomparative
    simp at hcomparative

/-- In a run within the search limits in which no comparison is set against a dislike, no state has a
value among both the dislikes and the preferences. -/
theorem preferences_apart_of_run {w : World}
    (h : Reachable (fun t => Turn.writesPreference env t)
      (fun t w => w.withinLimits ∧ (env.fault w.made = none → meetsNoComparison env t w)) .empty w) :
    Apart env (collectProfileSnapshot env w).dislikes
      ((collectProfileSnapshot env w).preferencesPersonal ++
        (collectProfileSnapshot env w).preferencesProfessional) := by
  have hinv : PreferencesInv env w :=
    h.invariant PreferencesInv.empty fun t w hok hw => hw.step hok.1 hok.2
  intro x hx y hy
  rcases List.mem_append.mp hy with hy | hy
  · exact apart_of_keys (fun k hk => hinv.consistent.not_mem_keys
      (p := (.dislikes, .personal)) (by simp [preferencePairs]) hk) x hx y hy
  · exact apart_of_keys (fun k hk => hinv.consistent.not_mem_keys
      (p := (.dislikes, .professional)) (by simp [preferencePairs]) hk) x hx y hy

end

/-! ### a comparison after a dislike -/

def likesCam : Turn PreferenceWrite := ⟨py "s", [], .preference (py "cam") none⟩

def dislikesCam : Turn PreferenceWrite := ⟨py "s", [], .dislike (py "cam")⟩

def prefersCam : Turn PreferenceWrite := ⟨py "s", [], .comparative (py "cam") (py "kem") (py "food")⟩

def dislikedCam : NewMemory :=
  autoProfileMemory plainEnv
    { relation := py "negative_preference", value := py "cam", originalText := [] }

def cameFirst : NewMemory where
  content := py "bạn thích " ++ py "cam" ++ py " hơn " ++ py "kem"
  type := .fact
  tags := [userProfile, self, py "comparative"]
  importance := weight08
  confidence := weight095
  source := .user
  metadata := v2Metadata self (py "comparative") (py "cam") []
    [(py "compared_to", py "kem"), (py "comparative_domain", py "food")]
  texts := profileMetadata_texts _ _

theorem writePreference_empty {relation : PyStr} (hrel : isPreferenceRelation relation = true)
    (value : PyStr) (kind : Option PyStr) (sessionId text : PyStr) :
    writePreference plainEnv relation value kind sessionId text .empty =
      trySave plainEnv sessionId (autoProfileMemory plainEnv
        { relation := relation, value := value, originalText := text, preferenceKind := kind }) .empty := by
  have hnone : ∀ value, findConflictingPreferenceRecords plainEnv value .empty = [] := by
    intro value
    unfold findConflictingPreferenceRecords
    rw [profileRecords_empty, profileRecords_empty]
    rfl
  have hresolve : resolvePreferenceConflicts plainEnv value relation .empty = .empty := by
    unfold resolvePreferenceConflicts
    rw [hnone]
    rfl
  have halias : ∀ value,
      deleteCanonicalAliasPreferenceRecords plainEnv value relation .empty = .empty := by
    intro value
    unfold deleteCanonicalAliasPreferenceRecords
    rw [hnone]
    rfl
  unfold writePreference saveAutoProfileFact
  rw [hresolve, if_pos hrel, halias]

theorem dislikesCam_run :
    dislikesCam.writesPreference plainEnv .empty = (trySave plainEnv (py "s") dislikedCam .empty).2 :=
  congrArg Prod.snd (writePreference_empty (by simp [isPreferenceRelation]) (py "cam") none (py "s") [])

theorem isWord_cam : IsWord (py "cam") := isWord_py (by simp) (by simp; decide)

theorem isDirtyValue_cam : isDirtyValue asciiUnicode (py "cam") = false := by
  have hlower : asciiUnicode.lower (py "cam") = py "cam" := asciiUnicode.lower_py (by simp)
  refine isDirtyValue_word asciiUnicode isWord_cam ?_ ?_ (by simp)
  · rw [hlower, mem_py]
    simp
  · rw [hlower]
    simp [dirtyValueQuestionTails]

theorem canonicalize_cam : canonicalizeKnownPreferenceValue asciiUnicode (py "cam") = py "cam" := by
  have hlower : asciiUnicode.lower (py "cam") = py "cam" := asciiUnicode.lower_py (by simp)
  rw [canonicalizeKnown_eq, split_word isWord_cam.1 isWord_cam.2, List.map_singleton, joinWith_singleton,
    correctWord_eq, hlower]
  · simp
  · rw [split_word isWord_cam.1 isWord_cam.2]
    simp

def changedMind : World := dislikesCam.writesPreference plainEnv (likesCam.writesPreference plainEnv .empty)

theorem preferences_apart_changedMind :
    (likesCam.writesPreference plainEnv .empty).live.map (·.slot?) = [some .preference] ∧
      Apart plainEnv (collectProfileSnapshot plainEnv changedMind).dislikes
        ((collectProfileSnapshot plainEnv changedMind).preferencesPersonal ++
          (collectProfileSnapshot plainEnv changedMind).preferencesProfessional) := by
  have hfirst : likesCam.writesPreference plainEnv .empty =
      (trySave plainEnv (py "s") (autoProfileMemory plainEnv
        { relation := py "preference", value := py "cam", originalText := [] }) .empty).2 :=
    congrArg Prod.snd
      (writePreference_empty (by simp [isPreferenceRelation]) (py "cam") none (py "s") [])
  obtain ⟨hlive, -⟩ := @trySave_fresh plainEnv (py "s") _
    (autoProfileMemory_content plainEnv
      { relation := py "preference", value := py "cam", originalText := [] }) .empty rfl List.not_mem_nil
  rw [← hfirst] at hlive
  have hslot : (likesCam.writesPreference plainEnv .empty).live.map (·.slot?) = [some .preference] := by
    rw [hlive, List.map_append, List.map_singleton,
      (@autoProfile_reads plainEnv
        { relation := py "preference", value := py "cam", originalText := [] } _ rfl).1,
      slot_of_row 18 rfl]
    rfl
  have hone : (likesCam.writesPreference plainEnv .empty).live.length = 1 := by
    rw [hlive]
    rfl
  refine ⟨hslot, preferences_apart_of_run ((Reachable.start.next ⟨⟨Nat.zero_le _, Nat.zero_le _⟩,
    fun _ => trivial⟩).next ⟨withinLimits_of_length (by rw [hone]; simp), ?_⟩)⟩
  -- the record of the like is no comparison
  intro _ _ r hr hcomparative
  have hmem := List.mem_map_of_mem (f := (·.slot?)) hr
  rw [hslot, hcomparative] at hmem
  simp at hmem

theorem dislikedCam_shown {r : MemoryRecord} (h : r.metadata = dislikedCam.metadata) :
    r.shown plainEnv = some (.dislikes, plainEnv.valueKey (py "cam")) := by
  obtain ⟨extra, hextra, hmd⟩ := @autoProfileMemory_metadata plainEnv
    { relation := py "negative_preference", value := py "cam", originalText := [] }
  have hstored : AutoProfileCandidate.stored plainEnv
      { relation := py "negative_preference", value := py "cam", originalText := [] } = py "cam" := by
    unfold AutoProfileCandidate.stored
    rw [if_pos (by simp [isPreferenceRelation])]
    exact canonicalize_cam
  rw [hstored] at hmd
  rw [shown_v2 plainEnv (h.trans hmd) hextra, if_pos ⟨isWord_cam.1, .inr isDirtyValue_cam⟩,
    slot_of_row 1 rfl]
  simp [slotEntry]

theorem cameFirst_shown {r : MemoryRecord} (h : r.metadata = cameFirst.metadata) :
    r.shown plainEnv = some (.personal, plainEnv.valueKey (py "cam")) := by
  rw [shown_v2 plainEnv h (by simp [Extra, extraKeys]), if_pos ⟨isWord_cam.1, .inl rfl⟩,
    slot_of_row 17 rfl]
  simp [slotEntry]

/-- A comparison is stored beside the dislike of its winner. -/
theorem not_preferences_apart :
    ¬ ∀ w, Reachable (fun t => Turn.writesPreference plainEnv t) (fun _ w => w.withinLimits) .empty w →
      Apart plainEnv (collectProfileSnapshot plainEnv w).dislikes
        ((collectProfileSnapshot plainEnv w).preferencesPersonal ++
          (collectProfileSnapshot plainEnv w).preferencesProfessional) := by
  intro h
  have hcontent : strip cameFirst.content ≠ [] := by
    show strip (py "bạn thích " ++ py "cam" ++ py " hơn " ++ py "kem") ≠ []
    rw [List.append_assoc, List.append_assoc]
    exact strip_append_ne_nil (c := 'b') (by simp) rfl
  obtain ⟨r₁, r₂, hlive₁, hlive₂, ⟨htype₁, htags₁, hmd₁⟩, htype₂, htags₂, hmd₂⟩ :=
    two_saves (autoProfileMemory_content plainEnv _) hcontent dislikesCam_run
      (show prefersCam.writesPreference plainEnv (dislikesCam.writesPreference plainEnv .empty) =
        (trySave plainEnv (py "s") cameFirst _).2 from rfl)
  have hlimits₁ := withinLimits_of_length (w := dislikesCam.writesPreference plainEnv .empty)
    (by rw [hlive₁]; simp)
  have hlimits₂ := withinLimits_of_length
    (w := prefersCam.writesPreference plainEnv (dislikesCam.writesPreference plainEnv .empty))
    (by rw [hlive₂]; simp)
  have hreach : Reachable (fun t => Turn.writesPreference plainEnv t) (fun _ w => w.withinLimits) .empty
      (prefersCam.writesPreference plainEnv (dislikesCam.writesPreference plainEnv .empty)) :=
    (Reachable.start.next ⟨Nat.zero_le _, Nat.zero_le _⟩).next hlimits₁
  refine not_apart_of_keys (k := plainEnv.valueKey (py "cam")) ?_ ?_ (h _ hreach)
  · refine (mem_keys_within hlimits₂ (s := .dislikes)).mpr ⟨r₁, ?_, ?_, dislikedCam_shown hmd₁⟩
    · rw [hlive₂]
      simp
    · exact (keptPreference_auto (by simp [isPreferenceRelation]) htype₁ htags₁ hmd₁).1
  · unfold valueKeys
    rw [List.map_append]
    refine List.mem_append_left _ ((mem_keys_within hlimits₂ (s := .personal)).mpr
      ⟨r₂, ?_, ?_, cameFirst_shown hmd₂⟩)
    · rw [hlive₂]
      simp
    · have hextra : Extra [(py "compared_to", py "kem"), (py "comparative_domain", py "food")] := by
        simp [Extra, extraKeys]
      exact (isConfirmedProfile_fact htype₂ (by rw [htags₂]; exact List.mem_cons_self)
        (v2Fact_reads hextra hmd₂).2.2.1).2

end Tomtit
