import TomtitAgent.Conversation.RelationUpdate

/-!
# An operation leaves the facts of other domains alone

* `MemoryDomain.facts`   the facts that an operation of a domain is about;
* `ChangesOnly`             what changes is about some facts: every other record stays, and no other appears;
* `ChangesOnly.deleteEach`, `ChangesOnly.trySave`   loops of deletions and saves;
* `confined_apply`       one operation;
* `operations_confined`  a run of operations, whatever fails.
-/

namespace Tomtit
open Py

/-- The subjects and the relations of the facts that an operation of the domain is about.  Work and goals
are looked up in one another. -/
def MemoryDomain.facts : MemoryDomain → List (PyStr × PyStr)
  | .occupation => [(self, py "occupation"), (self, py "goal"), (self, py "goal_focus")]
  | .goal => [(self, py "occupation"), (self, py "goal"), (self, py "goal_focus")]
  | .affection => [(self, py "affection"), (self, py "negative_affection")]
  | .relationship => [(py "relation", py "name")]
  | .favorite => [(self, py "favorite")]
  | .preference => [(self, py "preference"), (self, py "negative_preference")]
  | .name => [(self, py "name")]
  | .skill => [(self, py "skill"), (self, py "negative_skill")]
  | .negativePreference => []

structure MemoryRecord.About (facts : List (PyStr × PyStr)) (r : MemoryRecord) : Prop where
  profile : r.tagged .fact = true ∨ r.tagged .preference = true
  fact : ∃ f ∈ facts, r.concerns f.1 f.2 = true

section
variable (env : MemoryEnv)

/-- What happens from `w` to `w'` is about the facts: every other live record stays as it is, unless its id is
drawn again, and what is new is a record about them. -/
structure ChangesOnly (facts : List (PyStr × PyStr)) (w w' : World) : Prop where
  made : w.made ≤ w'.made
  kept : ∀ r ∈ w.live, ¬ r.About facts → (∀ n, w.made ≤ n → n < w'.made → env.uuid n ≠ r.id) → r ∈ w'.live
  added : ∀ r ∈ w'.live, r ∈ w.live ∨ r.About facts

def applyOperations (sessionId : PyStr) (ops : List MemoryOperation) (w : World) : World :=
  ops.foldl (fun w op => (applyMemoryOperation env op sessionId w).2) w

variable {env : MemoryEnv} {facts : List (PyStr × PyStr)} {w w' : World}

theorem MemoryRecord.About.mono {facts' : List (PyStr × PyStr)} (h : facts ⊆ facts') {r : MemoryRecord}
    (hr : r.About facts) : r.About facts' := by
  obtain ⟨f, hf, hc⟩ := hr.fact
  exact ⟨hr.profile, f, h hf, hc⟩

namespace ChangesOnly

theorem refl (w : World) : ChangesOnly env facts w w := ⟨le_rfl, fun _ hr _ _ => hr, fun _ hr => .inl hr⟩

theorem trans {w₁ w₂ w₃ : World} (h : ChangesOnly env facts w₁ w₂) (h' : ChangesOnly env facts w₂ w₃) :
    ChangesOnly env facts w₁ w₃ where
  made := h.made.trans h'.made
  kept r hr hout hids := by
    refine h'.kept r (h.kept r hr hout fun n hn hn' => hids n hn (hn'.trans_le h'.made)) hout ?_
    exact fun n hn hn' => hids n (h.made.trans hn) hn'
  added r hr := by
    rcases h'.added r hr with hr | habout
    · exact h.added r hr
    · exact .inr habout

theorem mono {facts' : List (PyStr × PyStr)} (h : ChangesOnly env facts w w') (hsub : facts ⊆ facts') :
    ChangesOnly env facts' w w' where
  made := h.made
  kept r hr hout := h.kept r hr fun habout => hout (habout.mono hsub)
  added r hr := (h.added r hr).imp_right fun habout => habout.mono hsub

/-- A loop over live records that deletes records about the facts. -/
theorem deleteEach {cond : MemoryRecord → Bool} {reason : PyStr} {rs : List MemoryRecord}
    (hlive : ∀ r ∈ rs, r ∈ w.live) (habout : ∀ r ∈ rs, cond r = true → r.About facts) :
    ChangesOnly env facts w (w.deleteEach env cond reason rs) where
  made := (World.made_deleteEach env rs w).ge
  kept r hr hout _ := (World.mem_live_deleteEach env hlive).mpr ⟨hr, fun h => hout (habout r h.1 h.2)⟩
  added _ hr := .inl ((World.mem_live_deleteEach env hlive).mp hr).1

/-- A save of a record about the facts. -/
theorem trySave {sessionId : PyStr} {m : NewMemory} (hm : strip m.content ≠ [])
    (habout : ∀ r : MemoryRecord, r.type = m.type → r.tags = m.tags → r.metadata = m.metadata → r.About facts) :
    ChangesOnly env facts w (Tomtit.trySave env sessionId m w).2 := by
  rcases @trySave_cases env sessionId m hm w with ⟨-, e⟩ | ⟨-, w', e, hstore, hmade⟩
  · rw [e]
    exact ⟨Nat.le_succ _, fun _ hr _ _ => hr, fun _ hr => .inl hr⟩
  · rw [e]
    have hlive : ∀ r, r ∈ w'.live ↔ r = savedRecord env sessionId m w ∨ (r ∈ w.live ∧ r.id ≠ env.uuid w.made) := by
      intro r
      show r ∈ w'.store.live ↔ _
      rw [hstore]
      exact InMemoryStore.mem_live_write rfl
    refine ⟨?_, fun r hr _ hids => ?_, fun r hr => ?_⟩
    · show w.made ≤ w'.made
      omega
    · refine (hlive r).mpr (.inr ⟨hr, (hids w.made le_rfl ?_).symm⟩)
      show w.made < w'.made
      omega
    · rcases (hlive r).mp hr with rfl | hr
      · exact .inr (habout _ rfl rfl rfl)
      · exact .inl hr.1

end ChangesOnly

/-! ### deletions -/

theorem tagged_of_profileRecords {type : MemoryType} {limit : Nat} {r : MemoryRecord}
    (h : r ∈ w.profileRecords env type limit) : r.tagged type = true := (mem_profileRecords.mp h).2.1

theorem tagged_of_confirmedProfileFacts {r : MemoryRecord} (h : r ∈ confirmedProfileFacts env w) :
    r.tagged .fact = true := tagged_of_profileRecords (List.mem_filter.mp h).1

theorem concerns_of_states {subject relation : PyStr} {r : MemoryRecord} (h : r.states subject relation = true) :
    r.concerns subject relation = true := (Bool.and_eq_true_iff.mp h).2

theorem confined_confirmed {cond : MemoryRecord → Bool} (reason : PyStr)
    (h : ∀ r, cond r = true → ∃ f ∈ facts, r.concerns f.1 f.2 = true) (w : World) :
    ChangesOnly env facts w (w.deleteEach env cond reason (confirmedProfileFacts env w)) :=
  .deleteEach (mem_live_of_confirmedProfileFacts env) fun r hr hc =>
    ⟨.inl (tagged_of_confirmedProfileFacts hr), h r hc⟩

theorem confined_searched {cond : MemoryRecord → Bool} (reason : PyStr) (limit : Nat)
    (h : ∀ r, cond r = true → ∃ f ∈ facts, r.concerns f.1 f.2 = true) (w : World) :
    ChangesOnly env facts w (w.deleteEach env cond reason (w.profileRecords env .fact limit)) :=
  .deleteEach (mem_live_of_profileRecords env) fun r hr hc => ⟨.inl (tagged_of_profileRecords hr), h r hc⟩

theorem about_of_findConflicting {value : PyStr} {r : MemoryRecord}
    (h : r ∈ findConflictingPreferenceRecords env value w) : r.About MemoryDomain.preference.facts := by
  obtain ⟨hmem, hcond⟩ := List.mem_filter.mp h
  have hstates := (Bool.and_eq_true_iff.mp (Bool.and_eq_true_iff.mp hcond).1).1
  refine ⟨(List.mem_append.mp hmem).imp tagged_of_profileRecords tagged_of_profileRecords, ?_⟩
  rcases Bool.or_eq_true_iff.mp hstates with hs | hs
  · exact ⟨_, List.mem_cons_self, concerns_of_states hs⟩
  · exact ⟨_, List.mem_cons_of_mem _ List.mem_cons_self, concerns_of_states hs⟩

theorem confined_resolvePreference (value relation : PyStr) (w : World) :
    ChangesOnly env MemoryDomain.preference.facts w (resolvePreferenceConflicts env value relation w) :=
  .deleteEach (mem_live_of_findConflicting env) fun _ hr _ => about_of_findConflicting hr

theorem confined_alias (value relation : PyStr) (w : World) :
    ChangesOnly env MemoryDomain.preference.facts w (deleteCanonicalAliasPreferenceRecords env value relation w) :=
  .deleteEach (mem_live_of_findConflicting env) fun _ hr _ => about_of_findConflicting hr

theorem confined_deleteProfileRecords {subject relation : PyStr} (h : (subject, relation) ∈ facts) (value : PyStr)
    (w : World) : ChangesOnly env facts w (deleteProfileRecords env subject relation value w) :=
  confined_searched _ 200 (fun _ hc => ⟨_, h, concerns_of_states (Bool.and_eq_true_iff.mp hc).1⟩) w

theorem confined_deleteOccupation (h : (self, py "occupation") ∈ facts) (value : PyStr) (w : World) :
    ChangesOnly env facts w (deleteOccupationFact env value w).2 :=
  confined_searched _ 200 (fun _ hc => ⟨_, h, concerns_of_states (Bool.and_eq_true_iff.mp hc).1⟩) w

theorem fact_of_isGoal (h : (self, py "goal") ∈ facts) (h' : (self, py "goal_focus") ∈ facts) {r : MemoryRecord}
    (hr : r.isGoal = true) : ∃ f ∈ facts, r.concerns f.1 f.2 = true := by
  rcases Bool.or_eq_true_iff.mp hr with hr | hr
  · exact ⟨_, h, hr⟩
  · exact ⟨_, h', hr⟩

theorem confined_deleteGoals (h : (self, py "goal") ∈ facts) (h' : (self, py "goal_focus") ∈ facts) (key : PyStr)
    (w : World) : ChangesOnly env facts w (deleteGoalFacts env key w).2 :=
  confined_confirmed _ (fun _ hc =>
    fact_of_isGoal h h' (Bool.and_eq_true_iff.mp (Bool.and_eq_true_iff.mp hc).1).1) w

theorem confined_deleteAllGoals (h : (self, py "goal") ∈ facts) (h' : (self, py "goal_focus") ∈ facts) (w : World) :
    ChangesOnly env facts w (deleteAllGoalFacts env w).2 :=
  confined_confirmed _ (fun _ hc => fact_of_isGoal h h' hc) w

theorem confined_deleteAffection (h : (self, py "affection") ∈ facts) (value : PyStr) (w : World) :
    ChangesOnly env facts w (deleteAffectionFact env value w).2 :=
  confined_confirmed _ (fun _ hc => ⟨_, h, (Bool.and_eq_true_iff.mp hc).1⟩) w

theorem confined_deleteAllAffections (h : (self, py "affection") ∈ facts) (w : World) :
    ChangesOnly env facts w (deleteAllAffectionFacts env w).2 :=
  confined_confirmed _ (fun _ hc => ⟨_, h, hc⟩) w

theorem confined_resolveSkill {relation : PyStr} (h : (self, oppositeSkill relation) ∈ facts) (value : PyStr)
    (w : World) : ChangesOnly env facts w (resolveSkillConflicts env value relation w) :=
  confined_searched _ 200 (fun _ hc => ⟨_, h, concerns_of_states (Bool.and_eq_true_iff.mp hc).1⟩) w

theorem confined_deleteRelation (label : PyStr) (w : World) :
    ChangesOnly env MemoryDomain.relationship.facts w (deleteRelationFact env label w).2 := by
  unfold deleteRelationFact
  cases hfind : (w.profileRecords env .fact 100).find? (·.namesRelation (getLookupLabels label)) with
  | none => exact .refl w
  | some x =>
    have hmem := List.mem_of_find?_eq_some hfind
    have hnames : x.namesRelation (getLookupLabels label) = true := List.find?_some hfind
    have habout : x.About MemoryDomain.relationship.facts :=
      ⟨.inl (tagged_of_profileRecords hmem), _, List.mem_cons_self,
        concerns_of_states (Bool.and_eq_true_iff.mp hnames).1⟩
    refine ⟨le_rfl, fun r hr hout _ => ?_, fun r hr => .inl ?_⟩
    · show r ∈ (w.delete env x.id _).live
      rw [World.live_delete, List.mem_filter]
      refine ⟨hr, decide_eq_true fun hid => ?_⟩
      obtain rfl := InMemoryStore.live_id_inj hr (mem_live_of_profileRecords env x hmem) hid
      exact hout habout
    · have hr : r ∈ (w.delete env x.id (py "user_removal")).live := hr
      rw [World.live_delete] at hr
      exact List.mem_of_mem_filter hr

/-! ### saves -/

theorem about_of_reads {r : MemoryRecord} {subject relation : PyStr} (htag : r.type = .fact ∨ r.type = .preference)
    (htags : userProfile ∈ r.tags) (hsubject : r.metadata.is (py "subject") subject = true)
    (hrelation : r.metadata.is (py "relation") relation = true) (h : (subject, relation) ∈ facts) : r.About facts := by
  refine ⟨?_, _, h, Bool.and_eq_true_iff.mpr ⟨hsubject, hrelation⟩⟩
  unfold MemoryRecord.tagged
  rw [decide_eq_true htags, Bool.and_true, Bool.and_true, decide_eq_true_eq, decide_eq_true_eq]
  exact htag

theorem confined_v2 {sessionId subject relation value content originalText : PyStr} {tags : List PyStr}
    {extra : List (PyStr × PyStr)} (h : (subject, relation) ∈ facts) (hcontent : strip content ≠ [])
    (htags : userProfile ∈ tags) (hextra : Extra extra) (w : World) :
    ChangesOnly env facts w
      (saveProfileV2Fact env sessionId subject relation value content tags originalText extra w).2 := by
  refine .trySave hcontent fun r htype hrtags hmeta => ?_
  obtain ⟨-, -, -, hsubject, hrelation⟩ := @v2Metadata_reads subject relation value originalText extra hextra
  refine about_of_reads (.inl htype) (hrtags ▸ htags) ?_ ?_ h
  · rw [hmeta, hsubject]
    exact decide_eq_true rfl
  · rw [hmeta, hrelation]
    exact decide_eq_true rfl

theorem confined_autoSave {candidate : AutoProfileCandidate} (h : (self, candidate.relation) ∈ facts)
    (sessionId : PyStr) (w : World) :
    ChangesOnly env facts w (trySave env sessionId (autoProfileMemory env candidate) w).2 := by
  refine .trySave (autoProfileMemory_content env candidate) fun r htype htags hmeta => ?_
  obtain ⟨extra, hextra, hmetadata⟩ := @autoProfileMemory_metadata env candidate
  obtain ⟨-, -, -, hsubject, hrelation⟩ :=
    @v2Metadata_reads self candidate.relation (candidate.stored env) candidate.originalText extra hextra
  rw [← hmetadata, ← hmeta] at hsubject hrelation
  refine about_of_reads ?_ ?_ ?_ ?_ h
  · rw [htype]
    show (if candidate.relation = py "preference" then MemoryType.preference else .fact) = .fact ∨
      (if candidate.relation = py "preference" then MemoryType.preference else .fact) = .preference
    split_ifs
    · exact .inr rfl
    · exact .inl rfl
  · rw [htags]
    exact List.mem_append_left _ List.mem_cons_self
  · rw [hsubject]
    exact decide_eq_true rfl
  · rw [hrelation]
    exact decide_eq_true rfl

theorem confined_saveAuto {candidate : AutoProfileCandidate} (h : (self, candidate.relation) ∈ facts)
    (hrel : isPreferenceRelation candidate.relation = false) (sessionId : PyStr) (w : World) :
    ChangesOnly env facts w (saveAutoProfileFact env candidate sessionId w).2 := by
  unfold saveAutoProfileFact
  rw [if_neg (by rw [hrel]; exact Bool.false_ne_true)]
  exact confined_autoSave h sessionId w

theorem confined_savePreference {candidate : AutoProfileCandidate}
    (h : (self, candidate.relation) ∈ MemoryDomain.preference.facts) (sessionId : PyStr) (w : World) :
    ChangesOnly env MemoryDomain.preference.facts w (saveAutoProfileFact env candidate sessionId w).2 := by
  unfold saveAutoProfileFact
  dsimp only
  split_ifs
  · exact (confined_alias _ _ w).trans (confined_autoSave h sessionId _)
  · exact confined_autoSave h sessionId w

theorem confined_saveAffection (value sessionId originalText : PyStr) (w : World) :
    ChangesOnly env MemoryDomain.affection.facts w (saveAffectionFact env value sessionId originalText w).2 := by
  refine (@confined_deleteProfileRecords env _ self (py "negative_affection") ?_ value w).trans ?_
  · exact List.mem_cons_of_mem _ List.mem_cons_self
  · refine confined_v2 List.mem_cons_self ?_ List.mem_cons_self (fun _ h => absurd h List.not_mem_nil) _
    exact strip_append_ne_nil (c := 'b') (by simp) rfl

theorem confined_saveNegativeAffection (value sessionId originalText : PyStr) (w : World) :
    ChangesOnly env MemoryDomain.affection.facts w (saveNegativeAffectionFact env value sessionId originalText w).2 := by
  refine (@confined_deleteProfileRecords env _ self (py "affection") List.mem_cons_self value w).trans ?_
  refine confined_v2 (List.mem_cons_of_mem _ List.mem_cons_self) ?_ List.mem_cons_self
    (fun _ h => absurd h List.not_mem_nil) _
  exact strip_append_ne_nil (c := 'b') (by simp) rfl

theorem confined_saveFavorite (value domain sessionId originalText : PyStr) (w : World) :
    ChangesOnly env MemoryDomain.favorite.facts w (saveFavoriteFact env value domain sessionId originalText w).2 := by
  refine confined_v2 List.mem_cons_self ?_ List.mem_cons_self (fun kv hkv => ?_) w
  · rw [List.append_assoc]
    exact strip_append_ne_nil (c := 'b') (by simp) rfl
  · rw [List.mem_singleton.mp hkv]
    simp [extraKeys]

theorem confined_saveRelation (label newName sessionId originalText : PyStr) (w : World) :
    ChangesOnly env MemoryDomain.relationship.facts w (saveRelationUpdate env label newName sessionId originalText w).2 := by
  rw [saveRelationUpdate_eq]
  refine (confined_deleteRelation label w).trans ?_
  refine .trySave (relationMemory_content label newName originalText) fun r htype htags hmeta => ?_
  obtain ⟨-, -, hsubject, hrelation, -⟩ := relationMetadata_reads label newName originalText
  refine about_of_reads (.inl htype) ?_ ?_ ?_ List.mem_cons_self
  · rw [htags]
    exact List.mem_cons_self
  · rw [hmeta]
    exact (hsubject _).trans (decide_eq_true rfl)
  · rw [hmeta]
    exact (hrelation _).trans (decide_eq_true rfl)

/-- The metadata of `save_self_name_update`. -/
def nameMetadata (value originalText : PyStr) : Metadata :=
  profileMetadata [(py "profile_schema", schemaV1), (py "subject", self), (py "relation", py "name"),
      (py "value", value)]
    [(py "confirmation_source", py "auto_safe"), (py "original_text", originalText),
      (py "write_policy", py "auto_safe")]

theorem nameMetadata_reads (value originalText : PyStr) :
    (nameMetadata value originalText).is (py "subject") self = true ∧
      (nameMetadata value originalText).is (py "relation") (py "name") = true := by
  have hget : ∀ k, (nameMetadata value originalText).dict.get? k =
      assoc (textItems [(py "write_policy", py "auto_safe"), (py "original_text", originalText),
        (py "confirmation_source", py "auto_safe")] ++
        (confirmedItem ++ textItems [(py "value", value), (py "relation", py "name"),
          (py "subject", self), (py "profile_schema", schemaV1)])) k := fun k => get?_dictOf _ _
  have hsubject := hget (py "subject")
  have hrelation := hget (py "relation")
  simp only [textItems, confirmedItem, List.map_cons, List.map_nil, List.cons_append, List.nil_append,
    assoc_cons, py_inj, String.reduceEq, if_true, if_false] at hsubject hrelation
  constructor
  · simp [Metadata.is, holdsText, hsubject, PyVal.asStr]
  · simp [Metadata.is, holdsText, hrelation, PyVal.asStr]

theorem confined_saveName (value sessionId originalText : PyStr) (w : World) :
    ChangesOnly env MemoryDomain.name.facts w (saveSelfNameUpdate env value sessionId originalText w).2 := by
  unfold saveSelfNameUpdate saveConfirmedProfileFact
  dsimp only
  rw [if_pos rfl]
  refine .trySave (strip_append_ne_nil (c := 't') (by simp) rfl) fun r htype htags hmeta => ?_
  obtain ⟨hsubject, hrelation⟩ := nameMetadata_reads value originalText
  have hmeta : r.metadata = nameMetadata value originalText := hmeta
  rw [← hmeta] at hsubject hrelation
  refine about_of_reads (.inl htype) ?_ hsubject hrelation List.mem_cons_self
  rw [htags]
  exact List.mem_cons_self

/-! ### the operations -/

theorem goal_mem : (self, py "goal") ∈ MemoryDomain.goal.facts := List.mem_cons_of_mem _ List.mem_cons_self

theorem focus_mem : (self, py "goal_focus") ∈ MemoryDomain.goal.facts :=
  List.mem_cons_of_mem _ (List.mem_cons_of_mem _ List.mem_cons_self)

theorem goal_not_preference : isPreferenceRelation (py "goal") = false ∧
    isPreferenceRelation (py "goal_focus") = false := by
  simp [isPreferenceRelation]

theorem confined_removeOccupation (op : MemoryOperation) (w : World) :
    ChangesOnly env MemoryDomain.occupation.facts w (applyRemoveOccupation env op w).2 := by
  unfold applyRemoveOccupation
  have hfirst := @confined_deleteOccupation env MemoryDomain.occupation.facts List.mem_cons_self op.value w
  rcases hrun : deleteOccupationFact env op.value w with ⟨removed, w₁⟩
  rw [hrun] at hfirst
  cases removed with
  | some removed => exact hfirst
  | none =>
    have hsecond := @confined_deleteGoals env MemoryDomain.occupation.facts goal_mem focus_mem
      (goalConflictKey env.toUnicode op.value) w₁
    dsimp only
    rcases hrun' : deleteGoalFacts env (goalConflictKey env.toUnicode op.value) w₁ with ⟨removed, w₂⟩
    rw [hrun'] at hsecond
    cases removed with
    | some removed => exact hfirst.trans hsecond
    | none => exact hfirst.trans hsecond

theorem confined_removeGoal (op : MemoryOperation) (w : World) :
    ChangesOnly env MemoryDomain.goal.facts w (applyRemoveGoal env op w).2 := by
  unfold applyRemoveGoal
  have hfirst := @confined_deleteGoals env MemoryDomain.goal.facts goal_mem focus_mem op.canonicalKey w
  rcases hrun : deleteGoalFacts env op.canonicalKey w with ⟨removed, w₁⟩
  rw [hrun] at hfirst
  cases removed with
  | some removed => exact hfirst
  | none =>
    have hsecond := @confined_deleteOccupation env MemoryDomain.goal.facts List.mem_cons_self op.value w₁
    dsimp only
    rcases hrun' : deleteOccupationFact env op.value w₁ with ⟨removed, w₂⟩
    rw [hrun'] at hsecond
    cases removed with
    | some removed => exact hfirst.trans hsecond
    | none =>
      dsimp only
      split_ifs
      · exact hfirst.trans hsecond
      · exact hfirst.trans hsecond

theorem confined_removeAffection (op : MemoryOperation) (sessionId : PyStr) (w : World) :
    ChangesOnly env MemoryDomain.affection.facts w (applyRemoveAffection env op sessionId w).2 := by
  unfold applyRemoveAffection
  split_ifs
  · exact .refl w
  have hfirst := @confined_deleteAffection env MemoryDomain.affection.facts List.mem_cons_self op.value w
  rcases hrun : deleteAffectionFact env op.value w with ⟨removed, w₁⟩
  rw [hrun] at hfirst
  cases removed with
  | none => exact hfirst
  | some removed => exact hfirst.trans (confined_saveNegativeAffection removed sessionId op.rawText w₁)

theorem confined_addAffection (op : MemoryOperation) (sessionId : PyStr) (w : World) :
    ChangesOnly env MemoryDomain.affection.facts w (applyAddAffection env op sessionId w).2 := by
  unfold applyAddAffection
  dsimp only
  split_ifs
  · exact .refl w
  · rw [afterSave_snd]
    exact confined_saveAffection op.value sessionId op.rawText w
  · rw [afterSave_snd]
    exact confined_saveAffection op.value sessionId op.rawText w

theorem confined_updateRelationship (op : MemoryOperation) (sessionId : PyStr) (w : World) :
    ChangesOnly env MemoryDomain.relationship.facts w (applyUpdateRelationship env op sessionId w).2 := by
  unfold applyUpdateRelationship
  cases op.relation.getD [] with
  | nil => exact .refl w
  | cons c cs =>
    dsimp only
    rw [afterSave_snd]
    exact confined_saveRelation (c :: cs) op.value sessionId op.rawText w

theorem confined_replacePreference (op : MemoryOperation) (sessionId : PyStr) {relation : PyStr}
    (h : (self, relation) ∈ MemoryDomain.preference.facts) (kind : Option PyStr) (w : World) :
    ChangesOnly env MemoryDomain.preference.facts w (replacePreference env op sessionId relation kind w).2 :=
  (confined_resolvePreference op.value relation w).trans (confined_savePreference h sessionId _)

theorem confined_updatePreference (op : MemoryOperation) (sessionId : PyStr) (w : World) :
    ChangesOnly env MemoryDomain.preference.facts w (applyUpdatePreference env op sessionId w).2 := by
  unfold applyUpdatePreference
  by_cases hpolarity : op.polarity = some (py "negative")
  · rw [if_pos hpolarity]
    by_cases hnow : dislikedNow env op w = true
    · rw [if_pos hnow]
      exact .refl w
    · rw [if_neg hnow, afterSave_snd]
      exact confined_replacePreference op sessionId (List.mem_cons_of_mem _ List.mem_cons_self) _ w
  rw [if_neg hpolarity]
  split_ifs
  · exact .refl w
  · rw [afterSave_snd]
    exact confined_replacePreference op sessionId List.mem_cons_self _ w

theorem confined_saveGoal (op : MemoryOperation) (sessionId originalText : PyStr) (w : World) :
    ChangesOnly env MemoryDomain.goal.facts w (saveGoal env op sessionId originalText w).2 :=
  confined_saveAuto goal_mem goal_not_preference.1 sessionId w

theorem confined_updateGoal (op : MemoryOperation) (sessionId : PyStr) (w : World) :
    ChangesOnly env MemoryDomain.goal.facts w (applyUpdateGoal env op sessionId w).2 := by
  unfold applyUpdateGoal
  rw [afterSave_snd]
  refine (confined_confirmed (py "focus_superseded") (fun _ hc => ⟨_, focus_mem, hc⟩) w).trans ?_
  exact confined_saveAuto focus_mem goal_not_preference.2 sessionId _

theorem confined_clearGoals (op : MemoryOperation) (w : World) :
    ChangesOnly env MemoryDomain.goal.facts w (clearGoals env op w) := by
  unfold clearGoals
  split_ifs
  · exact confined_deleteAllGoals goal_mem focus_mem w
  · exact confined_deleteGoals goal_mem focus_mem op.canonicalKey w

theorem confined_switchGoal (op : MemoryOperation) (sessionId : PyStr) (w : World) :
    ChangesOnly env MemoryDomain.goal.facts w (applySwitchGoal env op sessionId w).2 := by
  unfold applySwitchGoal
  dsimp only
  split_ifs
  · exact confined_clearGoals op w
  · rw [afterSave_snd]
    exact (confined_clearGoals op w).trans (confined_saveGoal op sessionId op.rawText _)

theorem confined_addGoal (op : MemoryOperation) (sessionId : PyStr) (w : World) :
    ChangesOnly env MemoryDomain.goal.facts w (applyAddGoal env op sessionId w).2 := by
  unfold applyAddGoal
  dsimp only
  split_ifs
  · exact .refl w
  · rw [afterSave_snd]
    exact confined_saveGoal op sessionId op.rawText w

/-- One case for each branch. -/
theorem confined_apply (op : MemoryOperation) (sessionId : PyStr) (w : World) :
    ChangesOnly env op.domain.facts w (applyMemoryOperation env op sessionId w).2 := by
  unfold applyMemoryOperation
  by_cases hvalid : (!validateMemoryOperation env op) = true
  · rw [if_pos hvalid]
    exact .refl w
  rw [if_neg hvalid]
  have hdomain : ∀ d, op.domain = d → ∀ x : Applied, ChangesOnly env d.facts w x.2 → ChangesOnly env op.domain.facts w x.2 := by
    rintro d rfl x h
    exact h
  split
  · next hd => exact hdomain _ hd _ (confined_removeOccupation op w)
  · next hd => exact hdomain _ hd _ (confined_removeGoal op w)
  · next hd => exact hdomain _ hd _ (confined_removeAffection op sessionId w)
  · next hd => exact hdomain _ hd _ (confined_addAffection op sessionId w)
  · next hd => exact hdomain _ hd _ (confined_updateRelationship op sessionId w)
  · next hd =>
    refine hdomain _ hd _ ?_
    unfold applyUpdateFavorite
    rw [afterSave_snd]
    exact confined_saveFavorite op.value _ sessionId op.rawText w
  · next hd => exact hdomain _ hd _ (confined_updatePreference op sessionId w)
  · next hd => exact hdomain _ hd _ (confined_updateGoal op sessionId w)
  · next hd => exact hdomain _ hd _ (confined_switchGoal op sessionId w)
  · next hd => exact hdomain _ hd _ (confined_addGoal op sessionId w)
  · exact .refl w

end

/-- **Operations leave the facts of other domains alone**, over every run of them. -/
theorem operations_confined (env : MemoryEnv) (sessionId : PyStr) (ops : List MemoryOperation) (w : World) :
    ChangesOnly env (ops.flatMap fun op => op.domain.facts) w (applyOperations env sessionId ops w) := by
  induction ops generalizing w with
  | nil => exact .refl w
  | cons op ops ih =>
    rw [List.flatMap_cons]
    refine ((confined_apply op sessionId w).mono (List.subset_append_left _ _)).trans ?_
    exact (ih _).mono (List.subset_append_right _ _)

end Tomtit
