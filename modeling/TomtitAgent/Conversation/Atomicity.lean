import TomtitAgent.Conversation.ProfileEffects

/-!
# Failure atomicity of a memory operation

An operation that is not applied returns `none`.  Every branch that saves deletes what it supersedes
first, so a store that fails at the save leaves the live records as they were exactly when there was
nothing to delete.  `supersedes` says for each branch when there is; `applyMemoryOperation_atomic_iff`
is the statement for every operation and state.
-/

namespace Tomtit
open Py

section
variable (env : MemoryEnv)

/-! ### what an operation deletes before it saves -/

def negates (relation value : PyStr) (r : MemoryRecord) : Bool :=
  r.states self relation && env.norm r.metadata.value = env.norm value

/-- A record of the opposite polarity that conflicts, or a record of the same polarity that is an
alias of the value. -/
def supersedesPreference (value relation : PyStr) (w : World) : Bool :=
  let canonical := canonicalizeKnownPreferenceValue env.toUnicode value
  (findConflictingPreferenceRecords env value w).any
      (fun r => r.metadata.is (py "relation") (oppositePreference relation)) ||
  (findConflictingPreferenceRecords env canonical w).any fun r =>
      r.metadata.is (py "relation") relation &&
      env.norm r.metadata.value ≠ env.norm (canonicalizeKnownPreferenceValue env.toUnicode canonical) &&
      env.norm (canonicalizeKnownPreferenceValue env.toUnicode r.metadata.value) =
        env.norm (canonicalizeKnownPreferenceValue env.toUnicode canonical)

def supersededGoal (op : MemoryOperation) (r : MemoryRecord) : Bool :=
  r.isGoal && (op.source = py "goal_replace_all" ||
    r.metadata.value ≠ [] && goalHit env op.canonicalKey r.metadata.value)

/-- The operation comes to a save, and deletes something before. -/
def supersedes (op : MemoryOperation) (w : World) : Bool :=
  validateMemoryOperation env op &&
  match op.op, op.domain with
  | .add, .affection => !keyAmong env op (collectProfileSnapshot env w).affections &&
      (w.profileRecords env .fact 200).any (negates env (py "negative_affection") op.value)
  | .updateCurrent, .relationship => op.relation.getD [] ≠ [] &&
      (w.profileRecords env .fact 100).any (·.namesRelation (getLookupLabels (op.relation.getD [])))
  | .updateCurrent, .preference =>
    if op.polarity = some (py "negative") then
      !dislikedNow env op w && supersedesPreference env op.value (py "negative_preference") w
    else if op.source = py "pref_state_change_conditional" ∧ dislikedNow env op w = false then false
    else supersedesPreference env op.value (py "preference") w
  | .updateCurrent, .goal => (confirmedProfileFacts env w).any (·.concerns self (py "goal_focus"))
  | .switch, .goal => !goalAlreadyActive env op.value (clearGoals env op w) &&
      (confirmedProfileFacts env w).any (supersededGoal env op)
  | _, _ => false

/-! ### deletions that find nothing -/

theorem deleteOccupationFact_none {value : PyStr} {w : World}
    (h : (deleteOccupationFact env value w).1 = none) : (deleteOccupationFact env value w).2 = w :=
  deleteEach_of_none (matchedValue_eq_none.mp h) w

theorem deleteGoalFacts_none {key : PyStr} {w : World} (h : (deleteGoalFacts env key w).1 = none) :
    (deleteGoalFacts env key w).2 = w := deleteEach_of_none (matchedValue_eq_none.mp h) w

theorem deleteAffectionFact_none {value : PyStr} {w : World}
    (h : (deleteAffectionFact env value w).1 = none) : (deleteAffectionFact env value w).2 = w :=
  deleteEach_of_none (matchedValue_eq_none.mp h) w

theorem applyRemoveOccupation_none {op : MemoryOperation} {w : World}
    (h : (applyRemoveOccupation env op w).1 = none) : (applyRemoveOccupation env op w).2.live = w.live := by
  unfold applyRemoveOccupation at h ⊢
  have h1 := @deleteOccupationFact_none env op.value w
  generalize deleteOccupationFact env op.value w = d1 at h h1 ⊢
  obtain ⟨_ | removed, w1⟩ := d1
  · have h2 := @deleteGoalFacts_none env (goalConflictKey env.toUnicode op.value) w1
    dsimp only at h h2 ⊢
    generalize deleteGoalFacts env (goalConflictKey env.toUnicode op.value) w1 = d2 at h h2 ⊢
    obtain ⟨_ | removed, w2⟩ := d2
    · show w2.live = w.live
      rw [show w2 = w1 from h2 rfl, show w1 = w from h1 rfl]
    · exact absurd h (by simp)
  · exact absurd h (by simp)

theorem applyRemoveGoal_none {op : MemoryOperation} {w : World}
    (h : (applyRemoveGoal env op w).1 = none) : (applyRemoveGoal env op w).2.live = w.live := by
  unfold applyRemoveGoal at h ⊢
  have h1 := @deleteGoalFacts_none env op.canonicalKey w
  generalize deleteGoalFacts env op.canonicalKey w = d1 at h h1 ⊢
  obtain ⟨_ | removed, w1⟩ := d1
  · have h2 := @deleteOccupationFact_none env op.value w1
    dsimp only at h h2 ⊢
    generalize deleteOccupationFact env op.value w1 = d2 at h h2 ⊢
    obtain ⟨_ | removed, w2⟩ := d2
    · have e : w2 = w := by rw [show w2 = w1 from h2 rfl, show w1 = w from h1 rfl]
      dsimp only at h ⊢
      split_ifs
      · rw [e]
      · rw [e]
    · exact absurd h (by simp)
  · exact absurd h (by simp)

theorem applyRemoveAffection_none {op : MemoryOperation} {sessionId : PyStr} {w : World}
    (h : (applyRemoveAffection env op sessionId w).1 = none) :
    (applyRemoveAffection env op sessionId w).2.live = w.live := by
  unfold applyRemoveAffection at h ⊢
  split_ifs at h ⊢
  · rfl
  · have h1 := @deleteAffectionFact_none env op.value w
    generalize deleteAffectionFact env op.value w = d1 at h h1 ⊢
    obtain ⟨_ | removed, w1⟩ := d1
    · show w1.live = w.live
      rw [show w1 = w from h1 rfl]
    · exact absurd h (by simp)

/-! ### deletions before a save -/

/-- A deletion before a save: it reads no new record, and it changes the live records exactly when it
finds something. -/
structure Prunes (found : Bool) (w w1 : World) : Prop where
  made : w1.made = w.made
  none : found = false → w1 = w
  some : found = true → w1.live ≠ w.live
  sub : w1.live.Sublist w.live

theorem prunes_nothing (w : World) : Prunes false w w :=
  ⟨rfl, fun _ => rfl, fun h => Bool.noConfusion h, List.Sublist.refl _⟩

theorem prunes_deleteEach {cond : MemoryRecord → Bool} {reason : PyStr} {rs : List MemoryRecord}
    {w : World} (hrs : ∀ r ∈ rs, r ∈ w.live) : Prunes (rs.any cond) w (w.deleteEach env cond reason rs) where
  made := World.made_deleteEach env rs w
  none h := deleteEach_of_none h w
  some h := deleteEach_of_some hrs h
  sub := live_deleteEach_sub

theorem Prunes.trans {a b : Bool} {w w1 w2 : World} (h1 : Prunes a w w1)
    (h2 : w1 = w → Prunes b w1 w2) (h2' : w2.made = w1.made ∧ w2.live.Sublist w1.live) :
    Prunes (a || b) w w2 where
  made := h2'.1.trans h1.made
  none h := by
    obtain ⟨ha, hb⟩ := Bool.or_eq_false_iff.mp h
    have e := h1.none ha
    rw [(h2 e).none hb, e]
  some h hlive := by
    have hsub1 : w1.live = w.live :=
      h1.sub.antisymm (hlive ▸ h2'.2)
    cases ha : a with
    | true => exact h1.some ha hsub1
    | false =>
      have e := h1.none ha
      rw [ha, Bool.false_or] at h
      exact (h2 e).some h (hlive.trans hsub1.symm)
  sub := h2'.2.trans h1.sub

theorem afterSave_atomic {found : Bool} {w w1 : World} (hp : Prunes found w w1) {sessionId : PyStr}
    {m : NewMemory} (hm : strip m.content ≠ []) (outcome : MemoryOperationOutcome) :
    ((afterSave (trySave env sessionId m w1) outcome).1 = none →
        (afterSave (trySave env sessionId m w1) outcome).2.live = w.live) ↔
      (env.fault w.made ≠ none → found = false) := by
  have hfst := @trySave_fst env sessionId m hm w1
  rw [hp.made] at hfst
  unfold afterSave
  cases hf : env.fault w.made with
  | none =>
    rw [hf] at hfst
    rw [hfst]
    exact iff_of_true (fun h => absurd h (by simp)) fun h => absurd rfl h
  | some x =>
    rw [hf] at hfst
    have hlive := trySave_live hfst
    rw [hfst]
    simp only [Option.isNone_some, Bool.false_eq_true, if_false, forall_const, ne_eq, reduceCtorEq,
      not_false_eq_true]
    rw [hlive]
    constructor
    · intro h
      by_contra hfound
      exact hp.some (eq_true_of_ne_false hfound) h
    · intro h
      rw [hp.none h]

theorem prunes_deleteCanonicalAlias (value relation : PyStr) (w : World) :
    Prunes ((findConflictingPreferenceRecords env value w).any fun r =>
        r.metadata.is (py "relation") relation &&
        env.norm r.metadata.value ≠ env.norm (canonicalizeKnownPreferenceValue env.toUnicode value) &&
        env.norm (canonicalizeKnownPreferenceValue env.toUnicode r.metadata.value) =
          env.norm (canonicalizeKnownPreferenceValue env.toUnicode value))
      w (deleteCanonicalAliasPreferenceRecords env value relation w) :=
  prunes_deleteEach env (mem_live_of_findConflicting env)

theorem replacePreference_atomic (op : MemoryOperation) (sessionId : PyStr) {relation : PyStr}
    (hrel : isPreferenceRelation relation = true) (kind : Option PyStr) (w : World)
    (outcome : MemoryOperationOutcome) :
    ((afterSave (replacePreference env op sessionId relation kind w) outcome).1 = none →
        (afterSave (replacePreference env op sessionId relation kind w) outcome).2.live = w.live) ↔
      (env.fault w.made ≠ none → supersedesPreference env op.value relation w = false) := by
  unfold replacePreference saveAutoProfileFact
  rw [if_pos hrel]
  refine afterSave_atomic env ?_ (autoProfileMemory_content env _) outcome
  have h1 : Prunes ((findConflictingPreferenceRecords env op.value w).any
        fun r => r.metadata.is (py "relation") (oppositePreference relation))
      w (resolvePreferenceConflicts env op.value relation w) :=
    prunes_deleteEach env (mem_live_of_findConflicting env)
  have h2 := prunes_deleteCanonicalAlias env
    (canonicalizeKnownPreferenceValue env.toUnicode op.value) relation
    (resolvePreferenceConflicts env op.value relation w)
  refine h1.trans (fun e => ?_) ⟨h2.made, h2.sub⟩
  rw [e] at h2 ⊢
  exact h2

theorem saveGoal_atomic {found : Bool} {w w1 : World} (hp : Prunes found w w1) (op : MemoryOperation)
    (sessionId text : PyStr) (outcome : MemoryOperationOutcome) :
    ((afterSave (saveGoal env op sessionId text w1) outcome).1 = none →
        (afterSave (saveGoal env op sessionId text w1) outcome).2.live = w.live) ↔
      (env.fault w.made ≠ none → found = false) := by
  unfold saveGoal saveAutoProfileFact
  rw [if_neg (show ¬ isPreferenceRelation (py "goal") = true by simp [isPreferenceRelation])]
  exact afterSave_atomic env hp (autoProfileMemory_content env _) outcome

theorem prunes_deleteRelationFact (label : PyStr) (w : World) :
    Prunes ((w.profileRecords env .fact 100).any (·.namesRelation (getLookupLabels label))) w
      (deleteRelationFact env label w).2 := by
  unfold deleteRelationFact
  cases e : (w.profileRecords env .fact 100).find? (·.namesRelation (getLookupLabels label)) with
  | none =>
    have hnone : (w.profileRecords env .fact 100).any (·.namesRelation (getLookupLabels label)) = false := by
      rw [List.any_eq_false]
      exact List.find?_eq_none.mp e
    rw [hnone]
    exact prunes_nothing w
  | some r =>
    have hr := mem_live_of_profileRecords env r (List.mem_of_find?_eq_some e)
    have hsome : (w.profileRecords env .fact 100).any (·.namesRelation (getLookupLabels label)) = true :=
      List.any_eq_true.mpr ⟨r, List.mem_of_find?_eq_some e, List.find?_some e⟩
    have hlive := World.live_delete env r.id (py "user_removal") w
    rw [hsome]
    refine ⟨rfl, fun h => Bool.noConfusion h, fun _ hsame => ?_, ?_⟩
    · rw [← hsame, hlive] at hr
      simpa using (List.mem_filter.mp hr).2
    · show (World.delete env r.id (py "user_removal") w).live.Sublist w.live
      rw [hlive]
      exact List.filter_sublist

theorem prunes_clearGoals (op : MemoryOperation) (w : World) :
    Prunes ((confirmedProfileFacts env w).any (supersededGoal env op)) w (clearGoals env op w) := by
  unfold clearGoals
  split_ifs with h
  · have e : supersededGoal env op = fun r => r.isGoal := by
      funext r
      simp [supersededGoal, h]
    rw [e]
    exact prunes_deleteEach env (mem_live_of_confirmedProfileFacts env)
  · have e : supersededGoal env op = fun r =>
        r.isGoal && r.metadata.value ≠ [] && goalHit env op.canonicalKey r.metadata.value := by
      funext r
      simp [supersededGoal, h, Bool.and_assoc]
    rw [e]
    exact prunes_deleteEach env (mem_live_of_confirmedProfileFacts env)

/-! ### every operation -/

theorem atomic_of_unchanged {found : Bool} {fails : Prop} {res : Applied} {w : World}
    (hfound : found = false) (h : res.1 = none → res.2.live = w.live) :
    (res.1 = none → res.2.live = w.live) ↔ (fails → found = false) :=
  iff_of_true h fun _ => hfound

theorem atomic_of_applied {found : Bool} {fails : Prop} {outcome : MemoryOperationOutcome}
    {w1 w : World} (hfound : found = false) :
    (((some outcome, w1) : Applied).1 = none → ((some outcome, w1) : Applied).2.live = w.live) ↔
      (fails → found = false) :=
  atomic_of_unchanged hfound fun h => absurd h (Option.some_ne_none outcome)

theorem applyAddAffection_atomic (op : MemoryOperation) (sessionId : PyStr) (w : World) :
    ((applyAddAffection env op sessionId w).1 = none →
        (applyAddAffection env op sessionId w).2.live = w.live) ↔
      (env.fault w.made ≠ none →
        (!keyAmong env op (collectProfileSnapshot env w).affections &&
          (w.profileRecords env .fact 200).any
            (negates env (py "negative_affection") op.value)) = false) := by
  unfold applyAddAffection
  cases h : keyAmong env op (collectProfileSnapshot env w).affections with
  | true => exact atomic_of_applied rfl
  | false =>
    have hcontent : strip (py "bạn có tình cảm/thích " ++ op.value) ≠ [] :=
      strip_append_ne_nil (c := 'b') (by simp) rfl
    rw [Bool.not_false, Bool.true_and, if_neg Bool.false_ne_true]
    unfold saveAffectionFact saveProfileV2Fact
    exact afterSave_atomic env (prunes_deleteEach env (mem_live_of_profileRecords env)) hcontent _

theorem applyUpdateRelationship_atomic (op : MemoryOperation) (sessionId : PyStr) (w : World) :
    ((applyUpdateRelationship env op sessionId w).1 = none →
        (applyUpdateRelationship env op sessionId w).2.live = w.live) ↔
      (env.fault w.made ≠ none →
        (op.relation.getD [] ≠ [] &&
          (w.profileRecords env .fact 100).any
            (·.namesRelation (getLookupLabels (op.relation.getD [])))) = false) := by
  unfold applyUpdateRelationship
  split
  · next e =>
    rw [e]
    exact atomic_of_unchanged rfl fun _ => rfl
  · next c cs e =>
    rw [e, decide_eq_true (List.cons_ne_nil c cs), Bool.true_and]
    unfold saveRelationUpdate saveConfirmedProfileFact
    rw [if_neg (show py "relation" ≠ self by simp [self])]
    refine afterSave_atomic env (prunes_deleteRelationFact env (c :: cs) w) ?_ _
    show strip (((c :: cs) ++ py " của bạn tên là ") ++ op.value) ≠ []
    refine strip_ne_nil_of_mem (c := CodePoint.ofChar 'b') ?_ rfl
    exact List.mem_append_left _ (List.mem_append_right _ (mem_py.mpr (by simp)))

theorem applyUpdateFavorite_atomic (op : MemoryOperation) (sessionId : PyStr) (w : World) :
    ((applyUpdateFavorite env op sessionId w).1 = none →
        (applyUpdateFavorite env op sessionId w).2.live = w.live) ↔
      (env.fault w.made ≠ none → false = false) := by
  refine afterSave_atomic env (prunes_nothing w) ?_ _
  show strip ((py "bạn thích " ++ op.value) ++ py " nhất") ≠ []
  rw [List.append_assoc]
  exact strip_append_ne_nil (c := 'b') (by simp) rfl

theorem applyUpdatePreference_atomic (op : MemoryOperation) (sessionId : PyStr) (w : World) :
    ((applyUpdatePreference env op sessionId w).1 = none →
        (applyUpdatePreference env op sessionId w).2.live = w.live) ↔
      (env.fault w.made ≠ none →
        (if op.polarity = some (py "negative") then
          !dislikedNow env op w && supersedesPreference env op.value (py "negative_preference") w
        else if op.source = py "pref_state_change_conditional" ∧ dislikedNow env op w = false then false
        else supersedesPreference env op.value (py "preference") w) = false) := by
  unfold applyUpdatePreference
  dsimp only
  by_cases hneg : op.polarity = some (py "negative")
  · rw [if_pos hneg, if_pos hneg]
    cases hdis : dislikedNow env op w with
    | true => exact atomic_of_applied rfl
    | false =>
      rw [Bool.not_false, Bool.true_and, if_neg Bool.false_ne_true]
      have hrel : isPreferenceRelation (py "negative_preference") = true := by simp [isPreferenceRelation]
      exact replacePreference_atomic env op sessionId hrel none w _
  · rw [if_neg hneg, if_neg hneg]
    by_cases hcond : op.source = py "pref_state_change_conditional" ∧ dislikedNow env op w = false
    · rw [if_pos hcond, if_pos hcond]
      exact atomic_of_unchanged rfl fun _ => rfl
    · rw [if_neg hcond, if_neg hcond]
      have hrel : isPreferenceRelation (py "preference") = true := by simp [isPreferenceRelation]
      exact replacePreference_atomic env op sessionId hrel _ w _

theorem applyUpdateGoal_atomic (op : MemoryOperation) (sessionId : PyStr) (w : World) :
    ((applyUpdateGoal env op sessionId w).1 = none →
        (applyUpdateGoal env op sessionId w).2.live = w.live) ↔
      (env.fault w.made ≠ none →
        (confirmedProfileFacts env w).any (·.concerns self (py "goal_focus")) = false) := by
  unfold applyUpdateGoal saveGoalFocus saveAutoProfileFact
  rw [if_neg (show ¬ isPreferenceRelation (py "goal_focus") = true by simp [isPreferenceRelation])]
  exact afterSave_atomic env (prunes_deleteEach env (mem_live_of_confirmedProfileFacts env))
    (autoProfileMemory_content env _) _

theorem applySwitchGoal_atomic (op : MemoryOperation) (sessionId : PyStr) (w : World) :
    ((applySwitchGoal env op sessionId w).1 = none →
        (applySwitchGoal env op sessionId w).2.live = w.live) ↔
      (env.fault w.made ≠ none →
        (!goalAlreadyActive env op.value (clearGoals env op w) &&
          (confirmedProfileFacts env w).any (supersededGoal env op)) = false) := by
  simp only [applySwitchGoal]
  by_cases h : goalAlreadyActive env op.value (clearGoals env op w) = true
  · rw [if_pos h, h]
    exact atomic_of_applied rfl
  · rw [if_neg h, Bool.eq_false_iff.mpr h, Bool.not_false, Bool.true_and]
    exact saveGoal_atomic env (prunes_clearGoals env op w) op sessionId op.rawText _

theorem applyAddGoal_none {op : MemoryOperation} {sessionId : PyStr} {w : World}
    (h : (applyAddGoal env op sessionId w).1 = none) :
    (applyAddGoal env op sessionId w).2.live = w.live := by
  simp only [applyAddGoal] at h ⊢
  by_cases hactive : goalAlreadyActive env op.value w = true
  · rw [if_pos hactive] at h
    exact absurd h (Option.some_ne_none _)
  · rw [if_neg hactive] at h ⊢
    exact (saveGoal_atomic env (prunes_nothing w) op sessionId op.rawText _).mpr (fun _ => rfl) h

/-- An operation that is not applied leaves the live records as they were, unless its save fails
after it has deleted what the save was to supersede; and then never. -/
theorem applyMemoryOperation_atomic_iff (op : MemoryOperation) (sessionId : PyStr) (w : World) :
    ((applyMemoryOperation env op sessionId w).1 = none →
        (applyMemoryOperation env op sessionId w).2.live = w.live) ↔
      (env.fault w.made ≠ none → supersedes env op w = false) := by
  unfold applyMemoryOperation supersedes
  cases hv : validateMemoryOperation env op with
  | false => exact atomic_of_unchanged rfl fun _ => rfl
  | true =>
    rw [Bool.not_true, if_neg Bool.false_ne_true, Bool.true_and]
    generalize op.op = kind
    generalize op.domain = domain
    split
    · exact atomic_of_unchanged rfl (applyRemoveOccupation_none env)
    · exact atomic_of_unchanged rfl (applyRemoveGoal_none env)
    · exact atomic_of_unchanged rfl (applyRemoveAffection_none env)
    · exact applyAddAffection_atomic env op sessionId w
    · exact applyUpdateRelationship_atomic env op sessionId w
    · exact applyUpdateFavorite_atomic env op sessionId w
    · exact applyUpdatePreference_atomic env op sessionId w
    · exact applyUpdateGoal_atomic env op sessionId w
    · exact applySwitchGoal_atomic env op sessionId w
    · exact atomic_of_unchanged rfl (applyAddGoal_none env)
    · next hadd hrel hfav hpref hgoal hswitch _ =>
      refine atomic_of_unchanged ?_ fun _ => rfl
      split
      · exact absurd rfl (hadd rfl)
      · exact absurd rfl (hrel rfl)
      · exact absurd rfl (hpref rfl)
      · exact absurd rfl (hgoal rfl)
      · exact absurd rfl (hswitch rfl)
      · rfl

end

/-! ### a store that fails after a deletion -/

def brittleEnv : MemoryEnv := { plainEnv with fault := fun n => if n = 0 then none else some blankContent }

def focusOn (value : PyStr) : MemoryOperation where
  op := .updateCurrent
  domain := .goal
  value := value
  canonicalKey := canonicalizeMemoryValue asciiUnicode value

def rustFocus : NewMemory :=
  autoProfileMemory brittleEnv
    { relation := py "goal_focus", value := py "rust", originalText := [] }

/-- The profile with the focus `rust`. -/
def focusedWorld : World := (trySave brittleEnv (py "s") rustFocus .empty).2

theorem isWord_python : IsWord (py "python") := isWord_py (by simp) (by simp; decide)

theorem validate_python {env : MemoryEnv} (henv : env.toUnicode = asciiUnicode) :
    validateMemoryOperation env (focusOn (py "python")) = true := by
  have hlower : asciiUnicode.lower (py "python") = py "python" := asciiUnicode.lower_py (by simp)
  have hsafe : isUnsafeOrSensitiveAutoValue asciiUnicode (py "python") = false := by
    refine isUnsafe_word asciiUnicode isWord_python ?_ ?_ ?_
    · rw [hlower]
      intro c hc
      obtain ⟨d, hd, rfl⟩ := List.mem_map.mp hc
      revert d
      simp
      decide
    · rw [hlower]
      simp [unsafeValueExact]
    · rw [hlower]
      simp [unsafeValueTokens]
  have hstrip : strip (py "python") ≠ [] := by
    refine strip_ne_nil_of_mem (c := CodePoint.ofChar 'p') (mem_py.mpr ?_) rfl
    simp
  unfold validateMemoryOperation
  rw [show (focusOn (py "python")).value = py "python" from rfl, if_neg hstrip, henv, hsafe]
  simp [focusOn]

theorem applyMemoryOperation_focus {env : MemoryEnv} {op : MemoryOperation} {sessionId : PyStr}
    {w : World} (hvalid : validateMemoryOperation env op = true) (hop : op.op = .updateCurrent)
    (hdomain : op.domain = .goal) :
    applyMemoryOperation env op sessionId w = applyUpdateGoal env op sessionId w := by
  unfold applyMemoryOperation
  rw [hvalid, Bool.not_true, if_neg Bool.false_ne_true, hop, hdomain]

/-- A second focus takes the first one away and is not stored. -/
theorem not_atomic_focus :
    ¬ ((applyMemoryOperation brittleEnv (focusOn (py "python")) (py "s") focusedWorld).1 = none →
      (applyMemoryOperation brittleEnv (focusOn (py "python")) (py "s") focusedWorld).2.live =
        focusedWorld.live) := by
  have happly : applyMemoryOperation brittleEnv (focusOn (py "python")) (py "s") focusedWorld =
      applyUpdateGoal brittleEnv (focusOn (py "python")) (py "s") focusedWorld :=
    applyMemoryOperation_focus (validate_python rfl) rfl rfl
  obtain ⟨hlive, hmade, -⟩ := @trySave_fresh brittleEnv (py "s") rustFocus
    (autoProfileMemory_content brittleEnv _) .empty rfl List.not_mem_nil
  have hlimit : (focusedWorld.live.filter (·.tagged .fact)).length ≤ 200 := by
    refine (List.length_filter_le _ _).trans ?_
    show (trySave _ _ _ _).2.live.length ≤ 200
    rw [hlive]
    decide
  have hfact : (confirmedProfileFacts brittleEnv focusedWorld).any
      (·.concerns self (py "goal_focus")) = true := by
    obtain ⟨extra, hextra, hmd⟩ := @autoProfileMemory_metadata brittleEnv
      { relation := py "goal_focus", value := py "rust", originalText := [] }
    obtain ⟨-, hconfirmed, -, hsubject, hrelation⟩ := @v2Metadata_reads self (py "goal_focus")
      _ [] extra hextra
    rw [← hmd] at hconfirmed hsubject hrelation
    refine List.any_eq_true.mpr ⟨savedRecord brittleEnv (py "s") rustFocus .empty, List.mem_filter.mpr
      ⟨(mem_profileRecords_within hlimit).mpr ⟨?_, ?_⟩, hconfirmed⟩, ?_⟩
    · show _ ∈ (trySave brittleEnv (py "s") rustFocus .empty).2.live
      rw [hlive]
      exact List.mem_append_right _ List.mem_cons_self
    · simp [MemoryRecord.tagged, savedRecord, MemoryRecord.markUpdated, MemoryAgent.record,
        rustFocus, autoProfileMemory]
    · rw [MemoryRecord.concerns, Bool.and_eq_true]
      exact ⟨(hsubject self).trans (decide_eq_true rfl), (hrelation _).trans (decide_eq_true rfl)⟩
  rw [happly, applyUpdateGoal_atomic, hfact]
  intro h
  have hfault : brittleEnv.fault focusedWorld.made ≠ none := by
    show brittleEnv.fault (trySave _ _ _ _).2.made ≠ none
    rw [hmade]
    exact Option.some_ne_none blankContent
  exact absurd (h hfault) Bool.noConfusion

end Tomtit
