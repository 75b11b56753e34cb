import TomtitAgent.Conversation.Atomicity
import TomtitAgent.Conversation.Polarity

/-!
# Goals and their negations

`save_intention_goal_fact` and `save_negative_goal_fact` delete the opposite records of their value.
The other writes of a goal, the operations `ADD`, `SWITCH` and `UPDATE_CURRENT` and the automatic save,
delete no negation.

`goals_apart_of_run`   in a run in which none of these saves a goal that the profile negates, no state
has a value among both the goals and the negated ones.
-/

namespace Tomtit
open Py

/-- The writes of goals; `stopsWork` is the `REMOVE` of an occupation, which deletes goals when the
profile has no such occupation. -/
inductive GoalWrite where
  | operation (op : MemoryOperation)
  | batchAdd (op : MemoryOperation)
  | batchRemove (op : MemoryOperation)
  | stopsWork (op : MemoryOperation)
  | autoSave (value : PyStr)
  | intention (value : PyStr)
  | negative (value : PyStr)

section
variable (env : MemoryEnv)

/-- The goal `ADD` of a batch. -/
def batchAddGoal (op : MemoryOperation) (sessionId text : PyStr) (w : World) : World :=
  if !validateMemoryOperation env op then w
  else if goalAlreadyActive env op.value w then w
  else (saveGoal env op sessionId text w).2

/-- The goal `REMOVE` of a batch. -/
def batchRemoveGoal (op : MemoryOperation) (w : World) : World :=
  if !validateMemoryOperation env op then w else (deleteGoalFacts env op.canonicalKey w).2

def Turn.writesGoal (t : Turn GoalWrite) (w : World) : World :=
  match t.write with
  | .operation op => (applyMemoryOperation env { op with domain := .goal } t.sessionId w).2
  | .batchAdd op => batchAddGoal env op t.sessionId t.text w
  | .batchRemove op => batchRemoveGoal env op w
  | .stopsWork op =>
    (applyMemoryOperation env { op with op := .remove, domain := .occupation } t.sessionId w).2
  | .autoSave value =>
    (saveAutoProfileFact env
      { relation := py "goal", value := value, originalText := t.text } t.sessionId w).2
  | .intention value => (saveIntentionGoalFact env value t.sessionId t.text w).2
  | .negative value => (saveNegativeGoalFact env value t.sessionId t.text w).2

def NotNegated (value : PyStr) (w : World) : Prop :=
  value ≠ [] → isDirtyValue env.toUnicode value = false →
    ∀ r ∈ w.live, r.shown env ≠ some (.negativeGoals, env.valueKey value)

/-- The write saves no goal that the profile negates, unless it takes the negation back. -/
def negatesNoGoal (t : Turn GoalWrite) (w : World) : Prop :=
  match t.write with
  | .operation op => validateMemoryOperation env { op with domain := .goal } = true →
    match op.op with
    | .add => goalAlreadyActive env op.value w = false → NotNegated env op.value w
    | .switch => goalAlreadyActive env op.value (clearGoals env { op with domain := .goal } w) = false →
      NotNegated env op.value w
    | .updateCurrent => NotNegated env op.value w
    | _ => True
  | .batchAdd op => validateMemoryOperation env op = true →
    goalAlreadyActive env op.value w = false → NotNegated env op.value w
  | .autoSave value => NotNegated env value w
  | .batchRemove _ => True
  | .stopsWork _ => True
  | .intention _ => True
  | .negative _ => True

end

def goalPairs : List (Shelf × Shelf) := [(.goals, .negativeGoals)]

section
variable {env : MemoryEnv}

theorem shown_goals {r : MemoryRecord} {k : PyStr × PyStr} (h : r.shown env = some (.goals, k)) :
    (r.slot? = some .goal ∨ r.slot? = some .focus) ∧ k = env.valueKey r.metadata.value ∧
      r.readable env = true := by
  obtain ⟨hread, slot, hslot, hentry⟩ := shown_eq_some h
  cases slot with
  | goal => exact ⟨.inl hslot, (Prod.mk.inj (Option.some.inj hentry)).2.symm, hread⟩
  | focus => exact ⟨.inr hslot, (Prod.mk.inj (Option.some.inj hentry)).2.symm, hread⟩
  | preference =>
    rw [slotEntry] at hentry
    split_ifs at hentry <;> simp at hentry
  | _ => simp [slotEntry] at hentry

theorem shown_negativeGoals {r : MemoryRecord} {k : PyStr × PyStr}
    (h : r.shown env = some (.negativeGoals, k)) :
    r.slot? = some .negativeGoal ∧ k = env.valueKey r.metadata.value ∧ r.readable env = true := by
  obtain ⟨hread, slot, hslot, hentry⟩ := shown_eq_some h
  cases slot with
  | negativeGoal => exact ⟨hslot, (Prod.mk.inj (Option.some.inj hentry)).2.symm, hread⟩
  | preference =>
    rw [slotEntry] at hentry
    split_ifs at hentry <;> simp at hentry
  | _ => simp [slotEntry] at hentry

/-! ### the invariant -/

structure GoalsInv (env : MemoryEnv) (w : World) : Prop where
  kept : ∀ r ∈ w.live, r.tagged .fact = true ∧ r.isConfirmedProfile = true
  consistent : Consistent env goalPairs w

theorem GoalsInv.empty : GoalsInv env .empty :=
  ⟨fun _ hr => absurd hr List.not_mem_nil, consistent_empty⟩

theorem GoalsInv.sub {w w' : World} (h : GoalsInv env w)
    (hsub : ∀ r ∈ w'.live, r ∈ w.live) : GoalsInv env w' :=
  ⟨fun r hr => h.kept r (hsub r hr), h.consistent.sub hsub⟩

/-- A save keeps the invariant when no record is left that shows its value on the opposite shelf. -/
theorem GoalsInv.saveFact (slot : ProfileSlot) {relation value originalText sessionId : PyStr}
    {m : NewMemory}
    (hslot : ((profileSlots.find? fun row => self = row.1 && relation = row.2.1).map
      fun row => row.2.2) = some slot)
    (hrelation : relation ≠ py "comparative")
    (hm : m.type = .fact ∧ userProfile ∈ m.tags ∧
      ∃ extra, Extra extra ∧ m.metadata = v2Metadata self relation value originalText extra)
    {w : World} (h : GoalsInv env w)
    (hgoal : slot = .goal ∨ slot = .focus → env.fault w.made = none → NotNegated env value w)
    (hnegative : slot = .negativeGoal → env.fault w.made = none →
      ∀ r ∈ w.live, r.shown env ≠ some (.goals, env.valueKey value)) :
    GoalsInv env (trySave env sessionId m w).2 := by
  obtain ⟨hmtype, hmtags, extra, hextra, hmmd⟩ := hm
  refine ⟨?_, ?_⟩
  · refine forall_live_trySave h.kept fun r htype htag hmd => ?_
    exact isConfirmedProfile_fact (htype.trans hmtype) (by rw [htag]; exact hmtags)
      (v2Fact_reads hextra (hmd.trans hmmd)).2.2.1
  · refine h.consistent.save (by simp [goalPairs]) fun hfault x hx p hp k r hr => ?_
    obtain ⟨hxslot, hvalue, -, hcomparative⟩ := v2Fact_reads hextra (hx.trans hmmd)
    rw [hslot] at hxslot
    rw [List.mem_singleton.mp hp]
    constructor
    · intro hshown
      obtain ⟨hslot', hk, hread⟩ := shown_goals hshown
      rw [hxslot, Option.some.injEq, Option.some.injEq] at hslot'
      obtain ⟨hne, hclean⟩ := Bool.and_eq_true_iff.mp hread
      rw [hvalue, decide_eq_true_eq] at hne
      rw [hcomparative, decide_eq_false hrelation, Bool.false_or, hvalue, Bool.not_eq_true'] at hclean
      rw [hk, hvalue]
      exact hgoal hslot' hfault hne hclean r hr
    · intro hshown
      obtain ⟨hslot', hk, -⟩ := shown_negativeGoals hshown
      rw [hxslot, Option.some.injEq] at hslot'
      rw [hk, hvalue]
      exact hnegative hslot' hfault r hr

theorem GoalsInv.goal {relation value originalText sessionId : PyStr}
    (hrel : relation = py "goal" ∨ relation = py "goal_focus") {w : World} (h : GoalsInv env w)
    (hnegated : env.fault w.made = none → NotNegated env value w) :
    GoalsInv env (saveAutoProfileFact env
      { relation := relation, value := value, originalText := originalText } sessionId w).2 := by
  have hpref : isPreferenceRelation relation = false := by
    rcases hrel with rfl | rfl
    · simp [isPreferenceRelation]
    · simp [isPreferenceRelation]
  have hstored : AutoProfileCandidate.stored env
      { relation := relation, value := value, originalText := originalText } = value := by
    unfold AutoProfileCandidate.stored
    rw [hpref, if_neg Bool.false_ne_true]
  have hm := @autoProfileMemory_metadata env
    { relation := relation, value := value, originalText := originalText }
  rw [hstored] at hm
  have htype : (autoProfileMemory env
      { relation := relation, value := value, originalText := originalText }).type = .fact := by
    refine if_neg ?_
    rcases hrel with rfl | rfl
    · simp
    · simp
  unfold saveAutoProfileFact
  rw [if_neg (by rw [hpref]; exact Bool.false_ne_true)]
  rcases hrel with rfl | rfl
  · refine GoalsInv.saveFact .goal (slot_of_row 10 rfl) (by simp) ⟨htype, ?_, hm⟩ h (fun _ => hnegated)
      (by simp)
    exact List.mem_append_left _ List.mem_cons_self
  · refine GoalsInv.saveFact .focus (slot_of_row 15 rfl) (by simp) ⟨htype, ?_, hm⟩ h (fun _ => hnegated)
      (by simp)
    exact List.mem_append_left _ List.mem_cons_self

/-! ### the writes -/

theorem NotNegated.sub {value : PyStr} {w w' : World} (h : NotNegated env value w)
    (hsub : ∀ r ∈ w'.live, r ∈ w.live) : NotNegated env value w' :=
  fun hne hclean r hr => h hne hclean r (hsub r hr)

theorem GoalsInv.intention {value sessionId text : PyStr} {w : World} (h : GoalsInv env w)
    (hlimits : w.withinLimits) : GoalsInv env (saveIntentionGoalFact env value sessionId text w).2 := by
  have h1 : GoalsInv env (deleteProfileRecords env self (py "negative_goal") value w) :=
    h.sub fun r hr => live_deleteEach_sub.subset hr
  have hextra : Extra [] := fun _ hkv => absurd hkv List.not_mem_nil
  refine GoalsInv.saveFact .goal (slot_of_row 10 rfl) (show py "goal" ≠ py "comparative" by simp)
    ⟨rfl, List.mem_cons_self, [], hextra, rfl⟩ h1 ?_ (by simp)
  intro _ _ _ _ r hr hshown
  obtain ⟨hlive, hkeeps⟩ := mem_live_deleteProfileRecords hlimits hr
  obtain ⟨htagged, hprofile⟩ := h.kept r hlive
  obtain ⟨hslot, hk, -⟩ := shown_negativeGoals hshown
  exact hkeeps htagged (states_of_slot hprofile hslot) (Prod.mk.inj hk).2.symm

theorem GoalsInv.negative {value sessionId text : PyStr} {w : World} (h : GoalsInv env w)
    (hlimits : w.withinLimits) : GoalsInv env (saveNegativeGoalFact env value sessionId text w).2 := by
  let w1 := deleteProfileRecords env self (py "goal") value w
  have hsub1 : w1.live.Sublist w.live := live_deleteEach_sub
  have hlimits1 : w1.withinLimits := hlimits.sub hsub1
  have h2 : GoalsInv env (deleteProfileRecords env self (py "goal_focus") value w1) :=
    (h.sub fun r hr => hsub1.subset hr).sub fun r hr => live_deleteEach_sub.subset hr
  have hextra : Extra [] := fun _ hkv => absurd hkv List.not_mem_nil
  refine GoalsInv.saveFact .negativeGoal (slot_of_row 11 rfl)
    (show py "negative_goal" ≠ py "comparative" by simp)
    ⟨rfl, List.mem_cons_self, [], hextra, rfl⟩ h2 (by simp) ?_
  intro _ _ r hr hshown
  obtain ⟨hlive1, hfocus⟩ := mem_live_deleteProfileRecords hlimits1 hr
  obtain ⟨hlive, hgoal⟩ := mem_live_deleteProfileRecords hlimits hlive1
  obtain ⟨htagged, hprofile⟩ := h.kept r hlive
  obtain ⟨hslot, hk, -⟩ := shown_goals hshown
  have hkey : env.norm r.metadata.value = env.norm value := (Prod.mk.inj hk).2.symm
  rcases hslot with hslot | hslot
  · exact hgoal htagged (states_of_slot hprofile hslot) hkey
  · exact hfocus htagged (states_of_slot hprofile hslot) hkey

theorem live_deleteGoalFacts_sub {key : PyStr} {w : World} :
    (deleteGoalFacts env key w).2.live.Sublist w.live := live_deleteEach_sub

theorem live_applyRemoveGoal_sub {op : MemoryOperation} {w : World} :
    (applyRemoveGoal env op w).2.live.Sublist w.live := by
  have h1 := @live_deleteGoalFacts_sub env op.canonicalKey w
  unfold applyRemoveGoal
  generalize deleteGoalFacts env op.canonicalKey w = d1 at h1 ⊢
  obtain ⟨_ | removed, w1⟩ := d1
  · have h2 : (deleteOccupationFact env op.value w1).2.live.Sublist w1.live := live_deleteEach_sub
    dsimp only at h1 ⊢
    generalize deleteOccupationFact env op.value w1 = d2 at h2 ⊢
    obtain ⟨_ | removed, w2⟩ := d2
    · dsimp only at h2 ⊢
      split_ifs
      · exact h2.trans h1
      · exact h2.trans h1
    · exact h2.trans h1
  · exact h1

theorem live_applyRemoveOccupation_sub {op : MemoryOperation} {w : World} :
    (applyRemoveOccupation env op w).2.live.Sublist w.live := by
  have h1 : (deleteOccupationFact env op.value w).2.live.Sublist w.live := live_deleteEach_sub
  unfold applyRemoveOccupation
  generalize deleteOccupationFact env op.value w = d1 at h1 ⊢
  obtain ⟨_ | removed, w1⟩ := d1
  · have h2 := @live_deleteGoalFacts_sub env (goalConflictKey env.toUnicode op.value) w1
    dsimp only at h1 ⊢
    generalize deleteGoalFacts env (goalConflictKey env.toUnicode op.value) w1 = d2 at h2 ⊢
    obtain ⟨_ | removed, w2⟩ := d2
    · exact h2.trans h1
    · exact h2.trans h1
  · exact h1

theorem live_clearGoals_sub {op : MemoryOperation} {w : World} :
    (clearGoals env op w).live.Sublist w.live := by
  unfold clearGoals
  split_ifs
  · exact live_deleteEach_sub
  · exact live_deleteEach_sub

theorem GoalsInv.operation {op : MemoryOperation} (hdomain : op.domain = .goal) {sessionId : PyStr}
    {w : World} (h : GoalsInv env w)
    (hnegated : env.fault w.made = none → validateMemoryOperation env op = true →
      match op.op with
      | .add => goalAlreadyActive env op.value w = false → NotNegated env op.value w
      | .switch => goalAlreadyActive env op.value (clearGoals env op w) = false →
        NotNegated env op.value w
      | .updateCurrent => NotNegated env op.value w
      | _ => True) :
    GoalsInv env (applyMemoryOperation env op sessionId w).2 := by
  unfold applyMemoryOperation
  cases hv : validateMemoryOperation env op with
  | false => exact h
  | true =>
    rw [Bool.not_true, if_neg Bool.false_ne_true, hdomain]
    have hsave : ∀ {w1 : World} {outcome : MemoryOperationOutcome}, GoalsInv env w1 →
        (env.fault w1.made = none → NotNegated env op.value w1) →
        GoalsInv env (afterSave (saveGoal env op sessionId op.rawText w1) outcome).2 := by
      intro w1 outcome h1 hn
      rw [afterSave_snd]
      exact h1.goal (.inl rfl) hn
    generalize op.op = kind at hnegated ⊢
    cases kind with
    | remove => exact h.sub fun r hr => live_applyRemoveGoal_sub.subset hr
    | add =>
      show GoalsInv env (applyAddGoal env op sessionId w).2
      simp only [applyAddGoal]
      by_cases hactive : goalAlreadyActive env op.value w = true
      · rw [if_pos hactive]
        exact h
      · rw [if_neg hactive]
        exact hsave h fun hfault => hnegated hfault hv (Bool.eq_false_iff.mpr hactive)
    | switch =>
      have h1 : GoalsInv env (clearGoals env op w) := h.sub fun r hr => live_clearGoals_sub.subset hr
      have hmade : (clearGoals env op w).made = w.made := by
        unfold clearGoals
        split_ifs
        · exact World.made_deleteEach env _ _
        · exact World.made_deleteEach env _ _
      show GoalsInv env (applySwitchGoal env op sessionId w).2
      simp only [applySwitchGoal]
      by_cases hactive : goalAlreadyActive env op.value (clearGoals env op w) = true
      · rw [if_pos hactive]
        exact h1
      · rw [if_neg hactive]
        refine hsave h1 fun hfault => ?_
        rw [hmade] at hfault
        exact (hnegated hfault hv (Bool.eq_false_iff.mpr hactive)).sub
          fun r hr => live_clearGoals_sub.subset hr
    | updateCurrent =>
      show GoalsInv env (applyUpdateGoal env op sessionId w).2
      unfold applyUpdateGoal saveGoalFocus
      rw [afterSave_snd]
      have hsub : ∀ r ∈ (w.deleteEach env (·.concerns self (py "goal_focus")) (py "focus_superseded")
          (confirmedProfileFacts env w)).live, r ∈ w.live := fun r hr => live_deleteEach_sub.subset hr
      refine (h.sub hsub).goal (.inr rfl) fun hfault => ?_
      rw [World.made_deleteEach] at hfault
      exact (hnegated hfault hv).sub hsub
    | _ => exact h

theorem GoalsInv.step {t : Turn GoalWrite} {w : World} (h : GoalsInv env w)
    (hlimits : w.withinLimits) (hnegated : env.fault w.made = none → negatesNoGoal env t w) :
    GoalsInv env (t.writesGoal env w) := by
  obtain ⟨sessionId, text, write⟩ := t
  cases write with
  | operation op => exact h.operation rfl hnegated
  | batchAdd op =>
    show GoalsInv env (batchAddGoal env op sessionId text w)
    unfold batchAddGoal
    cases hv : validateMemoryOperation env op with
    | false => exact h
    | true =>
      rw [Bool.not_true, if_neg Bool.false_ne_true]
      by_cases hactive : goalAlreadyActive env op.value w = true
      · rw [if_pos hactive]
        exact h
      · rw [if_neg hactive]
        exact h.goal (.inl rfl) fun hfault => hnegated hfault hv (Bool.eq_false_iff.mpr hactive)
  | batchRemove op =>
    show GoalsInv env (batchRemoveGoal env op w)
    unfold batchRemoveGoal
    cases hv : validateMemoryOperation env op with
    | false => exact h
    | true => exact h.sub fun r hr => live_deleteGoalFacts_sub.subset hr
  | stopsWork op =>
    refine h.sub fun r hr => ?_
    change r ∈ (applyMemoryOperation env { op with op := .remove, domain := .occupation } sessionId w).2.live
      at hr
    unfold applyMemoryOperation at hr
    split_ifs at hr
    · exact hr
    · exact live_applyRemoveOccupation_sub.subset hr
  | autoSave value => exact h.goal (.inl rfl) hnegated
  | intention value => exact h.intention hlimits
  | negative value => exact h.negative hlimits

/-- In a run within the search limits in which no write saves a goal that the profile negates, no
state has a value among both the goals and the negated ones. -/
theorem goals_apart_of_run {w : World}
    (h : Reachable (fun t => Turn.writesGoal env t)
      (fun t w => w.withinLimits ∧ (env.fault w.made = none → negatesNoGoal env t w)) .empty w) :
    Apart env (collectProfileSnapshot env w).goals (collectProfileSnapshot env w).negativeGoals := by
  have hinv : GoalsInv env w :=
    h.invariant GoalsInv.empty fun t w hok hw => hw.step hok.1 hok.2
  refine apart_of_keys fun k hk => ?_
  exact hinv.consistent.not_mem_keys (p := (.goals, .negativeGoals)) (by simp [goalPairs]) hk

end

/-! ### a focus on a negated goal -/

def leaves (value : PyStr) : Turn GoalWrite := ⟨py "s", [], .negative value⟩

def focusesPython : Turn GoalWrite := ⟨py "s", [], .operation (focusOn (py "python"))⟩

def negatedGoal (value : PyStr) : NewMemory where
  content := py "bạn không còn muốn/định " ++ value
  type := .fact
  tags := [userProfile, self, py "goal"]
  importance := weight08
  confidence := weight095
  source := .user
  metadata := v2Metadata self (py "negative_goal") value [] []
  texts := profileMetadata_texts _ _

def focusedPython : NewMemory :=
  autoProfileMemory plainEnv
    { relation := py "goal_focus", value := py "python", originalText := [] }

theorem leaves_run (value : PyStr) :
    (leaves value).writesGoal plainEnv .empty = (trySave plainEnv (py "s") (negatedGoal value) .empty).2 := by
  have hnone : ∀ relation, deleteProfileRecords plainEnv self relation value .empty = .empty := by
    intro relation
    unfold deleteProfileRecords
    rw [profileRecords_empty]
    rfl
  show (saveNegativeGoalFact plainEnv value (py "s") [] .empty).2 = _
  unfold saveNegativeGoalFact
  rw [hnone, hnone]
  rfl

theorem writesGoal_operation (env : MemoryEnv) (sessionId text : PyStr) (op : MemoryOperation) (w : World) :
    Turn.writesGoal env ⟨sessionId, text, .operation op⟩ w =
      (applyMemoryOperation env { op with domain := .goal } sessionId w).2 := rfl

theorem focusesPython_apply (w : World) :
    focusesPython.writesGoal plainEnv w = (applyUpdateGoal plainEnv (focusOn (py "python")) (py "s") w).2 := by
  have happly := @applyMemoryOperation_focus plainEnv (focusOn (py "python")) (py "s") w
    (validate_python rfl) rfl rfl
  unfold focusesPython
  rw [writesGoal_operation]
  exact congrArg Prod.snd happly

theorem focusesPython_run (left : PyStr) :
    focusesPython.writesGoal plainEnv ((leaves left).writesGoal plainEnv .empty) =
      (trySave plainEnv (py "s") focusedPython ((leaves left).writesGoal plainEnv .empty)).2 := by
  have hnone : ((leaves left).writesGoal plainEnv .empty).deleteEach plainEnv
      (·.concerns self (py "goal_focus")) (py "focus_superseded")
      (confirmedProfileFacts plainEnv ((leaves left).writesGoal plainEnv .empty)) =
      (leaves left).writesGoal plainEnv .empty := by
    refine deleteEach_of_none (List.any_eq_false.mpr fun r hr => ?_) _
    have hlive := mem_live_of_confirmedProfileFacts plainEnv r hr
    rw [leaves_run] at hlive
    rcases mem_live_trySave hlive with hempty | ⟨-, -, hmd⟩
    · exact absurd hempty List.not_mem_nil
    · have hrelation := (v2Fact_reads (fun _ h => absurd h List.not_mem_nil) hmd).2.2.2 (py "goal_focus")
      rw [MemoryRecord.concerns, hrelation]
      simp
  rw [focusesPython_apply]
  unfold applyUpdateGoal saveGoalFocus saveAutoProfileFact
  rw [hnone, afterSave_snd,
    if_neg (show ¬ isPreferenceRelation (py "goal_focus") = true by simp [isPreferenceRelation])]
  rfl

theorem leaves_focusesPython (left : PyStr) : ∃ r₁ r₂ : MemoryRecord,
    ((leaves left).writesGoal plainEnv .empty).live = [r₁] ∧
    (focusesPython.writesGoal plainEnv ((leaves left).writesGoal plainEnv .empty)).live = [r₁, r₂] ∧
    (r₁.type = (negatedGoal left).type ∧ r₁.tags = (negatedGoal left).tags ∧
      r₁.metadata = (negatedGoal left).metadata) ∧
    (r₂.type = focusedPython.type ∧ r₂.tags = focusedPython.tags ∧
      r₂.metadata = focusedPython.metadata) :=
  two_saves (strip_append_ne_nil (c := 'b') (by simp) rfl) (autoProfileMemory_content plainEnv _)
    (leaves_run left) (focusesPython_run left)

/-- The focus moves from a goal that is negated to another one. -/
def movesOn : World := focusesPython.writesGoal plainEnv ((leaves (py "rust")).writesGoal plainEnv .empty)

theorem goals_apart_movesOn :
    movesOn.live.map (·.slot?) = [some .negativeGoal, some .focus] ∧
      Apart plainEnv (collectProfileSnapshot plainEnv movesOn).goals
        (collectProfileSnapshot plainEnv movesOn).negativeGoals := by
  obtain ⟨r₁, r₂, hlive₁, hlive₂, ⟨-, -, hmd₁⟩, -, -, hmd₂⟩ := leaves_focusesPython (py "rust")
  obtain ⟨hslot₁, hvalue₁, -⟩ := v2Fact_reads (fun _ h => absurd h List.not_mem_nil) hmd₁
  obtain ⟨extra, hextra, hmd⟩ := @autoProfileMemory_metadata plainEnv
    { relation := py "goal_focus", value := py "python", originalText := [] }
  have hslot₂ := (v2Fact_reads hextra (hmd₂.trans hmd)).1
  rw [slot_of_row 11 rfl] at hslot₁
  rw [slot_of_row 15 rfl] at hslot₂
  refine ⟨?_, goals_apart_of_run ((Reachable.start.next ⟨⟨Nat.zero_le _, Nat.zero_le _⟩,
    fun _ => trivial⟩).next ⟨withinLimits_of_length (by rw [hlive₁]; simp), ?_⟩)⟩
  · show List.map _ (focusesPython.writesGoal plainEnv _).live = _
    rw [hlive₂, List.map_cons, List.map_singleton, hslot₁, hslot₂]
  · -- the negated goal is another one
    intro _ _ _ _ r hr hshown
    rw [hlive₁, List.mem_singleton] at hr
    rw [hr] at hshown
    have hkey := (Prod.mk.inj (shown_negativeGoals hshown).2.1).2
    rw [hvalue₁] at hkey
    have hrust : IsWord (py "rust") := isWord_py (by simp) (by simp; decide)
    change normCmp plainEnv.toUnicode (py "python") = normCmp plainEnv.toUnicode (py "rust") at hkey
    rw [normCmp_word _ isWord_python, normCmp_word _ hrust,
      plainEnv.toUnicode.lower_py (s := "python") (by simp),
      plainEnv.toUnicode.lower_py (s := "rust") (by simp)] at hkey
    simp at hkey

theorem isDirtyValue_python : isDirtyValue plainEnv.toUnicode (py "python") = false := by
  have hlower : plainEnv.toUnicode.lower (py "python") = py "python" := plainEnv.toUnicode.lower_py (by simp)
  refine isDirtyValue_word plainEnv.toUnicode isWord_python ?_ ?_ (by simp)
  · rw [hlower, mem_py]
    simp
  · rw [hlower]
    simp [dirtyValueQuestionTails]

/-- A focus on a goal is stored beside the negation of the goal. -/
theorem not_goals_apart :
    ¬ ∀ w, Reachable (fun t => Turn.writesGoal plainEnv t) (fun _ w => w.withinLimits) .empty w →
      Apart plainEnv (collectProfileSnapshot plainEnv w).goals
        (collectProfileSnapshot plainEnv w).negativeGoals := by
  intro h
  obtain ⟨r₁, r₂, hlive₁, hlive₂, ⟨htype₁, htags₁, hmd₁⟩, htype₂, htags₂, hmd₂⟩ :=
    leaves_focusesPython (py "python")
  have hlimits₁ := withinLimits_of_length (w := (leaves (py "python")).writesGoal plainEnv .empty)
    (by rw [hlive₁]; simp)
  have hlimits₂ := withinLimits_of_length
    (w := focusesPython.writesGoal plainEnv ((leaves (py "python")).writesGoal plainEnv .empty))
    (by rw [hlive₂]; simp)
  have hreach : Reachable (fun t => Turn.writesGoal plainEnv t) (fun _ w => w.withinLimits) .empty
      (focusesPython.writesGoal plainEnv ((leaves (py "python")).writesGoal plainEnv .empty)) :=
    (Reachable.start.next ⟨Nat.zero_le _, Nat.zero_le _⟩).next hlimits₁
  have hextra : Extra [] := fun _ hkv => absurd hkv List.not_mem_nil
  refine not_apart_of_keys (k := plainEnv.valueKey (py "python")) ?_ ?_ (h _ hreach)
  · obtain ⟨extra, hextra₂, hmd⟩ := @autoProfileMemory_metadata plainEnv
      { relation := py "goal_focus", value := py "python", originalText := [] }
    have hstored : AutoProfileCandidate.stored plainEnv
        { relation := py "goal_focus", value := py "python", originalText := [] } = py "python" :=
      if_neg (by simp [isPreferenceRelation])
    rw [hstored] at hmd
    refine (mem_keys_within hlimits₂ (s := .goals)).mpr ⟨r₂, ?_, ?_, ?_⟩
    · rw [hlive₂]
      simp
    · have hfact : focusedPython.type = .fact := by
        simp [focusedPython, autoProfileMemory]
      refine (isConfirmedProfile_fact (htype₂.trans hfact) ?_
        (v2Fact_reads hextra₂ (hmd₂.trans hmd)).2.2.1).2
      rw [htags₂]
      exact List.mem_append_left _ List.mem_cons_self
    · rw [shown_v2 plainEnv (hmd₂.trans hmd) hextra₂, if_pos ⟨isWord_python.1, .inr isDirtyValue_python⟩,
        slot_of_row 15 rfl]
      simp [slotEntry]
  · refine (mem_keys_within hlimits₂ (s := .negativeGoals)).mpr ⟨r₁, ?_, ?_, ?_⟩
    · rw [hlive₂]
      simp
    · refine (isConfirmedProfile_fact htype₁ ?_ (v2Fact_reads hextra hmd₁).2.2.1).2
      rw [htags₁]
      exact List.mem_cons_self
    · rw [shown_v2 plainEnv hmd₁ hextra, if_pos ⟨isWord_python.1, .inr isDirtyValue_python⟩,
        slot_of_row 11 rfl]
      simp [slotEntry]

end Tomtit
