import TomtitAgent.Planning.IntentPlanner
import TomtitAgent.Python.SmallRuntime

/-!
# Plans and the registry they are made for

The catalog looks at the registry for the intents that have a skill.  The other intents are planned by
`IntentPlanner`, which does not: their tool is `directTool`.

* `Drafted`   a plan with ids of its own, no dependencies and the arguments of its tools: valid exactly
              when none of its tools is disabled;
* `fallback_drafted`, `skill_drafted`   the plans of `IntentPlanner` and of the built-in skills are drafted;
* `PlanAgrees`   planner and validator agree on an utterance;
* `planAgrees_iff`   they do, except for an intent whose direct tool is disabled.
-/

open Py

namespace Tomtit

/-! ### what a plan needs -/

/-- The tool of an intent that `IntentPlanner` plans by itself. -/
def directTool : IntentName → Option ToolName
  | .calculate => some .calculate
  | .readNote => some .readNote
  | .writeNote => some .writeNote
  | .projectContextQuery => some .answerFromContext
  | _ => none

/-- The tools that the plan of an intent needs: those of its skill, or its direct tool. -/
def neededTools (intent : IntentName) : List ToolName :=
  match skillOf intent with
  | some spec => spec.requiredTools
  | none => (directTool intent).toList

/-- The plan for the utterance is valid for the registry without the disabled tools; where it would need
one of these, it is a single answer. -/
def PlanAgrees {μ : Type} (rt : Runtime) (tb : ReTables) (invalid : Dict PyStr Value → PyStr)
    (fn : ToolName → ToolFn μ) (newId : Nat → PyStr) (disabled : List ToolName) (goal : PyStr) : Prop :=
  ∃ tools plan, buildToolRegistry invalid fn disabled = .ok tools ∧
    RuleBasedPlanner.makePlan newId tb tools.keys goal = .ok plan ∧
    validatePlan rt plan tools = .ok () ∧
    (SlotsFilled (IntentParser.parse tb goal) →
      (∃ t ∈ neededTools (IntentParser.parse tb goal).intent, t ∈ disabled) →
      ∃ step, plan = [step] ∧ step.action = .finish)

def Ungated (disabled : List ToolName) (p : ParsedIntent) : Prop :=
  SlotsFilled p ∧ ∃ t, directTool p.intent = some t ∧ t ∈ disabled

/-! ### drafted plans -/

structure Drafted (newId : Nat → PyStr) (plan : List Step) : Prop where
  nonempty : plan ≠ []
  ids : plan.map Step.id = (List.range plan.length).map newId
  free : ∀ step ∈ plan, step.dependsOn = []
  args : ∀ step ∈ plan, (∀ a ∈ requiredArgs step.action, a ∈ step.args.keys) ∧
    ∀ a ∈ step.args.keys, a ∈ allowedArgs step.action

theorem Drafted.valid_iff {newId : Nat → PyStr} {plan : List Step} (h : Drafted newId plan)
    (hnew : Function.Injective newId) {rt : Runtime} {μ : Type} {invalid : Dict PyStr Value → PyStr}
    {fn : ToolName → ToolFn μ} {disabled : List ToolName} {tools : ToolRegistry μ}
    (htools : ∀ t, tools.get? t = if t ∈ disabled then none else some (builtinToolSpec invalid fn t)) :
    validatePlan rt plan tools = .ok () ↔ ∀ step ∈ plan, step.action ∉ disabled := by
  unfold validatePlan
  rw [if_neg h.nonempty, validateSteps_eq_ok h.free]
  constructor
  · rintro ⟨-, -, havailable⟩ step hstep hdisabled
    obtain ⟨spec, hspec, -⟩ := havailable step hstep
    rw [htools, if_pos hdisabled] at hspec
    exact absurd hspec (by simp)
  · intro henabled
    refine ⟨?_, fun _ _ => List.not_mem_nil, fun step hstep => ?_⟩
    · rw [h.ids]
      exact (List.nodup_range).map hnew
    · refine ⟨builtinToolSpec invalid fn step.action, ?_, h.args step hstep⟩
      rw [htools, if_neg (henabled step hstep)]

section
variable {newId : Nat → PyStr}

theorem mem_keys_newStep {n : Nat} {thought : PyStr} {action : ToolName} {args : List (PyStr × PyVal)}
    {a : PyStr} : a ∈ (newStep newId n thought action args).args.keys ↔ a ∈ args.map Prod.fst := by
  refine Dict.mem_keys_ofItems.trans ?_
  rw [List.map_map]
  exact Iff.rfl

theorem newStep_args {n : Nat} {thought : PyStr} {action : ToolName} {args : List (PyStr × PyVal)}
    (h : args.map Prod.fst = allowedArgs action) :
    (∀ a ∈ requiredArgs action, a ∈ (newStep newId n thought action args).args.keys) ∧
      ∀ a ∈ (newStep newId n thought action args).args.keys, a ∈ allowedArgs action := by
  have hsub : ∀ a ∈ requiredArgs action, a ∈ allowedArgs action := by
    cases action <;> simp [requiredArgs, allowedArgs]
  constructor
  · intro a ha
    rw [mem_keys_newStep, h]
    exact hsub a ha
  · intro a ha
    rw [mem_keys_newStep, h] at ha
    exact ha

theorem answerPlan_drafted (thought answer : PyStr) : Drafted newId (answerPlan newId thought answer) where
  nonempty := List.cons_ne_nil _ _
  ids := rfl
  free step h := by rw [List.mem_singleton.mp h]; rfl
  args step h := by rw [List.mem_singleton.mp h]; exact newStep_args rfl

theorem pair_drafted {thought thought' : PyStr} {action : ToolName} {args : List (PyStr × PyVal)}
    {answer : PyVal} (h : args.map Prod.fst = allowedArgs action) :
    Drafted newId [newStep newId 0 thought action args,
      newStep newId 1 thought' .finish [(py "answer", answer)]] where
  nonempty := List.cons_ne_nil _ _
  ids := rfl
  free step hstep := by
    rcases List.mem_pair.mp hstep with rfl | rfl
    · rfl
    · rfl
  args step hstep := by
    rcases List.mem_pair.mp hstep with rfl | rfl
    · exact newStep_args h
    · exact newStep_args rfl

theorem triple_drafted {thought thought' thought'' : PyStr} {action action' : ToolName}
    {args args' : List (PyStr × PyVal)} {answer : PyVal} (h : args.map Prod.fst = allowedArgs action)
    (h' : args'.map Prod.fst = allowedArgs action') :
    Drafted newId [newStep newId 0 thought action args, newStep newId 1 thought' action' args',
      newStep newId 2 thought'' .finish [(py "answer", answer)]] where
  nonempty := List.cons_ne_nil _ _
  ids := rfl
  free step hstep := by
    rcases List.mem_cons.mp hstep with rfl | hstep
    · rfl
    · rcases List.mem_pair.mp hstep with rfl | rfl
      · rfl
      · rfl
  args step hstep := by
    rcases List.mem_cons.mp hstep with rfl | hstep
    · exact newStep_args h
    · rcases List.mem_pair.mp hstep with rfl | rfl
      · exact newStep_args h'
      · exact newStep_args rfl

variable (newId) in
/-- What the fallback plans uses the direct tool of the intent, and no other tool than `finish`. -/
theorem fallback_drafted (p : ParsedIntent) : Drafted newId (IntentPlanner.makePlan newId p) ∧
    (IntentPlanner.makePlan newId p).map Step.action =
      (if p.missingSlots ≠ [] then [] else (directTool p.intent).toList) ++ [.finish] := by
  unfold IntentPlanner.makePlan
  by_cases h : p.missingSlots ≠ []
  · rw [if_pos h, if_pos h]
    exact ⟨answerPlan_drafted _ _, rfl⟩
  · rw [if_neg h, if_neg h]
    cases p.intent with
    | calculate => exact ⟨pair_drafted rfl, rfl⟩
    | readNote => exact ⟨pair_drafted rfl, rfl⟩
    | writeNote => exact ⟨pair_drafted rfl, rfl⟩
    | projectContextQuery => exact ⟨pair_drafted rfl, rfl⟩
    | _ => exact ⟨answerPlan_drafted _ _, rfl⟩

variable (newId) in
/-- The plan of a built-in skill passes the check of the planner and uses each of its tools once. -/
theorem skill_drafted {spec : SkillSpec} (h : spec ∈ builtinSkillSpecs) (p : ParsedIntent) :
    ∃ steps, spec.planFactory newId (SkillAwareIntentPlanner.extractInputs spec p) = .ok steps ∧
      SkillAwareIntentPlanner.validateSkillPlan spec steps = .ok () ∧ Drafted newId steps ∧
      steps.map Step.action = spec.requiredTools := by
  have hinput : ∀ (names : List PyStr) (name : PyStr), name ∈ names → ∃ value,
      skillInput (Dict.ofItems (names.map fun name => (name, p.slot name))) name = .ok value := by
    intro names name hname
    unfold skillInput
    cases hget : (Dict.ofItems (names.map fun name => (name, p.slot name))).get? name with
    | some value => exact ⟨value, rfl⟩
    | none =>
      refine absurd ?_ (Dict.get?_eq_none.mp hget)
      rw [Dict.mem_keys_ofItems, List.map_map]
      exact List.mem_map.mpr ⟨name, hname, rfl⟩
  simp only [builtinSkillSpecs, List.mem_cons, List.not_mem_nil, or_false] at h
  rcases h with rfl | rfl | rfl
  · obtain ⟨expression, hexpression⟩ := hinput [py "expression", py "note_name"] (py "expression") (by simp)
    obtain ⟨noteName, hnoteName⟩ := hinput [py "expression", py "note_name"] (py "note_name") (by simp)
    refine ⟨calculateAndSaveSteps newId expression noteName, ?_, rfl, triple_drafted rfl rfl, rfl⟩
    exact bind_eq_ok.mpr ⟨expression, hexpression, bind_eq_ok.mpr ⟨noteName, hnoteName, rfl⟩⟩
  · obtain ⟨noteName, hnoteName⟩ := hinput [py "note_name"] (py "note_name") (by simp)
    refine ⟨readAndSummarizeSteps newId noteName, ?_, rfl, triple_drafted rfl rfl, rfl⟩
    exact bind_eq_ok.mpr ⟨noteName, hnoteName, rfl⟩
  · obtain ⟨query, hquery⟩ := hinput [py "query"] (py "query") (by simp)
    refine ⟨webSearchSteps newId query 3, ?_, rfl, pair_drafted rfl, rfl⟩
    exact bind_eq_ok.mpr ⟨query, hquery, rfl⟩

/-! ### the plan of an utterance -/

theorem directTool_of_skill {intent : IntentName} {spec : SkillSpec} (h : skillOf intent = some spec) :
    directTool intent = none := by
  cases intent <;> first | rfl | exact absurd h (by simp [skillOf, builtinSkillSpecs, calculateAndSaveSkill,
    readAndSummarizeSkill, webSearchSkill])

def plannedActions (available : List ToolName) (p : ParsedIntent) : List ToolName :=
  if p.missingSlots ≠ [] then [.finish]
  else match skillOf p.intent with
    | some spec => if SkillCatalog.missingTools available spec = [] then spec.requiredTools else [.finish]
    | none => (directTool p.intent).toList ++ [.finish]

variable (newId) in
theorem skillAware_drafted {available : List ToolName} {catalog : SkillCatalog}
    (hactive : ∀ intent, catalog.activeForIntent intent =
      (skillOf intent).filter fun spec => SkillCatalog.missingTools available spec = [])
    (hunavailable : ∀ intent, catalog.unavailableForIntent intent =
      ((skillOf intent).filter fun spec => SkillCatalog.missingTools available spec ≠ []).map
        (SkillCatalog.disabledOf available)) (p : ParsedIntent) :
    ∃ plan, SkillAwareIntentPlanner.makePlan newId catalog p = .ok plan ∧ Drafted newId plan ∧
      plan.map Step.action = plannedActions available p := by
  obtain ⟨hdrafted, hactions⟩ := fallback_drafted newId p
  unfold SkillAwareIntentPlanner.makePlan plannedActions
  by_cases hslots : p.missingSlots ≠ []
  · rw [if_pos hslots] at hactions ⊢
    rw [if_pos hslots]
    exact ⟨_, rfl, hdrafted, hactions⟩
  · rw [if_neg hslots] at hactions ⊢
    rw [if_neg hslots, hactive, hunavailable]
    cases hskill : skillOf p.intent with
    | none => exact ⟨_, rfl, hdrafted, hactions⟩
    | some spec =>
      by_cases hmissing : SkillCatalog.missingTools available spec = []
      · have hserved : (some spec).filter (fun spec => SkillCatalog.missingTools available spec = []) =
            some spec := Option.filter_some_pos (decide_eq_true hmissing)
        rw [hserved]
        obtain ⟨steps, hsteps, hvalid, hsteps', hused⟩ :=
          skill_drafted newId (List.mem_of_find?_eq_some hskill) p
        refine ⟨steps, ?_, hsteps', hused.trans (if_pos hmissing).symm⟩
        exact bind_eq_ok.mpr ⟨steps, hsteps, bind_eq_ok.mpr ⟨(), hvalid, rfl⟩⟩
      · have hserved : (some spec).filter (fun spec => SkillCatalog.missingTools available spec = []) =
            none := Option.filter_some_neg (decide_eq_false hmissing)
        have hmarked : (some spec).filter (fun spec => SkillCatalog.missingTools available spec ≠ []) =
            some spec := Option.filter_some_pos (decide_eq_true hmissing)
        rw [hserved, hmarked]
        exact ⟨_, rfl, answerPlan_drafted _ _, (if_neg hmissing).symm⟩

variable (newId) in
theorem makePlan_drafted (tb : ReTables) (available : List ToolName) (goal : PyStr) :
    ∃ plan, RuleBasedPlanner.makePlan newId tb available goal = .ok plan ∧ Drafted newId plan ∧
      plan.map Step.action = plannedActions available (SlotValidator.validate (IntentParser.parse tb goal)) := by
  obtain ⟨catalog, hcatalog, hactive, hunavailable⟩ := builtinCatalog_ok available
  obtain ⟨plan, hplan, h⟩ := skillAware_drafted newId hactive hunavailable
    (SlotValidator.validate (IntentParser.parse tb goal))
  exact ⟨plan, bind_eq_ok.mpr ⟨catalog, hcatalog, hplan⟩, h⟩

theorem makePlan_fallback {tb : ReTables} (available : List ToolName) {goal : PyStr}
    (hskill : skillOf (IntentParser.parse tb goal).intent = none) :
    RuleBasedPlanner.makePlan newId tb available goal =
      .ok (IntentPlanner.makePlan newId (SlotValidator.validate (IntentParser.parse tb goal))) := by
  obtain ⟨catalog, hcatalog, hactive, hunavailable⟩ := builtinCatalog_ok available
  refine bind_eq_ok.mpr ⟨catalog, hcatalog, ?_⟩
  unfold SkillAwareIntentPlanner.makePlan
  rw [hactive, hunavailable, SlotValidator.validate_intent, hskill]
  exact ite_self _

end

theorem plannedActions_disabled {available disabled : List ToolName} {p : ParsedIntent}
    (hfinish : ToolName.finish ∉ disabled) (havailable : ∀ t, t ∈ available ↔ t ∉ disabled) :
    (∃ t ∈ plannedActions available (SlotValidator.validate p), t ∈ disabled) ↔ Ungated disabled p := by
  have hanswer : (∃ t ∈ [ToolName.finish], t ∈ disabled) ↔ False := by
    refine iff_of_false (fun ⟨t, ht, hd⟩ => ?_) id
    rw [List.mem_singleton.mp ht] at hd
    exact hfinish hd
  unfold plannedActions Ungated
  rw [← validate_missingSlots_eq_nil]
  by_cases hslots : (SlotValidator.validate p).missingSlots = []
  · rw [if_neg (not_not.mpr hslots), and_iff_right hslots]
    rw [SlotValidator.validate_intent]
    cases hskill : skillOf p.intent with
    | some spec =>
      rw [directTool_of_skill hskill]
      refine iff_of_false (fun ⟨t, ht, hd⟩ => ?_) (fun ⟨t, ht, _⟩ => absurd ht (by simp))
      dsimp only at ht
      split at ht
      · next hmissing => exact (havailable t).mp (missingTools_eq_nil.mp hmissing t ht) hd
      · exact hanswer.mp ⟨t, ht, hd⟩
    | none =>
      dsimp only
      constructor
      · rintro ⟨t, ht, hd⟩
        rcases List.mem_append.mp ht with ht | ht
        · exact ⟨t, Option.mem_toList.mp ht, hd⟩
        · exact absurd ⟨t, ht, hd⟩ (not_exists.mpr fun _ h => hanswer.mp ⟨_, h⟩)
      · rintro ⟨t, ht, hd⟩
        exact ⟨t, List.mem_append_left _ (Option.mem_toList.mpr ht), hd⟩
  · rw [if_pos hslots, hanswer]
    exact iff_of_false id fun h => hslots h.1

theorem plannedActions_answer {available disabled : List ToolName} {p : ParsedIntent}
    (havailable : ∀ t, t ∈ available ↔ t ∉ disabled) (hcomplete : SlotsFilled p)
    (hneeded : ∃ t ∈ neededTools p.intent, t ∈ disabled) (hgated : ¬ Ungated disabled p) :
    plannedActions available (SlotValidator.validate p) = [.finish] := by
  obtain ⟨t, ht, hd⟩ := hneeded
  unfold plannedActions
  rw [if_neg (not_not.mpr (validate_missingSlots_eq_nil.mpr hcomplete)), SlotValidator.validate_intent]
  unfold neededTools at ht
  cases hskill : skillOf p.intent with
  | some spec =>
    rw [hskill] at ht
    refine if_neg fun hmissing => ?_
    exact (havailable t).mp (missingTools_eq_nil.mp hmissing t ht) hd
  | none =>
    rw [hskill] at ht
    exact absurd ⟨hcomplete, t, Option.mem_toList.mp ht, hd⟩ hgated

theorem makePlan_valid_iff {μ : Type} (rt : Runtime) (tb : ReTables) (invalid : Dict PyStr Value → PyStr)
    (fn : ToolName → ToolFn μ) {newId : Nat → PyStr} (hnew : Function.Injective newId)
    {disabled : List ToolName} (hfinish : ToolName.finish ∉ disabled) (goal : PyStr) :
    ∃ tools plan, buildToolRegistry invalid fn disabled = .ok tools ∧
      RuleBasedPlanner.makePlan newId tb tools.keys goal = .ok plan ∧
      (validatePlan rt plan tools = .ok () ↔ ¬ Ungated disabled (IntentParser.parse tb goal)) ∧
      plan.map Step.action = plannedActions tools.keys (SlotValidator.validate (IntentParser.parse tb goal)) ∧
      ∀ t, t ∈ tools.keys ↔ t ∉ disabled := by
  obtain ⟨tools, htools, hget⟩ := buildToolRegistry_ok invalid fn disabled
  have havailable : ∀ t, t ∈ tools.keys ↔ t ∉ disabled := fun t => mem_registry invalid fn hget
  obtain ⟨plan, hplan, hdrafted, hactions⟩ := makePlan_drafted newId tb tools.keys goal
  refine ⟨tools, plan, htools, hplan, ?_, hactions, havailable⟩
  rw [hdrafted.valid_iff hnew hget, ← plannedActions_disabled hfinish havailable, ← hactions]
  constructor
  · rintro h ⟨t, ht, hd⟩
    obtain ⟨step, hstep, rfl⟩ := List.mem_map.mp ht
    exact h step hstep hd
  · exact fun h step hstep hd => h ⟨_, List.mem_map_of_mem hstep, hd⟩

theorem not_planAgrees {μ : Type} {rt : Runtime} {tb : ReTables} {invalid : Dict PyStr Value → PyStr}
    {fn : ToolName → ToolFn μ} {newId : Nat → PyStr} (hnew : Function.Injective newId)
    {disabled : List ToolName} (hfinish : ToolName.finish ∉ disabled) {goal : PyStr}
    (h : Ungated disabled (IntentParser.parse tb goal)) : ¬ PlanAgrees rt tb invalid fn newId disabled goal := by
  obtain ⟨tools, plan, htools, hplan, hvalid, -⟩ := makePlan_valid_iff rt tb invalid fn hnew hfinish goal
  rintro ⟨tools', plan', htools', hplan', hok, -⟩
  rw [htools] at htools'
  cases Except.ok.inj htools'
  rw [hplan] at hplan'
  cases Except.ok.inj hplan'
  exact hvalid.mp hok h

/-- Planner and validator agree on an utterance, unless its intent is complete and its direct tool is
disabled. -/
theorem planAgrees_iff {μ : Type} (rt : Runtime) (tb : ReTables) (invalid : Dict PyStr Value → PyStr)
    (fn : ToolName → ToolFn μ) {newId : Nat → PyStr} (hnew : Function.Injective newId)
    {disabled : List ToolName} (hfinish : ToolName.finish ∉ disabled) (goal : PyStr) :
    PlanAgrees rt tb invalid fn newId disabled goal ↔ ¬ Ungated disabled (IntentParser.parse tb goal) := by
  constructor
  · exact fun h hgated => not_planAgrees hnew hfinish hgated h
  · intro hgated
    obtain ⟨tools, plan, htools, hplan, hvalid, hactions, havailable⟩ :=
      makePlan_valid_iff rt tb invalid fn hnew hfinish goal
    refine ⟨tools, plan, htools, hplan, hvalid.mpr hgated, fun hcomplete hneeded => ?_⟩
    rw [plannedActions_answer havailable hcomplete hneeded hgated] at hactions
    obtain ⟨step, hstep, haction⟩ := List.map_eq_singleton_iff.mp hactions
    exact ⟨step, hstep, haction⟩

/-! ### an utterance that the registry of the remote memory cannot serve -/

def idleTools : ToolName → ToolFn Unit := fun _ _ s => (.ok (.other (py "NoneType")), s.workspace)

def countedIds (n : Nat) : PyStr := List.replicate (n + 1) 120

theorem countedIds_injective : Function.Injective countedIds := by
  intro m n h
  have hlen := congrArg List.length h
  unfold countedIds at hlen
  rw [List.length_replicate, List.length_replicate] at hlen
  omega

/-- Where the remote memory disables the tool of a skill, the utterance has a valid plan, the answer. -/
theorem planAgrees_summary :
    (SlotsFilled (IntentParser.parse IntentParser.plainTables (py "Đọc ghi chú a rồi tóm tắt")) ∧
      ∃ t ∈ neededTools (IntentParser.parse IntentParser.plainTables (py "Đọc ghi chú a rồi tóm tắt")).intent,
        t ∈ localDurableTools) ∧
    PlanAgrees (small 4300) IntentParser.plainTables (fun _ => []) idleTools countedIds localDurableTools
      (py "Đọc ghi chú a rồi tóm tắt") := by
  obtain ⟨hintent, hname, hmissing⟩ := IntentParser.parseReadNote_summary
  rw [← IntentParser.parse_summary] at hintent hname hmissing
  refine ⟨⟨⟨hmissing, fun slot hslot => ⟨py "a", ?_, ?_⟩⟩, .readNote, ?_, by decide⟩,
    (planAgrees_iff (small 4300) IntentParser.plainTables (fun _ => []) idleTools countedIds_injective
      (by decide) (py "Đọc ghi chú a rồi tóm tắt")).mpr ?_⟩
  · rw [hintent] at hslot
    rw [List.mem_singleton.mp hslot]
    unfold ParsedIntent.slot
    rw [if_neg (by simp), if_pos rfl]
    exact hname
  · rw [py_ofList]
    decide
  · rw [hintent]
    decide
  · rintro ⟨-, t, htool, -⟩
    rw [hintent] at htool
    exact absurd htool (by simp [directTool])

/-- The utterance without a skill has none: its plan reads the note. -/
theorem planAgrees_fails_readNote : ¬ PlanAgrees (small 4300) IntentParser.plainTables (fun _ => []) idleTools countedIds
    localDurableTools (py "Đọc ghi chú a") := by
  refine not_planAgrees countedIds_injective (by decide) ?_
  rw [IntentParser.parse_readNote]
  obtain ⟨hintent, hname, hmissing⟩ := IntentParser.parseReadNote_a
  refine ⟨⟨hmissing, fun slot hslot => ⟨py "a", ?_, ?_⟩⟩, .readNote, ?_, by decide⟩
  · rw [hintent] at hslot
    rw [List.mem_singleton.mp hslot]
    unfold ParsedIntent.slot
    rw [if_neg (by simp), if_pos rfl]
    exact hname
  · rw [py_ofList]
    decide
  · rw [hintent]
    rfl

end Tomtit
