import TomtitAgent.Planning.PlanAgreement
import TomtitAgent.Runtime.WellRun
import TomtitAgent.Tools.NoteSteps

/-!
# A note written and read again

* `NoteSession`, `serve`   a session with the local backend; one utterance, planned and executed;
* `executeSteps_pair`      the loop over a plan of one step and an answer;
* `NoteRoundTrip`          what saving a note is for: the store has exactly the name and the content, and
                           reading the name answers with the content;
* `noteRoundTrip_iff`      it is met exactly for names and contents that are no placeholders.
-/

open Py

namespace Tomtit

/-! ### plans of two steps -/

section
variable {rt : Runtime} {μ : Type} {agent : RuntimeAgent μ}

theorem runStep_ok {i : Nat} {step : Step} {s : AgentState μ} {x : Executed μ} {text : PyStr}
    (hx : agent.executor.execute rt step (RuntimeAgent.startStep i step s) = .ok x)
    (hsuccess : x.result.success = true) (htext : stringifyOutput rt x.result.output = .ok text) :
    agent.runStep rt i step s = .ok (x, RuntimeAgent.completeStep i step text x.state) := by
  unfold RuntimeAgent.runStep
  rw [hx]
  show (if x.result.success = true then _ else _) = _
  rw [if_pos hsuccess, htext]
  rfl

theorem runStep_success {i : Nat} {step : Step} {s s' : AgentState μ} {x : Executed μ}
    (h : agent.runStep rt i step s = .ok (x, s')) (hsuccess : x.result.success = true) :
    agent.executor.execute rt step (RuntimeAgent.startStep i step s) = .ok x ∧
      ∃ text, stringifyOutput rt x.result.output = .ok text ∧
        s' = RuntimeAgent.completeStep i step text x.state := by
  obtain ⟨x', hx, h⟩ := bind_eq_ok.mp h
  by_cases hs : x'.result.success = true
  · rw [if_pos hs] at h
    obtain ⟨text, htext, h⟩ := bind_eq_ok.mp h
    obtain ⟨rfl, rfl⟩ := Prod.mk.inj (Except.ok.inj h)
    exact ⟨hx, text, htext, rfl⟩
  · rw [if_neg hs] at h
    obtain ⟨rfl, -⟩ := Prod.mk.inj (Except.ok.inj h)
    exact absurd hsuccess hs

structure Ongoing (s : AgentState μ) (i : Nat) : Prop where
  status : s.status = .running
  done : s.done = false
  within : (i : Int) ≤ s.maxSteps

theorem executeSteps_cons {i : Nat} {step : Step} {steps : List Step} {s : AgentState μ} (h : Ongoing s i) :
    agent.executeSteps rt i (step :: steps) s = (agent.runStep rt i step s).bind fun y =>
      if y.1.result.success ∧ step.action ≠ .finish then
        (agent.executeSteps rt (i + 1) steps y.2).map fun z => ((step, y.1) :: z.1, z.2)
      else .ok ([(step, y.1)], y.2) := by
  rw [RuntimeAgent.executeSteps, isTerminal_running h.status h.done, if_neg Bool.false_ne_true,
    if_neg (not_lt.mpr h.within)]
  cases agent.runStep rt i step s with
  | error e => rfl
  | ok y =>
    show (if _ then _ else _) = Except.bind (.ok y) _
    unfold Except.bind
    dsimp only
    split_ifs
    · cases agent.executeSteps rt (i + 1) steps y.2 <;> rfl
    · rfl

theorem Ongoing.next {i : Nat} {step : Step} {s : AgentState μ} {x : Executed μ} {text : PyStr}
    (h : Ongoing s i) (hwithin : (i + 1 : Int) ≤ s.maxSteps)
    (hx : agent.executor.execute rt step (RuntimeAgent.startStep i step s) = .ok x) :
    Ongoing (RuntimeAgent.completeStep i step text x.state) (i + 1) := by
  have hsame := (execute_stepEnd rt hx).same.trans (completeStep_same i step text x.state).1
  exact ⟨hsame.status.trans h.status, hsame.done.trans h.done, by rw [hsame.maxSteps]; exact_mod_cast hwithin⟩

def Succeeded (plan : List Step) (trace : Trace μ) : Prop :=
  trace.map Prod.fst = plan ∧ ∀ x ∈ trace, x.2.result.success = true

variable (agent) in
theorem executeSteps_pair {first last : Step} {s : AgentState μ} (h : Ongoing s 1) (hmax : 2 ≤ s.maxSteps)
    (hfirst : first.action ≠ .finish) (hlast : last.action = .finish) {x y : Executed μ} {text answer : PyStr}
    (hx : agent.executor.execute rt first (RuntimeAgent.startStep 1 first s) = .ok x)
    (hxs : x.result.success = true) (hxt : stringifyOutput rt x.result.output = .ok text)
    (hy : agent.executor.execute rt last
      (RuntimeAgent.startStep 2 last (RuntimeAgent.completeStep 1 first text x.state)) = .ok y)
    (hys : y.result.success = true) (hyt : stringifyOutput rt y.result.output = .ok answer) :
    agent.executeSteps rt 1 [first, last] s =
      .ok ([(first, x), (last, y)], RuntimeAgent.completeStep 2 last answer y.state) := by
  rw [executeSteps_cons h, runStep_ok hx hxs hxt]
  show (if x.result.success = true ∧ _ then _ else _) = _
  rw [if_pos ⟨hxs, hfirst⟩, executeSteps_cons (h.next hmax hx), runStep_ok hy hys hyt]
  show Except.map _ (if y.result.success = true ∧ _ then _ else _) = _
  rw [if_neg fun hc => hc.2 hlast]
  rfl

theorem executeSteps_succeeded {first last : Step} {s s' : AgentState μ} {trace : Trace μ} (h : Ongoing s 1)
    (hmax : 2 ≤ s.maxSteps) (hfirst : first.action ≠ .finish) (hlast : last.action = .finish)
    (hrun : agent.executeSteps rt 1 [first, last] s = .ok (trace, s')) (hgood : Succeeded [first, last] trace) :
    ∃ x y text answer,
      agent.executor.execute rt first (RuntimeAgent.startStep 1 first s) = .ok x ∧ x.result.success = true ∧
      agent.executor.execute rt last
        (RuntimeAgent.startStep 2 last (RuntimeAgent.completeStep 1 first text x.state)) = .ok y ∧
      y.result.success = true ∧ s' = RuntimeAgent.completeStep 2 last answer y.state := by
  rw [executeSteps_cons h] at hrun
  obtain ⟨⟨x, s₁⟩, hstep, hrun⟩ := bind_eq_ok.mp hrun
  dsimp only at hrun
  have hxs : x.result.success = true := by
    by_contra hfail
    rw [if_neg fun hc => hfail hc.1] at hrun
    obtain ⟨rfl, -⟩ := Prod.mk.inj (Except.ok.inj hrun)
    exact absurd hgood.1 (by simp)
  rw [if_pos ⟨hxs, hfirst⟩] at hrun
  obtain ⟨hx, text, -, rfl⟩ := runStep_success hstep hxs
  rw [executeSteps_cons (h.next hmax hx)] at hrun
  cases hlaststep : agent.runStep rt (1 + 1) last (RuntimeAgent.completeStep 1 first text x.state) with
  | error e =>
    rw [hlaststep] at hrun
    exact absurd hrun (by simp [Except.bind, Except.map])
  | ok z =>
    obtain ⟨y, s₂⟩ := z
    rw [hlaststep] at hrun
    have hrun : Except.map _ (if y.result.success = true ∧ last.action ≠ .finish then _ else
      .ok ([(last, y)], s₂)) = Except.ok (trace, s') := hrun
    rw [if_neg fun hc => hc.2 hlast] at hrun
    obtain ⟨rfl, rfl⟩ := Prod.mk.inj (Except.ok.inj hrun)
    have hys : y.result.success = true := hgood.2 (last, y) (List.mem_cons_of_mem _ (List.mem_singleton_self _))
    obtain ⟨hy, answer, -, rfl⟩ := runStep_success hlaststep hys
    exact ⟨x, y, text, answer, hx, hxs, hy, hys, rfl⟩

end

/-! ### a session -/

/-- A session with the local backend: its memory so far, and what it reads from outside. -/
structure NoteSession where
  rt : Runtime
  tables : ReTables
  env : NoteEnv
  objects : ObjectRuntime
  invalid : Dict PyStr Value → PyStr
  others : ToolName → ToolFn LocalMemory
  compose : AgentState LocalMemory → PyStr
  userId : Option PyStr
  sessionId : Option PyStr
  memory : LocalMemory
  /-- `uuid4()` for the task of each utterance -/
  taskId : Nat → PyStr
  /-- `uuid4()` for the steps of each plan -/
  stepId : Nat → Nat → PyStr
  taskId_named : ∀ j, blank (taskId j) = false
  stepId_named : ∀ j n, blank (stepId j n) = false
  recordId_ne_nil : env.uuid memory.made ≠ []

namespace NoteSession
variable (k : NoteSession)

def agent (tools : ToolRegistry LocalMemory) (j : Nat) : RuntimeAgent LocalMemory where
  planner s := (RuleBasedPlanner.makePlan (k.stepId j) k.tables tools.keys s.goal).mapError .texted
  tools := tools
  executor := localExecutor k.rt k.objects tools
  compose := k.compose
  memoryClient := none

/-- The state in which the plan of the `j`-th utterance starts. -/
def planned (j : Nat) (said : PyStr) (plan : List Step) (memory : LocalMemory) : AgentState LocalMemory where
  goal := said
  taskId := k.taskId j
  userId := k.userId
  sessionId := k.sessionId
  status := .planning
  plan := plan
  workspace := { memory }

/-- Plan the `j`-th utterance and execute the plan over a memory. -/
def serve (j : Nat) (said : PyStr) (memory : LocalMemory) :
    Except PyExc (List Step × Trace LocalMemory × AgentState LocalMemory) := do
  let tools ← buildToolRegistry k.invalid (localTools k.env k.rt k.others) []
  let plan ← RuleBasedPlanner.makePlan (k.stepId j) k.tables tools.keys said
  let y ← (k.agent tools j).executeSteps k.rt 1 plan (RuntimeAgent.startRun (k.planned j said plan memory))
  return (plan, y)

/-- Whatever the state, the arguments of the step are taken as they are. -/
def Literal (step : Step) : Prop :=
  ∀ s : AgentState LocalMemory, ArgResolver.resolveArgs k.rt k.objects step.args s = .ok step.args

def Asks (asked name : PyStr) : Prop :=
  (IntentParser.parse k.tables asked).intent = .readNote ∧ SlotsFilled (IntentParser.parse k.tables asked) ∧
    (IntentParser.parse k.tables asked).noteName = some name

/-- A complete intent to save this content under this name. -/
def Saves (said name content : PyStr) : Prop :=
  (IntentParser.parse k.tables said).intent = .writeNote ∧ SlotsFilled (IntentParser.parse k.tables said) ∧
    (IntentParser.parse k.tables said).noteName = some name ∧
    (IntentParser.parse k.tables said).content = some content

def Answers (name content : PyStr) (memory : LocalMemory) : Prop :=
  ∀ asked, k.Asks asked name → ∃ plan trace s, k.serve 1 asked memory = .ok (plan, trace, s) ∧
    Succeeded plan trace ∧ (∀ step ∈ plan, step.action = .readNote → k.Literal step) ∧
    ∃ x, trace.getLast? = some x ∧ x.1.action = .finish ∧ x.2.result.output = .finish (strip content)

/-- What is said is saved, exactly, and read again. -/
def NoteRoundTrip (said name content : PyStr) : Prop :=
  ∃ plan trace s, k.serve 0 said k.memory = .ok (plan, trace, s) ∧ Succeeded plan trace ∧
    (∀ step ∈ plan, k.Literal step) ∧
    StoredAs k.env.toMemoryRuntime (k.env.uuid k.memory.made) name content s.workspace.memory.store ∧
    k.Answers name content s.workspace.memory

/-- What the dispatch has to find in a text to save a note. -/
def FindsNote (tb : ReTables) (text name content : PyStr) : Prop :=
  (IntentParser.parseConversation tb text).isNone = true ∧
    (IntentParser.calculateVerb.matchStart (IntentParser.anyCase tb) text).isSome = false ∧
    (IntentParser.readNoteVerb.matchStart (IntentParser.anyCase tb) text).isSome = false ∧
    (IntentParser.writeNoteVerb.matchStart (IntentParser.anyCase tb) text).isSome = true ∧
    (IntentParser.aboutMeNoteGuard.matchStart (IntentParser.anyCaseLine tb) text).isNone = true ∧
    (IntentParser.writeNoteForm.matchStart (IntentParser.anyCase tb) text).map
      (fun m => (m.group 1, m.group 2)) = some (some name, some content)

theorem parseWriteNote_form {tb : ReTables} {text name content : PyStr}
    (hguard : (IntentParser.aboutMeNoteGuard.matchStart (IntentParser.anyCaseLine tb) text).isNone = true)
    (hform : (IntentParser.writeNoteForm.matchStart (IntentParser.anyCase tb) text).map
      (fun m => (m.group 1, m.group 2)) = some (some name, some content)) :
    (IntentParser.parseWriteNote tb text).intent = .writeNote ∧
      (IntentParser.parseWriteNote tb text).noteName = some name ∧
      (IntentParser.parseWriteNote tb text).content = some content ∧
      (IntentParser.parseWriteNote tb text).missingSlots = [] := by
  obtain ⟨m, hm, hgroups⟩ := Option.map_eq_some_iff.mp hform
  obtain ⟨hname, hcontent⟩ := Prod.mk.inj hgroups
  unfold IntentParser.parseWriteNote
  generalize IntentParser.aboutMeNoteGuard = guard at hguard ⊢
  generalize IntentParser.writeNoteForm = form at hm ⊢
  rw [Option.isNone_iff_eq_none.mp hguard, hm]
  exact ⟨rfl, hname, hcontent, by simp [IntentParser.absent, hname, hcontent]⟩

theorem saves_of_write {k : NoteSession} {said name content : PyStr}
    (h : FindsNote k.tables (strip said) name content) (hname : strip name ≠ [])
    (hcontent : strip content ≠ []) : k.Saves said name content := by
  obtain ⟨hconversation, hcalculate, hread, hwrite, hguard, hform⟩ := h
  have hverb : IntentParser.parseVerb k.tables (strip said) =
      some (IntentParser.parseWriteNote k.tables (strip said)) := by
    unfold IntentParser.parseVerb
    rw [hcalculate, hread, hwrite, if_neg Bool.false_ne_true, if_neg Bool.false_ne_true, if_pos rfl]
  have hparse : IntentParser.parse k.tables said = IntentParser.parseWriteNote k.tables (strip said) :=
    IntentParser.parse_of_verb (Option.isNone_iff_eq_none.mp hconversation) hverb
  have hparsed := parseWriteNote_form hguard hform
  unfold Saves
  rw [hparse]
  generalize IntentParser.parseWriteNote k.tables (strip said) = p at hparsed
  obtain ⟨hintent, hnoteName, hcontentSlot, hmissing⟩ := hparsed
  refine ⟨hintent, ⟨hmissing, fun slot hslot => ?_⟩, hnoteName, hcontentSlot⟩
  rw [hintent] at hslot
  unfold ParsedIntent.slot
  rcases List.mem_pair.mp hslot with rfl | rfl
  · rw [if_neg (by simp), if_pos rfl]
    exact ⟨name, hnoteName, hname⟩
  · rw [if_neg (by simp), if_neg (by simp), if_pos rfl]
    exact ⟨content, hcontentSlot, hcontent⟩

/-! ### the two plans -/

def savedMessage (name : PyStr) : PyStr := py "Đã lưu vào ghi chú '" ++ name ++ py "'."

theorem inert_savedMessage {name : PyStr} (h : Inert name) : Inert (savedMessage name) := by
  have hhead : ∀ t : PyStr, t.head? = some 36 → savedMessage name ≠ t := by
    rintro t ht rfl
    rw [savedMessage, py_ofList] at ht
    exact absurd (Option.some.inj ht) (by decide)
  have hstart : ∀ t : PyStr, t.head? = some 36 → startsWith (savedMessage name) t = false := by
    intro t ht
    cases t with
    | nil => exact absurd ht (by simp)
    | cons c t =>
      rw [List.head?_cons] at ht
      rw [savedMessage, py_ofList, Option.some.inj ht]
      rfl
  refine ⟨hhead _ ?_, hhead _ ?_, hstart _ ?_, hstart _ ?_, fun ht => h.template ?_⟩
  · rw [py_ofList]; rfl
  · rw [py_ofList]; rfl
  · rw [py_ofList]; rfl
  · rw [py_ofList]; rfl
  · unfold savedMessage at ht
    have hquote : HasTemplate (name ++ py "'.") := by
      rw [List.append_assoc] at ht
      refine ht.drop ?_
      rw [py_ofList]
      decide
    refine hquote.take ?_
    rw [py_ofList]
    decide

def savePlan (j : Nat) (name content : PyStr) : List Step := [
  writeStep (k.stepId j) 0 (py "Lưu nội dung vào ghi chú") name content,
  answerStep (k.stepId j) 1 (py "Thông báo đã lưu ghi chú") (savedMessage name)]

def readPlan (j : Nat) (name : PyStr) : List Step := [
  newStep (k.stepId j) 0 (py "Đọc nội dung ghi chú") .readNote [(py "name", .str name)],
  answerStep (k.stepId j) 1 (py "Trả nội dung ghi chú cho user") (py "$last_text")]

variable {k} {said name content : PyStr}

theorem makePlan_saves (h : k.Saves said name content) (available : List ToolName) (j : Nat) :
    RuleBasedPlanner.makePlan (k.stepId j) k.tables available said = .ok (k.savePlan j name content) := by
  obtain ⟨hintent, hfilled, hname, hcontent⟩ := h
  rw [makePlan_fallback available (by rw [hintent]; rfl)]
  unfold IntentPlanner.makePlan
  rw [if_neg (not_not.mpr (validate_missingSlots_eq_nil.mpr hfilled)), SlotValidator.validate_intent, hintent]
  show Except.ok (IntentPlanner.writeNotePlan _ _) = _
  unfold IntentPlanner.writeNotePlan
  rw [SlotValidator.validate_noteName, SlotValidator.validate_content, hname, hcontent]
  rfl

theorem makePlan_asks (h : k.Asks said name) (available : List ToolName) (j : Nat) :
    RuleBasedPlanner.makePlan (k.stepId j) k.tables available said = .ok (k.readPlan j name) := by
  obtain ⟨hintent, hfilled, hname⟩ := h
  rw [makePlan_fallback available (by rw [hintent]; rfl)]
  unfold IntentPlanner.makePlan
  rw [if_neg (not_not.mpr (validate_missingSlots_eq_nil.mpr hfilled)), SlotValidator.validate_intent, hintent]
  show Except.ok (IntentPlanner.readNotePlan _ _) = _
  unfold IntentPlanner.readNotePlan
  rw [SlotValidator.validate_noteName, hname]
  rfl

theorem serve_eq (k : NoteSession) : ∃ tools, LocalRegistry k.rt k.env k.invalid k.others tools ∧
    ∀ j said memory plan, RuleBasedPlanner.makePlan (k.stepId j) k.tables tools.keys said = .ok plan →
      k.serve j said memory = ((k.agent tools j).executeSteps k.rt 1 plan
        (RuntimeAgent.startRun (k.planned j said plan memory))).map fun y => (plan, y) := by
  obtain ⟨tools, htools, hget⟩ := buildToolRegistry_ok k.invalid (localTools k.env k.rt k.others) []
  refine ⟨tools, fun t => (hget t).trans (if_neg List.not_mem_nil), fun j said memory plan hplan => ?_⟩
  simp only [serve, htools, hplan, bind, Except.bind]
  generalize (k.agent tools j).executeSteps k.rt 1 plan _ = served
  cases served with
  | ok y => rfl
  | error e => rfl

theorem ongoing_planned (j : Nat) (plan : List Step) (memory : LocalMemory) :
    Ongoing (RuntimeAgent.startRun (k.planned j said plan memory)) 1 :=
  ⟨rfl, rfl, show (1 : Int) ≤ 5 by decide⟩

theorem fresh_planned (step : Step) (j : Nat) (plan : List Step) (memory : LocalMemory) :
    ArgResolver.Fresh (RuntimeAgent.startStep 1 step (RuntimeAgent.startRun (k.planned j said plan memory))) :=
  ⟨rfl, rfl⟩

/-! ### saving -/

def saved (k : NoteSession) (j : Nat) (name content : PyStr) (memory : LocalMemory) : LocalMemory :=
  (memory.writeNote k.env ⟨k.userId, k.sessionId⟩ name content (k.taskId j)).2

theorem saves_names (h : k.Saves said name content) :
    strip name = name ∧ strip name ≠ [] ∧ strip content ≠ [] := by
  obtain ⟨hintent, hfilled, hname, hcontent⟩ := h
  have hspace : strip name = name := strip_of_no_space (IntentParser.parse_noteName hintent hname)
  have hslots : requiredSlots (IntentParser.parse k.tables said).intent = [py "note_name", py "content"] := by
    rw [hintent]
    rfl
  obtain ⟨value, hvalue, hne⟩ := hfilled.filled (py "note_name") (by rw [hslots]; exact List.mem_cons_self)
  obtain ⟨value', hvalue', hne'⟩ := hfilled.filled (py "content") (by
    rw [hslots]
    exact List.mem_cons_of_mem _ (List.mem_singleton_self _))
  unfold ParsedIntent.slot at hvalue hvalue'
  rw [if_neg (by simp), if_pos rfl, hname] at hvalue
  rw [if_neg (by simp), if_neg (by simp), if_pos rfl, hcontent] at hvalue'
  rw [← Option.some.inj hvalue] at hne
  rw [← Option.some.inj hvalue'] at hne'
  exact ⟨hspace, hne, hne'⟩

theorem named_start {j n i : Nat} {thought : PyStr} {action : ToolName} {args : List (PyStr × PyVal)}
    {s : AgentState LocalMemory} (htask : s.taskId = k.taskId j) :
    Named (newStep (k.stepId j) n thought action args) (RuntimeAgent.startStep i
      (newStep (k.stepId j) n thought action args) s) := by
  refine ⟨?_, k.stepId_named j n⟩
  show blank s.taskId = false
  rw [htask]
  exact k.taskId_named j

theorem completeStep_keeps (i : Nat) (step : Step) (text : PyStr) (s : AgentState LocalMemory) :
    (RuntimeAgent.completeStep i step text s).workspace = s.workspace ∧
      (RuntimeAgent.completeStep i step text s).lastResult = s.lastResult ∧
      (RuntimeAgent.completeStep i step text s).readOnly = s.readOnly := by
  unfold RuntimeAgent.completeStep
  dsimp only
  split
  · exact ⟨rfl, rfl, rfl⟩
  · exact ⟨rfl, rfl, rfl⟩

theorem serve_saves (h : k.Saves said name content) (hname : Inert name) (hcontent : Inert content) :
    ∃ trace s, k.serve 0 said k.memory = .ok (k.savePlan 0 name content, trace, s) ∧
      Succeeded (k.savePlan 0 name content) trace ∧ s.workspace.memory = k.saved 0 name content k.memory := by
  obtain ⟨-, hblank, -⟩ := saves_names h
  obtain ⟨tools, hreg, hserve⟩ := serve_eq k
  set s₀ := RuntimeAgent.startRun (k.planned 0 said (k.savePlan 0 name content) k.memory) with hs₀
  obtain ⟨r, s₁, hx, hsuccess, ⟨text, htext⟩, hreturns⟩ := write_inert k.objects hreg
    (s := RuntimeAgent.startStep 1 (writeStep (k.stepId 0) 0 (py "Lưu nội dung vào ghi chú") name content) s₀)
    rfl (named_start rfl) hname hcontent hblank
  set s₂ := RuntimeAgent.completeStep 1
    (writeStep (k.stepId 0) 0 (py "Lưu nội dung vào ghi chú") name content) text s₁ with hs₂
  obtain ⟨hworkspace, hlast, hread⟩ := completeStep_keeps 1
    (writeStep (k.stepId 0) 0 (py "Lưu nội dung vào ghi chú") name content) text s₁
  have htask : s₂.taskId = k.taskId 0 := (completeStep_same _ _ _ _).1.taskId.trans hreturns.same.taskId
  have hmessage : strip (savedMessage name) ≠ [] := by
    intro hnil
    have hspace := (strip_eq_nil_iff _).mp hnil 0x110 (by
      rw [savedMessage, py_ofList]
      exact List.mem_cons_self)
    exact absurd hspace (by decide)
  obtain ⟨r', s₃, hy, hsuccess', houtput, hreturns'⟩ := answer_resolved k.objects hreg
    (s := RuntimeAgent.startStep 2 (answerStep (k.stepId 0) 1 (py "Thông báo đã lưu ghi chú") (savedMessage name)) s₂)
    (hread.trans hreturns.readOnly) (named_start htask)
    (ArgResolver.resolveStr_inert (inert_savedMessage hname)) hmessage
  have hanswer : stringifyOutput k.rt r'.output = .ok (strip (savedMessage name)) := by
    rw [houtput]
    rfl
  have hrun := executeSteps_pair (k.agent tools 0) (ongoing_planned 0 _ k.memory)
    (show (2 : Int) ≤ 5 by decide) (fun h => by cases h) rfl hx hsuccess htext hy hsuccess' hanswer
  refine ⟨_, _, (hserve 0 said k.memory _ (makePlan_saves h _ 0)).trans (congrArg (Except.map _) hrun),
    ⟨rfl, ?_⟩, ?_⟩
  · intro x hx
    rcases List.mem_pair.mp hx with rfl | rfl
    · exact hsuccess
    · exact hsuccess'
  · rw [(completeStep_keeps _ _ _ _).1, hreturns'.workspace]
    show s₂.workspace.memory = _
    rw [hworkspace, hreturns.workspace]
    rfl

theorem serve_saved (h : k.Saves said name content) {plan : List Step} {trace : Trace LocalMemory}
    {s : AgentState LocalMemory} (hserved : k.serve 0 said k.memory = .ok (plan, trace, s))
    (hgood : Succeeded plan trace) :
    ∃ (s₀ : AgentState LocalMemory) (name' content' : PyStr), ArgResolver.Fresh s₀ ∧
      ArgResolver.resolveStr k.rt k.objects s₀ (.str name) name = .ok (.data (.str name')) ∧
      ArgResolver.resolveStr k.rt k.objects s₀ (.str content) content = .ok (.data (.str content')) ∧
      strip name' ≠ [] ∧ s.workspace.memory = k.saved 0 name' content' k.memory := by
  obtain ⟨tools, hreg, hserve⟩ := serve_eq k
  rw [hserve 0 said k.memory _ (makePlan_saves h _ 0)] at hserved
  cases hrun : (k.agent tools 0).executeSteps k.rt 1 (k.savePlan 0 name content)
      (RuntimeAgent.startRun (k.planned 0 said (k.savePlan 0 name content) k.memory)) with
  | error e =>
    rw [hrun] at hserved
    exact absurd hserved (by simp [Except.map])
  | ok y =>
    rw [hrun] at hserved
    cases hserved
    obtain ⟨x, y, text, answer, hx, hxs, hy, hys, rfl⟩ := executeSteps_succeeded (ongoing_planned 0 _ k.memory)
      (show (2 : Int) ≤ 5 by decide) (fun h => by cases h) rfl hrun hgood
    obtain ⟨name', content', hname, hcontent, hblank, hmemory⟩ := write_success hreg hx hxs
    refine ⟨_, name', content', fresh_planned _ 0 _ k.memory, hname, hcontent, hblank, ?_⟩
    rw [(completeStep_keeps _ _ _ _).1, answer_success hreg hy hys]
    show (RuntimeAgent.completeStep _ _ _ _).workspace.memory = _
    rw [(completeStep_keeps _ _ _ _).1, hmemory]
    rfl

/-! ### reading -/

theorem literal_single {n : Nat} {newId : Nat → PyStr} {thought key text : PyStr} {action : ToolName}
    (h : Inert text) : k.Literal (newStep newId n thought action [(key, .str text)]) := fun _ =>
  ArgResolver.resolveArgs_single.mpr ⟨_, ArgResolver.resolveStr_inert h, rfl⟩

theorem answers_stored (hname : Inert name) (hspace : strip name = name) (hcontent : strip content ≠ [])
    {memory : LocalMemory} {id : PyStr}
    (hstored : StoredAs k.env.toMemoryRuntime id name content memory.store) :
    k.Answers name content memory := by
  intro asked hasks
  obtain ⟨tools, hreg, hserve⟩ := serve_eq k
  obtain ⟨record, hindexed, -, -, hrecord⟩ := hstored
  have hread : memory.store.readNote name = some content := by
    unfold InMemoryStore.readNote
    rw [hspace, hindexed, Option.map_some, hrecord]
  set first := newStep (k.stepId 1) 0 (py "Đọc nội dung ghi chú") .readNote [(py "name", .str name)] with hfirst
  set s₀ := RuntimeAgent.startRun (k.planned 1 asked (k.readPlan 1 name) memory) with hs₀
  obtain ⟨r, s₁, hx, hsuccess, houtput, hreturns⟩ := read_inert k.objects hreg
    (s := RuntimeAgent.startStep 1 first s₀) rfl (named_start rfl) hname hread
  have htext : stringifyOutput k.rt r.output = .ok content := by
    rw [houtput]
    rfl
  obtain ⟨hworkspace, hlast, hwrite⟩ := completeStep_keeps 1 first content s₁
  set s₂ := RuntimeAgent.completeStep 1 first content s₁ with hs₂
  have htask : s₂.taskId = k.taskId 1 := (completeStep_same _ _ _ _).1.taskId.trans hreturns.same.taskId
  have hlastText : ArgResolver.resolveStr k.rt k.objects (RuntimeAgent.startStep 2
      (answerStep (k.stepId 1) 1 (py "Trả nội dung ghi chú cho user") (py "$last_text")) s₂)
      (.str (py "$last_text")) (py "$last_text") = .ok (.data (.str content)) := by
    unfold ArgResolver.resolveStr
    rw [if_neg (by simp), if_pos rfl]
    have hresult : stringifyResult k.rt s₂.lastResult = .ok content := by
      rw [hlast, hreturns.lastResult]
      exact htext
    exact congrArg (Except.map fun t => Value.data (.str t)) hresult
  obtain ⟨r', s₃, hy, hsuccess', houtput', -⟩ := answer_resolved k.objects hreg
    (s := RuntimeAgent.startStep 2
      (answerStep (k.stepId 1) 1 (py "Trả nội dung ghi chú cho user") (py "$last_text")) s₂)
    (hwrite.trans hreturns.readOnly) (named_start htask) hlastText hcontent
  have hanswer : stringifyOutput k.rt r'.output = .ok (strip content) := by
    rw [houtput']
    rfl
  have hrun := executeSteps_pair (k.agent tools 1) (ongoing_planned 1 (k.readPlan 1 name) memory)
    (show (2 : Int) ≤ 5 by decide) (fun h => by cases h) rfl hx hsuccess htext hy hsuccess' hanswer
  refine ⟨_, _, _, (hserve 1 asked memory _ (makePlan_asks hasks _ 1)).trans (congrArg (Except.map _) hrun),
    ⟨rfl, ?_⟩, ?_, ?_⟩
  · intro x hx
    rcases List.mem_pair.mp hx with rfl | rfl
    · exact hsuccess
    · exact hsuccess'
  · intro step hstep hact
    rcases List.mem_pair.mp hstep with rfl | rfl
    · exact literal_single hname
    · exact absurd hact (fun h => by cases h)
  · exact ⟨_, rfl, rfl, houtput'⟩

/-! ### the round trip -/

theorem literal_savePlan (hname : Inert name) (hcontent : Inert content) :
    ∀ step ∈ k.savePlan 0 name content, k.Literal step := by
  intro step hstep
  rcases List.mem_pair.mp hstep with rfl | rfl
  · exact fun _ => (ArgResolver.resolveArgs_pair name_ne_content).mpr
      ⟨_, _, ArgResolver.resolveStr_inert hname, ArgResolver.resolveStr_inert hcontent, rfl⟩
  · exact literal_single (inert_savedMessage hname)

/-- At the start of a run only a text that names nothing is resolved to a text at least as long. -/
theorem inert_of_fresh {s : AgentState LocalMemory} (hs : ArgResolver.Fresh s) {text text' : PyStr}
    (h : ArgResolver.resolveStr k.rt k.objects s (.str text) text = .ok (.data (.str text')))
    (hlen : text.length ≤ text'.length) : Inert text := by
  by_contra hnot
  rcases ArgResolver.resolveStr_fresh hs hnot h with hnone | ⟨t, ht, hshort⟩
  · exact absurd hnone (by simp)
  · cases ht
    omega

theorem inert_of_stored (h : k.Saves said name content) {plan : List Step} {trace : Trace LocalMemory}
    {s : AgentState LocalMemory} (hserved : k.serve 0 said k.memory = .ok (plan, trace, s))
    (hgood : Succeeded plan trace)
    (hstored : StoredAs k.env.toMemoryRuntime (k.env.uuid k.memory.made) name content s.workspace.memory.store) :
    Inert name ∧ Inert content := by
  obtain ⟨s₀, name', content', hfresh, hname, hcontent, hblank, hmemory⟩ := serve_saved h hserved hgood
  rw [hmemory] at hstored
  obtain ⟨hnames, rfl⟩ := storedAs_writeNote k.env ⟨k.userId, k.sessionId⟩ k.memory content' (k.taskId 0) hblank hstored
  refine ⟨inert_of_fresh hfresh hname ?_, inert_of_fresh hfresh hcontent le_rfl⟩
  rw [hnames]
  exact strip_length_le name'

/-- A note makes the round trip exactly when neither its name nor its content is a placeholder. -/
theorem noteRoundTrip_iff (k : NoteSession) {said name content : PyStr} (h : k.Saves said name content) :
    k.NoteRoundTrip said name content ↔ Inert name ∧ Inert content := by
  constructor
  · rintro ⟨plan, trace, s, hserved, hgood, -, hstored, -⟩
    exact inert_of_stored h hserved hgood hstored
  · rintro ⟨hname, hcontent⟩
    obtain ⟨hspace, hblank, hcontentBlank⟩ := saves_names h
    obtain ⟨trace, s, hserved, hgood, hmemory⟩ := serve_saves h hname hcontent
    have hstored : StoredAs k.env.toMemoryRuntime (k.env.uuid k.memory.made) name content s.workspace.memory.store := by
      have hwritten := writeNote_storedAs k.env ⟨k.userId, k.sessionId⟩ k.memory content (k.taskId 0)
        k.recordId_ne_nil hblank
      rw [hspace] at hwritten
      rw [hmemory]
      exact hwritten
    exact ⟨_, trace, s, hserved, hgood, literal_savePlan hname hcontent, hstored,
      answers_stored hname hspace hcontentBlank hstored⟩

end NoteSession

/-! ### a name, and a placeholder, as content -/

theorem blank_countedIds (n : Nat) : blank (countedIds n) = false := by
  have hx : isSpace 120 = false := rfl
  have hstrip : strip (countedIds n) = countedIds n :=
    strip_of_no_space fun c hc => by rw [List.eq_of_mem_replicate hc, hx]
  unfold blank
  rw [hstrip]
  rfl

def plainSession : NoteSession where
  rt := small 4300
  tables := IntentParser.plainTables
  env := { toMemoryRuntime := plainEnv.toMemoryRuntime, now := fun n => n, uuid := countedIds }
  objects := ⟨fun _ _ => none, fun _ => .none, fun s => s ≠ [] ∧ s.all isDigit, fun _ => .ok 0⟩
  invalid _ := []
  others _ _ s := (.ok (.other (py "NoneType")), s.workspace)
  compose s := s.goal
  userId := none
  sessionId := none
  memory := ⟨InMemoryStore.empty, 0, 0⟩
  taskId := countedIds
  stepId _ := countedIds
  taskId_named := blank_countedIds
  stepId_named _ := blank_countedIds
  recordId_ne_nil := List.cons_ne_nil _ _

theorem findsNote_samples :
    NoteSession.FindsNote IntentParser.plainTables (strip (py "Lưu ghi chú a b")) (py "a") (py "b") ∧
      NoteSession.FindsNote IntentParser.plainTables (strip (py "Lưu ghi chú a $last_text")) (py "a")
        (py "$last_text") := by
  unfold NoteSession.FindsNote IntentParser.parseConversation IntentParser.greetingWords
    IntentParser.identityCue IntentParser.capabilityCue IntentParser.memoryReadCue
    IntentParser.memoryWriteCue IntentParser.calculateVerb IntentParser.readNoteVerb
    IntentParser.writeNoteVerb IntentParser.aboutMeNoteGuard IntentParser.writeNoteForm
  repeat rw [py_ofList]
  decide +kernel

theorem saves_b : plainSession.Saves (py "Lưu ghi chú a b") (py "a") (py "b") := by
  refine NoteSession.saves_of_write findsNote_samples.1 ?_ ?_
  · rw [py_ofList]
    decide
  · rw [py_ofList]
    decide

theorem saves_lastText :
    plainSession.Saves (py "Lưu ghi chú a $last_text") (py "a") (py "$last_text") := by
  refine NoteSession.saves_of_write findsNote_samples.2 ?_ ?_
  · rw [py_ofList]
    decide
  · rw [py_ofList]
    decide

/-- `Lưu ghi chú a b` makes the round trip. -/
theorem noteRoundTrip_b : (Inert (py "a") ∧ Inert (py "b")) ∧
    plainSession.NoteRoundTrip (py "Lưu ghi chú a b") (py "a") (py "b") := by
  have hinert : ∀ c : CodePoint, c ≠ 36 → Inert [c] := by
    intro c hc
    have hstart : ∀ t : PyStr, startsWith [c] (36 :: t) = false := by
      intro t
      unfold startsWith
      rw [List.isPrefixOf_cons_cons, beq_eq_false_iff_ne.mpr (Ne.symm hc), Bool.false_and]
    refine ⟨fun h => ?_, fun h => ?_, ?_, ?_, ?_⟩
    · rw [py_ofList] at h
      exact hc (List.cons.inj h).1
    · rw [py_ofList] at h
      exact hc (List.cons.inj h).1
    · rw [py_ofList]
      exact hstart _
    · rw [py_ofList]
      exact hstart _
    · rintro ⟨a, w, b, h, -⟩
      have hlen := congrArg List.length h
      simp only [List.length_append, List.length_cons, List.length_nil] at hlen
      omega
  have hab : Inert (py "a") ∧ Inert (py "b") := by
    repeat rw [py_ofList]
    exact ⟨hinert _ (by decide), hinert _ (by decide)⟩
  exact ⟨hab, (NoteSession.noteRoundTrip_iff plainSession saves_b).mpr hab⟩

/-- `Lưu ghi chú a $last_text` does not: the content is taken for the last result, of which there is none. -/
theorem noteRoundTrip_fails : ∃ said name content,
    plainSession.Saves said name content ∧ ¬ plainSession.NoteRoundTrip said name content := by
  refine ⟨_, _, _, saves_lastText, ?_⟩
  rintro ⟨plan, trace, s, hserved, hgood, -, hstored, -⟩
  exact (NoteSession.inert_of_stored saves_lastText hserved hgood hstored).2.lastText rfl

end Tomtit
