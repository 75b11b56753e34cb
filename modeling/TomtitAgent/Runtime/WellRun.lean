import TomtitAgent.Runtime.RuntimeAgent
import TomtitAgent.Python.SmallRuntime

/-!
# When a run ends as it should

* `SpeaksFrom`, `Speaks`   wherever a step runs there is a task id, what succeeds prints, and what is raised
                           has a text;
* `LoopEnd`, `executeSteps_end`   the loop: one observation for each step, in order, and why it stopped;
* `WellRun`, `wellRun_iff`   the whole run; which tools it called is read off the logs that they keep.
-/

open Py

namespace Tomtit

section
variable (rt : Runtime) {μ : Type}

/-- The plan has more steps than the bound and no FINISH within it. -/
def Exhausted (bound : Nat) (plan : List Step) : Prop :=
  bound < plan.length ∧ ∀ step ∈ plan.take bound, step.action ≠ .finish

theorem exhausted_cons {bound : Nat} {step : Step} {steps : List Step} (h : step.action ≠ .finish) :
    Exhausted (bound + 1) (step :: steps) ↔ Exhausted bound steps := by
  unfold Exhausted
  rw [List.length_cons, List.take_succ_cons, List.forall_mem_cons]
  constructor
  · intro hx
    exact ⟨by omega, hx.2.2⟩
  · intro hx
    exact ⟨by omega, h, hx.2⟩

/-- One call for each executed step, in their order; the last step, where it failed, may have called nothing. -/
def CallsOf (trace : Trace μ) (calls : List ToolCall) : Prop :=
  calls.map Prod.fst = trace.map (fun x => x.1.action) ∨
    (∃ x, trace.getLast? = some x ∧ x.2.result.success = false) ∧
      calls.map Prod.fst = trace.dropLast.map (fun x => x.1.action)

def ObservedAs (x : (Step × Executed μ) × Nat) (obs : Observation) : Prop :=
  obs.stepIndex = x.2 ∧ obs.action = x.1.1.action.value ∧ obs.success = x.1.2.result.success

namespace RuntimeAgent
variable (agent : RuntimeAgent μ)

/-- Every step that the loop executes from here on finds a task id, lets no exception out, and where its
tool succeeds in the state before the step, the output has a text; a bound that the plan exceeds has one. -/
def SpeaksFrom : Nat → List Step → AgentState μ → Prop
  | _, [], _ => True
  | stepIndex, step :: steps, s =>
    ((stepIndex : Int) > s.maxSteps → intFits rt s.maxSteps = true) ∧ ((stepIndex : Int) ≤ s.maxSteps →
      blank s.taskId = false ∧ ¬ agent.executor.Escapes rt step (startStep stepIndex step s) ∧
      ∀ executed, agent.executor.execute rt step (startStep stepIndex step s) = .ok executed →
        executed.result.success = true →
        ∃ text, stringifyOutput rt executed.result.output = .ok text ∧
          (step.action ≠ .finish →
            SpeaksFrom (stepIndex + 1) steps (completeStep stepIndex step text executed.state)))

end RuntimeAgent

/-! ### one step -/

theorem startStep_same (stepIndex : Nat) (step : Step) (s : AgentState μ) :
    SameRun s (RuntimeAgent.startStep stepIndex step s) := ⟨rfl, rfl, rfl, rfl, rfl, rfl⟩

theorem completeStep_same (stepIndex : Nat) (step : Step) (text : PyStr) (s : AgentState μ) :
    SameRun s (RuntimeAgent.completeStep stepIndex step text s) ∧
      (RuntimeAgent.completeStep stepIndex step text s).observations = s.observations ∧
      (RuntimeAgent.completeStep stepIndex step text s).workspace = s.workspace := by
  unfold RuntimeAgent.completeStep
  dsimp only
  split
  · exact ⟨⟨rfl, rfl, rfl, rfl, rfl, rfl⟩, rfl, rfl⟩
  · exact ⟨⟨rfl, rfl, rfl, rfl, rfl, rfl⟩, rfl, rfl⟩

variable {agent : RuntimeAgent μ}

variable (agent) in
/-- What an executed step leaves, seen from the state before it. -/
structure StepEnd (stepIndex : Nat) (step : Step) (s : AgentState μ) (x : Executed μ) : Prop where
  same : SameRun s x.state
  observed : ∃ obs, x.state.observations = s.observations ++ [obs] ∧ ObservedAs ((step, x), stepIndex) obs
  called : ∀ log : μ → List ToolCall, KeepsLog agent.executor.tools log → ∃ calls,
    log x.state.workspace.memory = log s.workspace.memory ++ calls ∧
      (calls = [] ∧ x.result.success = false ∨ ∃ args, calls = [(step.action, args)])

theorem execute_stepEnd {stepIndex : Nat} {step : Step} {s : AgentState μ} {x : Executed μ}
    (h : agent.executor.execute rt step (RuntimeAgent.startStep stepIndex step s) = .ok x) :
    StepEnd agent stepIndex step s x := by
  obtain ⟨-, hrec⟩ := execute_returned rt h
  obtain ⟨obs, hobs, hindex, haction, hsuccess⟩ := hrec.observed
  refine ⟨(startStep_same stepIndex step s).trans hrec.same, ⟨obs, hobs, hindex, haction, hsuccess⟩,
    fun log hlog => ?_⟩
  obtain ⟨calls, hcalls, hwhich⟩ := execute_calls rt h hlog
  exact ⟨calls, hcalls, hwhich.imp_right fun hone => hone.elim fun _ hargs =>
    hargs.elim fun args hargs => ⟨args, hargs.1⟩⟩

theorem execute_ok {stepIndex : Nat} {step : Step} {s : AgentState μ} (htask : blank s.taskId = false)
    (hid : blank step.id = false)
    (hkept : ¬ agent.executor.Escapes rt step (RuntimeAgent.startStep stepIndex step s)) :
    ∃ x, agent.executor.execute rt step (RuntimeAgent.startStep stepIndex step s) = .ok x := by
  obtain ⟨x, hx, _⟩ := (execute_records rt agent.executor step
    (RuntimeAgent.startStep stepIndex step s)).1 ⟨⟨htask, hid⟩, hkept⟩
  exact ⟨x, hx⟩

/-! ### the loop -/

variable (agent) in
/-- What the loop leaves behind, from the step with this index on. -/
structure LoopEnd (stepIndex : Nat) (steps : List Step) (s : AgentState μ) (trace : Trace μ)
    (s' : AgentState μ) : Prop where
  plan : s'.plan = s.plan
  observed : ∃ obs, s'.observations = s.observations ++ obs ∧
    List.Forall₂ ObservedAs (trace.zipIdx stepIndex) obs
  inOrder : trace.map Prod.fst <+: steps
  bounded : trace ≠ [] → (stepIndex + trace.length : Int) ≤ s.maxSteps + 1
  stops : ∀ x ∈ trace.dropLast, x.2.result.success = true ∧ x.1.action ≠ .finish
  called : ∀ log : μ → List ToolCall, KeepsLog agent.executor.tools log → ∃ calls,
    log s'.workspace.memory = log s.workspace.memory ++ calls ∧ CallsOf trace calls
  degraded : s'.memoryDegraded = s.memoryDegraded ∧
    ∀ x ∈ trace, x.2.state.memoryDegraded = s.memoryDegraded
  ending : (s'.status = .failed ∧ s'.done = true ∧ ((∃ x ∈ trace, x.2.result.success = false) ∨
      Exhausted (s.maxSteps - stepIndex + 1).toNat steps)) ∨
    (s'.status = .running ∧ s'.done = false ∧ (∀ x ∈ trace, x.2.result.success = true) ∧
      ¬ Exhausted (s.maxSteps - stepIndex + 1).toNat steps)

theorem mem_dropLast_cons {α : Type} {x a : α} {xs : List α} (h : x ∈ (a :: xs).dropLast) :
    x = a ∨ x ∈ xs.dropLast := by
  cases xs with
  | nil => exact absurd h List.not_mem_nil
  | cons b xs =>
    rw [List.dropLast_cons_of_ne_nil (List.cons_ne_nil b xs)] at h
    exact List.mem_cons.mp h

theorem LoopEnd.last {stepIndex : Nat} {step : Step} {steps : List Step} {s s' : AgentState μ}
    {x : Executed μ} (hle : (stepIndex : Int) ≤ s.maxSteps) (hend : StepEnd agent stepIndex step s x)
    (hplan : s'.plan = x.state.plan) (hobs : s'.observations = x.state.observations)
    (hworkspace : s'.workspace = x.state.workspace)
    (hdegraded : s'.memoryDegraded = x.state.memoryDegraded)
    (hfinal : (s'.status = .failed ∧ s'.done = true ∧ x.result.success = false) ∨
      (s'.status = .running ∧ s'.done = false ∧ x.result.success = true ∧ step.action = .finish)) :
    LoopEnd agent stepIndex (step :: steps) s [(step, x)] s' := by
  obtain ⟨obs, hx, hseen⟩ := hend.observed
  have hstate : x.state.memoryDegraded = s.memoryDegraded := hend.same.memoryDegraded
  refine ⟨hplan.trans hend.same.plan, ⟨[obs], hobs.trans hx, .cons hseen .nil⟩, ⟨steps, rfl⟩, ?_, ?_, ?_,
    ⟨hdegraded.trans hstate, ?_⟩, ?_⟩
  · intro _
    show (stepIndex + (1 : Nat) : Int) ≤ s.maxSteps + 1
    omega
  · intro y hy
    exact absurd hy List.not_mem_nil
  · intro log hlog
    obtain ⟨calls, hcalls, hwhich⟩ := hend.called log hlog
    refine ⟨calls, by rw [hworkspace, hcalls], ?_⟩
    rcases hwhich with ⟨rfl, hfail⟩ | ⟨args, rfl⟩
    · exact .inr ⟨⟨_, rfl, hfail⟩, rfl⟩
    · exact .inl rfl
  · intro y hy
    rw [List.mem_singleton.mp hy]
    exact hstate
  · rcases hfinal with ⟨hstatus, hdone, hfail⟩ | ⟨hstatus, hdone, hsuccess, hfinish⟩
    · exact .inl ⟨hstatus, hdone, .inl ⟨_, List.mem_singleton_self _, hfail⟩⟩
    · refine .inr ⟨hstatus, hdone, fun y hy => ?_, fun hex => ?_⟩
      · rw [List.mem_singleton.mp hy]
        exact hsuccess
      · obtain ⟨n, hn⟩ : ∃ n, (s.maxSteps - stepIndex + 1).toNat = n + 1 :=
          ⟨(s.maxSteps - stepIndex).toNat, by omega⟩
        rw [hn] at hex
        exact hex.2 step (by rw [List.take_succ_cons]; exact List.mem_cons_self) hfinish

theorem CallsOf.cons {trace : Trace μ} {calls : List ToolCall} (h : CallsOf trace calls) {step : Step}
    {x : Executed μ} {args : Dict PyStr Value} : CallsOf ((step, x) :: trace) ((step.action, args) :: calls) := by
  unfold CallsOf at h ⊢
  rcases h with hall | ⟨⟨y, hy, hfail⟩, hbut⟩
  · exact .inl (by rw [List.map_cons, List.map_cons, hall])
  · have hne : trace ≠ [] := by
      rintro rfl
      exact absurd hy (by simp)
    refine .inr ⟨⟨y, ?_, hfail⟩, ?_⟩
    · rw [List.getLast?_cons, hy]
      rfl
    · rw [List.dropLast_cons_of_ne_nil hne, List.map_cons, List.map_cons, hbut]

theorem LoopEnd.cons {stepIndex : Nat} {step : Step} {steps : List Step} {s s₁ s' : AgentState μ}
    {x : Executed μ} {trace : Trace μ} (hle : (stepIndex : Int) ≤ s.maxSteps)
    (hend : StepEnd agent stepIndex step s x) (hsame : SameRun x.state s₁)
    (hobs : s₁.observations = x.state.observations) (hworkspace : s₁.workspace = x.state.workspace)
    (hsuccess : x.result.success = true) (hfinish : step.action ≠ .finish)
    (h : LoopEnd agent (stepIndex + 1) steps s₁ trace s') :
    LoopEnd agent stepIndex (step :: steps) s ((step, x) :: trace) s' := by
  obtain ⟨obs, hx, hseen⟩ := hend.observed
  obtain ⟨rest, hrest, hall⟩ := h.observed
  have hmax : s₁.maxSteps = s.maxSteps := hsame.maxSteps.trans hend.same.maxSteps
  have hdeg : s₁.memoryDegraded = s.memoryDegraded := hsame.memoryDegraded.trans hend.same.memoryDegraded
  have hbound : (s.maxSteps - stepIndex + 1).toNat = (s₁.maxSteps - (stepIndex + 1 : Nat) + 1).toNat + 1 := by
    rw [hmax]
    push_cast
    omega
  refine ⟨h.plan.trans (hsame.plan.trans hend.same.plan), ⟨obs :: rest, ?_, ?_⟩, ?_, ?_, ?_, ?_,
    ⟨h.degraded.1.trans hdeg, ?_⟩, ?_⟩
  · rw [hrest, hobs, hx, List.append_assoc]
    rfl
  · rw [List.zipIdx_cons]
    exact .cons hseen hall
  · rw [List.map_cons]
    exact List.cons_prefix_cons.mpr ⟨rfl, h.inOrder⟩
  · intro _
    by_cases hnil : trace = []
    · rw [hnil]
      show (stepIndex + (1 : Nat) : Int) ≤ s.maxSteps + 1
      omega
    · have hb := h.bounded hnil
      rw [hmax] at hb
      rw [List.length_cons]
      push_cast at hb ⊢
      omega
  · intro y hy
    rcases mem_dropLast_cons hy with rfl | hy
    · exact ⟨hsuccess, hfinish⟩
    · exact h.stops y hy
  · intro log hlog
    obtain ⟨first, hfirst, hwhich⟩ := hend.called log hlog
    obtain ⟨calls, hcalls, hof⟩ := h.called log hlog
    obtain ⟨args, rfl⟩ := hwhich.resolve_left fun hnone => by
      rw [hsuccess] at hnone
      exact absurd hnone.2 (by simp)
    refine ⟨(step.action, args) :: calls, ?_, hof.cons⟩
    rw [hcalls, hworkspace, hfirst, List.append_assoc]
    rfl
  · intro y hy
    rcases List.mem_cons.mp hy with rfl | hy
    · exact hend.same.memoryDegraded
    · exact (h.degraded.2 y hy).trans hdeg
  · rw [hbound, exhausted_cons hfinish]
    rcases h.ending with ⟨hstatus, hdone, hwhy⟩ | ⟨hstatus, hdone, hgood, hwhy⟩
    · refine .inl ⟨hstatus, hdone, hwhy.imp_left fun ⟨y, hy, hfail⟩ => ?_⟩
      exact ⟨y, List.mem_cons_of_mem _ hy, hfail⟩
    · exact .inr ⟨hstatus, hdone, List.forall_mem_cons.mpr ⟨hsuccess, hgood⟩, hwhy⟩

theorem isTerminal_running {s : AgentState μ} (hstatus : s.status = .running) (hdone : s.done = false) :
    s.isTerminal = false := by
  unfold AgentState.isTerminal
  rw [hstatus, hdone]
  rfl

/-- A loop that speaks ends, and its end is accounted for. -/
theorem executeSteps_end (steps : List Step) (stepIndex : Nat) (s : AgentState μ)
    (hstatus : s.status = .running) (hdone : s.done = false)
    (hids : ∀ step ∈ steps, blank step.id = false) (h : agent.SpeaksFrom rt stepIndex steps s) :
    ∃ trace s', agent.executeSteps rt stepIndex steps s = .ok (trace, s') ∧
      LoopEnd agent stepIndex steps s trace s' := by
  induction steps generalizing stepIndex s with
  | nil =>
    refine ⟨[], s, rfl, rfl, ⟨[], (List.append_nil _).symm, .nil⟩, List.nil_prefix,
      fun h => absurd rfl h, fun x hx => absurd hx List.not_mem_nil,
      fun log _ => ⟨[], (List.append_nil _).symm, .inl rfl⟩,
      ⟨rfl, fun x hx => absurd hx List.not_mem_nil⟩, .inr ⟨hstatus, hdone, fun x hx => absurd hx
      List.not_mem_nil, fun hex => absurd hex.1 (Nat.not_lt_zero _)⟩⟩
  | cons step steps ih =>
    rw [RuntimeAgent.executeSteps, isTerminal_running hstatus hdone, if_neg Bool.false_ne_true]
    by_cases hgt : (stepIndex : Int) > s.maxSteps
    · have htext : strInt rt s.maxSteps = .ok (intText s.maxSteps) := if_pos (h.1 hgt)
      rw [if_pos hgt, htext]
      refine ⟨_, _, rfl, rfl, ⟨[], (List.append_nil _).symm, .nil⟩, List.nil_prefix,
        fun h => absurd rfl h, fun x hx => absurd hx List.not_mem_nil,
        fun log _ => ⟨[], (List.append_nil _).symm, .inl rfl⟩, ⟨rfl, fun x hx => absurd hx List.not_mem_nil⟩, .inl ⟨rfl, rfl, .inr ?_⟩⟩
      have hzero : (s.maxSteps - stepIndex + 1).toNat = 0 := by omega
      rw [hzero]
      exact ⟨Nat.succ_pos _, fun st hst => absurd hst List.not_mem_nil⟩
    · have hle : (stepIndex : Int) ≤ s.maxSteps := by omega
      obtain ⟨htask, hkept, hspeak⟩ := h.2 hle
      obtain ⟨x, hx⟩ := execute_ok rt htask (hids step List.mem_cons_self) hkept
      have hend := execute_stepEnd rt hx
      rw [if_neg hgt, RuntimeAgent.runStep, hx]
      cases hsuccess : x.result.success with
      | false =>
        refine ⟨[(step, x)], RuntimeAgent.breakStep stepIndex x.result x.state, ?_,
          .last hle hend rfl rfl rfl rfl (.inl ⟨rfl, rfl, hsuccess⟩)⟩
        show (Except.bind (if x.result.success = true then _ else _) _) = _
        rw [hsuccess]
        show (if x.result.success = true ∧ _ then _ else _) = _
        rw [hsuccess, if_neg (fun h => Bool.false_ne_true h.1)]
        rfl
      | true =>
        obtain ⟨text, htext, hrest⟩ := hspeak x hx hsuccess
        obtain ⟨hsame, hobs, hworkspace⟩ := completeStep_same stepIndex step text x.state
        have hstatus₁ : (RuntimeAgent.completeStep stepIndex step text x.state).status = .running :=
          hsame.status.trans (hend.same.status.trans hstatus)
        have hdone₁ : (RuntimeAgent.completeStep stepIndex step text x.state).done = false :=
          hsame.done.trans (hend.same.done.trans hdone)
        by_cases hfinish : step.action = .finish
        · refine ⟨[(step, x)], RuntimeAgent.completeStep stepIndex step text x.state, ?_,
            .last hle hend hsame.plan hobs hworkspace hsame.memoryDegraded
              (.inr ⟨hstatus₁, hdone₁, hsuccess, hfinish⟩)⟩
          show (Except.bind (if x.result.success = true then _ else _) _) = _
          rw [hsuccess, if_pos rfl, htext]
          show (if x.result.success = true ∧ _ then _ else _) = _
          rw [if_neg (fun h => h.2 hfinish)]
          rfl
        · obtain ⟨trace, s', hloop, hloopEnd⟩ := ih (stepIndex + 1) _ hstatus₁ hdone₁
            (fun st hst => hids st (List.mem_cons_of_mem _ hst)) (hrest hfinish)
          refine ⟨(step, x) :: trace, s', ?_, .cons hle hend hsame hobs hworkspace hsuccess hfinish hloopEnd⟩
          show (Except.bind (if x.result.success = true then _ else _) _) = _
          rw [hsuccess, if_pos rfl, htext]
          show (if x.result.success = true ∧ _ then _ else _) = _
          rw [if_pos ⟨hsuccess, hfinish⟩]
          show (agent.executeSteps rt (stepIndex + 1) steps _ >>= _) = _
          rw [hloop]
          rfl

theorem speaksFrom_of_ok (steps : List Step) (stepIndex : Nat) (s : AgentState μ)
    (hstatus : s.status = .running) (hdone : s.done = false) {y : Trace μ × AgentState μ}
    (h : agent.executeSteps rt stepIndex steps s = .ok y) : agent.SpeaksFrom rt stepIndex steps s := by
  induction steps generalizing stepIndex s y with
  | nil => trivial
  | cons step steps ih =>
    rw [RuntimeAgent.executeSteps, isTerminal_running hstatus hdone, if_neg Bool.false_ne_true] at h
    refine ⟨fun hgt => ?_, fun hle => ?_⟩
    · rw [if_pos hgt] at h
      obtain ⟨text, htext, -⟩ := bind_eq_ok.mp h
      unfold strInt at htext
      by_contra hlong
      rw [if_neg hlong] at htext
      exact absurd htext (by simp)
    rw [if_neg (by omega)] at h
    obtain ⟨⟨x, s₁⟩, hstep, hrest⟩ := bind_eq_ok.mp h
    obtain ⟨x', hx, hafter⟩ := bind_eq_ok.mp hstep
    have hend := execute_stepEnd rt hx
    obtain ⟨⟨hnamed, hkept⟩, -⟩ := execute_returned rt hx
    refine ⟨hnamed.1, hkept, fun executed hexecuted hsuccess => ?_⟩
    obtain rfl : x' = executed := Except.ok.inj (hx.symm.trans hexecuted)
    rw [if_pos hsuccess] at hafter
    obtain ⟨text, htext, hpair⟩ := bind_eq_ok.mp hafter
    obtain ⟨rfl, rfl⟩ := Prod.mk.inj (Except.ok.inj hpair)
    refine ⟨text, htext, fun hfinish => ?_⟩
    obtain ⟨hsame, -⟩ := completeStep_same stepIndex step text x'.state
    dsimp only at hrest
    rw [if_pos ⟨hsuccess, hfinish⟩] at hrest
    obtain ⟨z, hz, -⟩ := bind_eq_ok.mp hrest
    exact ih (stepIndex + 1) _ (hsame.status.trans (hend.same.status.trans hstatus))
      (hsame.done.trans (hend.same.done.trans hdone)) hz

/-! ### the whole run -/

namespace RuntimeAgent
variable (agent : RuntimeAgent μ)

def RetrievalRaises (s : AgentState μ) (r : Raised) : Prop :=
  ∃ retrieve, agent.memoryClient = some retrieve ∧ retrieve s.goal s.userId s.sessionId = .error r

def retrieved (s : AgentState μ) : AgentState μ :=
  match agent.memoryClient with
  | none => s
  | some retrieve =>
    match retrieve s.goal s.userId s.sessionId with
    | .error _ => s
    | .ok pack => { s with contextPack := some pack, memoryDegraded := s.memoryDegraded || pack.degraded }

def planningState (s : AgentState μ) : AgentState μ :=
  { agent.retrieved s with status := .planning }.emitEvent (py "planning_started") none

/-- The plan of the run: the planner's, where it passes the validation. -/
def planned (s : AgentState μ) : Except Raised (List Step) := do
  let plan ← agent.planner (agent.planningState s)
  (validatePlan rt plan agent.tools).mapError .texted
  return plan

def runningState (plan : List Step) (s : AgentState μ) : AgentState μ :=
  startRun (({ agent.planningState s with plan }.addHistory
    [py "Goal: " ++ (agent.planningState s).goal, py "Plan length: " ++ natText plan.length]).emitEvent
      (py "planning_completed") none)

/-- What is raised before the loop has a text, and the steps that run speak. -/
def Speaks (s : AgentState μ) : Prop :=
  (∃ e, agent.RetrievalRaises s (.texted e)) ∨
    (∀ r, ¬ agent.RetrievalRaises s r) ∧ ((∃ e, agent.planned rt s = .error (.texted e)) ∨
      ∃ plan, agent.planned rt s = .ok plan ∧ agent.SpeaksFrom rt 1 plan (agent.runningState plan s))

end RuntimeAgent

variable (agent) in
/-- Why a run fails: its retrieval, its planning, a step, or its length. -/
def FailsBecause (s : AgentState μ) (trace : Trace μ) : Prop :=
  (∃ r, agent.RetrievalRaises s r) ∨ (∃ e, agent.planned rt s = .error e) ∨
    (∃ x ∈ trace, x.2.result.success = false) ∨
    ∃ plan, agent.planned rt s = .ok plan ∧ Exhausted s.maxSteps.toNat plan

variable (agent) in
/-- The run of `s` that executed the steps of `trace` and ended in `s'` is as it should be. -/
structure WellRun (s : AgentState μ) (trace : Trace μ) (s' : AgentState μ) : Prop where
  failed : s'.status = .failed ↔ FailsBecause rt agent s trace
  completed : s'.status = .completed ↔ ¬ FailsBecause rt agent s trace
  observed : ∃ obs, s'.observations = s.observations ++ obs ∧
    List.Forall₂ ObservedAs (trace.zipIdx 1) obs
  inOrder : trace = [] ∨ ∃ plan, agent.planned rt s = .ok plan ∧ trace.map Prod.fst <+: plan
  bounded : trace.length ≤ s.maxSteps.toNat
  stops : ∀ x ∈ trace.dropLast, x.2.result.success = true ∧ x.1.action ≠ .finish
  called : ∀ log : μ → List ToolCall, KeepsLog agent.executor.tools log → ∃ calls,
    log s'.workspace.memory = log s.workspace.memory ++ calls ∧ CallsOf trace calls
  degraded : s'.memoryDegraded = (agent.retrieved s).memoryDegraded ∧
    (∀ x ∈ trace, x.2.state.memoryDegraded = s'.memoryDegraded) ∧
    (s.memoryDegraded = true → s'.memoryDegraded = true)

variable (agent) in
theorem retrieveMemory_cases (s : AgentState μ) :
    (∃ e, agent.RetrievalRaises s (.textless e) ∧ agent.retrieveMemory s = .error e) ∨
    (∃ e, agent.RetrievalRaises s (.texted e) ∧ agent.retrieved s = s ∧
      agent.retrieveMemory s = .ok (s.fail (py "memory retrieve failed: " ++ e.msg))) ∨
    (∀ r, ¬ agent.RetrievalRaises s r) ∧ agent.retrieveMemory s = .ok (agent.retrieved s) := by
  unfold RuntimeAgent.RetrievalRaises RuntimeAgent.retrieveMemory RuntimeAgent.retrieved
  cases hclient : agent.memoryClient with
  | none => exact .inr (.inr ⟨fun _ hr => hr.elim fun _ h => absurd h.1 (by simp), rfl⟩)
  | some retrieve =>
    dsimp only
    cases hpack : retrieve s.goal s.userId s.sessionId with
    | error r =>
      cases r with
      | textless e => exact .inl ⟨e, ⟨retrieve, rfl, hpack⟩, rfl⟩
      | texted e => exact .inr (.inl ⟨e, ⟨retrieve, rfl, hpack⟩, rfl, rfl⟩)
    | ok pack =>
      refine .inr (.inr ⟨?_, rfl⟩)
      rintro r ⟨retrieve', hr, he⟩
      rw [← Option.some.inj hr, hpack] at he
      exact absurd he (by simp)

structure SameStart (s s' : AgentState μ) : Prop where
  done : s'.done = s.done
  observations : s'.observations = s.observations
  maxSteps : s'.maxSteps = s.maxSteps
  workspace : s'.workspace = s.workspace

variable (agent) in
theorem retrieved_same (s : AgentState μ) : SameStart s (agent.retrieved s) ∧
    (agent.retrieved s).status = s.status ∧
    (s.memoryDegraded = true → (agent.retrieved s).memoryDegraded = true) := by
  unfold RuntimeAgent.retrieved
  split
  · exact ⟨⟨rfl, rfl, rfl, rfl⟩, rfl, id⟩
  · split
    · exact ⟨⟨rfl, rfl, rfl, rfl⟩, rfl, id⟩
    · refine ⟨⟨rfl, rfl, rfl, rfl⟩, rfl, fun h => ?_⟩
      dsimp only
      rw [h]
      rfl

variable (agent) in
theorem plan_cases (s : AgentState μ) :
    (∃ e, agent.planned rt s = .error (.textless e) ∧ agent.plan rt (agent.retrieved s) = .error e) ∨
    (∃ e s', agent.planned rt s = .error (.texted e) ∧ agent.plan rt (agent.retrieved s) = .ok s' ∧
      s'.status = .failed ∧ s'.done = true ∧ s'.observations = (agent.retrieved s).observations ∧
      s'.workspace = (agent.retrieved s).workspace ∧
      s'.memoryDegraded = (agent.retrieved s).memoryDegraded) ∨
    ∃ plan s', agent.planned rt s = .ok plan ∧ agent.plan rt (agent.retrieved s) = .ok s' ∧
      s'.status = .planning ∧ s'.plan = plan ∧ s'.done = (agent.retrieved s).done ∧
      RuntimeAgent.startRun s' = agent.runningState plan s := by
  unfold RuntimeAgent.planned RuntimeAgent.plan RuntimeAgent.runningState RuntimeAgent.planningState
  dsimp only
  cases agent.planner (({ agent.retrieved s with status := .planning } : AgentState μ).emitEvent
      (py "planning_started") none) with
  | error r =>
    cases r with
    | textless e => exact .inl ⟨e, rfl, rfl⟩
    | texted e => exact .inr (.inl ⟨e, _, rfl, rfl, rfl, rfl, rfl, rfl, rfl⟩)
  | ok plan =>
    dsimp only
    cases hv : validatePlan rt plan agent.tools with
    | error e =>
      refine .inr (.inl ⟨e, _, ?_, rfl, rfl, rfl, rfl, rfl, rfl⟩)
      show ((validatePlan rt plan agent.tools).mapError Raised.texted >>= _) = _
      rw [hv]
      rfl
    | ok u =>
      refine .inr (.inr ⟨plan, _, ?_, rfl, rfl, rfl, rfl, rfl⟩)
      show ((validatePlan rt plan agent.tools).mapError Raised.texted >>= _) = _
      rw [hv]
      rfl

theorem finalizeRun_done {s : AgentState μ} (h : s.done = true) : agent.finalizeRun s = s := if_pos h

theorem applyDisclosure_same (s : AgentState μ) :
    (applyDisclosure s).observations = s.observations ∧ (applyDisclosure s).workspace = s.workspace ∧
      (applyDisclosure s).memoryDegraded = s.memoryDegraded := by
  have hdisclose : ∀ (cond : Bool) (reason : PyStr) (s : AgentState μ),
      (disclose cond reason s).observations = s.observations ∧
        (disclose cond reason s).workspace = s.workspace ∧
        (disclose cond reason s).memoryDegraded = s.memoryDegraded := by
    intro cond reason s
    unfold disclose
    split
    · exact ⟨rfl, rfl, rfl⟩
    · exact ⟨rfl, rfl, rfl⟩
  unfold applyDisclosure
  exact ⟨(hdisclose _ _ _).1.trans (hdisclose _ _ _).1, (hdisclose _ _ _).2.1.trans (hdisclose _ _ _).2.1,
    (hdisclose _ _ _).2.2.trans (hdisclose _ _ _).2.2⟩

variable (agent) in
theorem finalizeRun_live {s : AgentState μ} (h : s.done = false) :
    (agent.finalizeRun s).status = .completed ∧ (agent.finalizeRun s).observations = s.observations ∧
      (agent.finalizeRun s).workspace = s.workspace ∧
      (agent.finalizeRun s).memoryDegraded = s.memoryDegraded := by
  unfold RuntimeAgent.finalizeRun
  rw [if_neg (by rw [h]; exact Bool.false_ne_true)]
  exact ⟨rfl, applyDisclosure_same s⟩

theorem wellRun_early {s s' : AgentState μ}
    (hwhy : (∃ r, agent.RetrievalRaises s r) ∨ ∃ e, agent.planned rt s = .error e)
    (hstatus : s'.status = .failed) (hobs : s'.observations = s.observations)
    (hworkspace : s'.workspace = s.workspace) (hdegraded : s'.memoryDegraded = (agent.retrieved s).memoryDegraded) :
    WellRun rt agent s [] s' := by
  have hfails : FailsBecause rt agent s [] := hwhy.imp_right .inl
  refine ⟨⟨fun _ => hfails, fun _ => hstatus⟩, ⟨fun h => ?_, fun h => absurd hfails h⟩,
    ⟨[], by rw [hobs, List.append_nil], .nil⟩, .inl rfl, Nat.zero_le _,
    fun x hx => absurd hx List.not_mem_nil, fun log _ => ⟨[], by rw [hworkspace, List.append_nil], .inl rfl⟩,
    hdegraded, fun x hx => absurd hx List.not_mem_nil, fun h => ?_⟩
  · rw [hstatus] at h
    exact absurd h (by decide)
  · rw [hdegraded]
    exact (retrieved_same agent s).2.2 h

variable (agent) in
theorem runningState_same (plan : List Step) (s : AgentState μ) : SameStart s (agent.runningState plan s) ∧
    (agent.runningState plan s).memoryDegraded = (agent.retrieved s).memoryDegraded :=
  ⟨⟨(retrieved_same agent s).1.done, (retrieved_same agent s).1.observations, (retrieved_same agent s).1.maxSteps,
    (retrieved_same agent s).1.workspace⟩, rfl⟩

theorem wellRun_loop {s s' : AgentState μ} {plan : List Step} {trace : Trace μ}
    (hraises : ∀ r, ¬ agent.RetrievalRaises s r) (hplan : agent.planned rt s = .ok plan)
    (h : LoopEnd agent 1 plan (agent.runningState plan s) trace s') :
    WellRun rt agent s trace (agent.finalizeRun s') := by
  obtain ⟨hsame, hdegraded⟩ := runningState_same agent plan s
  have hbound : (s.maxSteps - (1 : Nat) + 1).toNat = s.maxSteps.toNat := by
    push_cast
    omega
  have hbecause : FailsBecause rt agent s trace ↔
      (∃ x ∈ trace, x.2.result.success = false) ∨ Exhausted s.maxSteps.toNat plan := by
    unfold FailsBecause
    constructor
    · rintro (⟨r, hr⟩ | ⟨e, he⟩ | hf | ⟨plan', hp, hex⟩)
      · exact absurd hr (hraises r)
      · rw [hplan] at he
        exact absurd he (by simp)
      · exact .inl hf
      · rw [hplan] at hp
        rw [Except.ok.inj hp]
        exact .inr hex
    · intro hf
      exact .inr (.inr (hf.imp_right fun hex => ⟨plan, hplan, hex⟩))
  have hending := h.ending
  rw [hsame.maxSteps, hbound] at hending
  obtain ⟨obs, hobs', hseen⟩ := h.observed
  have hfinal : ((agent.finalizeRun s').status = .failed ∧ FailsBecause rt agent s trace ∨
      (agent.finalizeRun s').status = .completed ∧ ¬ FailsBecause rt agent s trace) ∧
      (agent.finalizeRun s').observations = s'.observations ∧
      (agent.finalizeRun s').workspace = s'.workspace ∧
      (agent.finalizeRun s').memoryDegraded = s'.memoryDegraded := by
    rw [hbecause]
    rcases hending with ⟨hstatus, hdone, hwhy⟩ | ⟨-, hdone, hgood, hshort⟩
    · rw [finalizeRun_done hdone]
      exact ⟨.inl ⟨hstatus, hwhy⟩, rfl, rfl, rfl⟩
    · obtain ⟨hstatus, hkept⟩ := finalizeRun_live agent hdone
      refine ⟨.inr ⟨hstatus, fun hf => ?_⟩, hkept⟩
      rcases hf with ⟨x, hx, hfail⟩ | hex
      · rw [hgood x hx] at hfail
        exact absurd hfail (by simp)
      · exact hshort hex
  obtain ⟨hstatus, hobsFinal, hworkspaceFinal, hdegFinal⟩ := hfinal
  have hdeg : (agent.finalizeRun s').memoryDegraded = (agent.retrieved s).memoryDegraded :=
    hdegFinal.trans (h.degraded.1.trans hdegraded)
  refine ⟨?_, ?_, ⟨obs, ?_, hseen⟩, .inr ⟨plan, hplan, h.inOrder⟩, ?_, h.stops, fun log hlog => ?_, hdeg,
    fun x hx => ?_, ?_⟩
  · rcases hstatus with ⟨hs, hf⟩ | ⟨hs, hf⟩
    · exact ⟨fun _ => hf, fun _ => hs⟩
    · rw [hs]
      exact ⟨fun hc => absurd hc (by decide), fun hb => absurd hb hf⟩
  · rcases hstatus with ⟨hs, hf⟩ | ⟨hs, hf⟩
    · rw [hs]
      exact ⟨fun hc => absurd hc (by decide), fun hb => absurd hf hb⟩
    · exact ⟨fun _ => hf, fun _ => hs⟩
  · rw [hobsFinal, hobs', hsame.observations]
  · by_cases hnil : trace = []
    · rw [hnil]
      exact Nat.zero_le _
    · have hb := h.bounded hnil
      rw [hsame.maxSteps] at hb
      omega
  · obtain ⟨calls, hcalls, hof⟩ := h.called log hlog
    refine ⟨calls, ?_, hof⟩
    rw [hworkspaceFinal, hcalls, hsame.workspace]
  · rw [hdeg, h.degraded.2 x hx, hdegraded]
  · intro hd
    rw [hdeg]
    exact (retrieved_same agent s).2.2 hd

/-- For every fresh state and every plan whose step ids are not blank: the run ends as it should exactly
when it speaks. -/
theorem wellRun_iff (agent : RuntimeAgent μ) (s : AgentState μ) (hcreated : s.status = .created)
    (hlive : s.done = false)
    (hids : ∀ plan, agent.planned rt s = .ok plan → ∀ step ∈ plan, blank step.id = false) :
    (∃ trace s', agent.run rt s = .ok (trace, s') ∧ WellRun rt agent s trace s') ↔ agent.Speaks rt s := by
  unfold RuntimeAgent.run RuntimeAgent.Speaks
  have hterminal : ∀ {s' : AgentState μ}, s'.done = true → s'.isTerminal = true := by
    intro s' hdone
    unfold AgentState.isTerminal
    rw [hdone]
    rfl
  rcases retrieveMemory_cases agent s with ⟨e, hraises, hretrieve⟩ | ⟨e, hraises, hsame, hretrieve⟩ |
    ⟨hquiet, hretrieve⟩
  · rw [hretrieve]
    refine iff_of_false (fun h => ?_) fun h => ?_
    · obtain ⟨trace, s', hrun, -⟩ := h
      cases hrun
    · rcases h with ⟨e', retrieve, hclient, he'⟩ | ⟨hquiet, -⟩
      · obtain ⟨retrieve', hclient', he⟩ := hraises
        rw [Option.some.inj (hclient.symm.trans hclient'), he] at he'
        cases he'
      · exact hquiet _ hraises
  · have hdone : (s.fail (py "memory retrieve failed: " ++ e.msg)).done = true := rfl
    rw [hretrieve, ok_bind, if_pos (hterminal hdone)]
    refine iff_of_true ⟨[], _, rfl, ?_⟩ (.inl ⟨e, hraises⟩)
    rw [finalizeRun_done hdone]
    exact wellRun_early rt (.inl ⟨_, hraises⟩) rfl rfl rfl (by rw [hsame]; rfl)
  · have hspeaks : ∀ {P : Prop}, ((∃ e, agent.RetrievalRaises s (.texted e)) ∨
        (∀ r, ¬ agent.RetrievalRaises s r) ∧ P) ↔ P := by
      intro P
      exact ⟨fun h => h.elim (fun hr => hr.elim fun e he => absurd he (hquiet _)) And.right,
        fun h => .inr ⟨hquiet, h⟩⟩
    obtain ⟨hstart, hstatus, -⟩ := retrieved_same agent s
    have hterm : (agent.retrieved s).isTerminal = false := by
      unfold AgentState.isTerminal
      rw [hstart.done, hlive, hstatus, hcreated]
      rfl
    rw [hretrieve, ok_bind, if_neg (by rw [hterm]; exact Bool.false_ne_true), hspeaks]
    rcases plan_cases rt agent s with ⟨e, hplan, hrun⟩ |
      ⟨e, s', hplan, hrun, hpstatus, hpdone, hpobs, hpworkspace, hpdeg⟩ |
      ⟨plan, s', hplan, hrun, hpstatus, hpplan, hpdone, hprunning⟩
    · rw [hrun, hplan]
      refine iff_of_false (fun h => ?_) fun h => ?_
      · obtain ⟨trace, s', hrun, -⟩ := h
        cases hrun
      · rcases h with ⟨_, h⟩ | ⟨_, h, -⟩ <;> cases h
    · rw [hrun, ok_bind, if_pos (hterminal hpdone)]
      refine iff_of_true ⟨[], _, rfl, ?_⟩ (.inl ⟨e, hplan⟩)
      rw [finalizeRun_done hpdone]
      exact wellRun_early rt (.inr ⟨_, hplan⟩) hpstatus (hpobs.trans hstart.observations)
        (hpworkspace.trans hstart.workspace) hpdeg
    · have hpterm : s'.isTerminal = false := by
        unfold AgentState.isTerminal
        rw [hpdone, hstart.done, hlive, hpstatus]
        rfl
      have hrunning : (agent.runningState plan s).done = false :=
        (runningState_same agent plan s).1.done.trans hlive
      rw [hrun, ok_bind, if_neg (by rw [hpterm]; exact Bool.false_ne_true), hpplan, hprunning]
      constructor
      · rintro ⟨trace, s'', hloop, -⟩
        obtain ⟨y, hy, -⟩ := bind_eq_ok.mp hloop
        exact .inr ⟨plan, hplan, speaksFrom_of_ok rt plan 1 _ rfl hrunning hy⟩
      · intro hspeak
        have hfrom : agent.SpeaksFrom rt 1 plan (agent.runningState plan s) := by
          rcases hspeak with ⟨e, he⟩ | ⟨plan', hplan', h⟩
          · rw [hplan] at he
            cases he
          · obtain rfl := Except.ok.inj (hplan.symm.trans hplan')
            exact h
        obtain ⟨trace, s'', hloop, hend⟩ := executeSteps_end rt plan 1 (agent.runningState plan s) rfl hrunning
          (hids plan hplan) hfrom
        refine ⟨trace, agent.finalizeRun s'', ?_, wellRun_loop rt hquiet hplan hend⟩
        rw [hloop]
        rfl

end

/-! ### a run of one step -/

/-- A FINISH whose tool notes its call and answers with the value. -/
def answering (v : PyVal) : ToolSpec (List ToolCall) where
  name := .finish
  fn args s := (.ok (.result { success := true, output := .other v }),
    { s.workspace with memory := s.workspace.memory ++ [(.finish, args)] })
  requiredArgs := []
  allowedArgs := []
  argsSchema := .ok

def finishOnly : Step := ⟨[], .finish, Dict.empty, [115], []⟩

def answeringAgent (v : PyVal) : RuntimeAgent (List ToolCall) where
  planner _ := .ok [finishOnly]
  tools := Dict.empty.set .finish (answering v)
  executor := { tools := Dict.empty.set .finish (answering v), resolveArgs := fun args _ => .ok args }
  compose _ := []
  memoryClient := none

def freshState : AgentState (List ToolCall) := { goal := [103], taskId := [116], workspace := ⟨[], Dict.empty, false⟩ }

theorem answering_keepsLog (v : PyVal) : KeepsLog (answeringAgent v).executor.tools id := by
  intro action tool htool args s
  unfold answeringAgent at htool
  rw [Dict.get?_set] at htool
  split_ifs at htool with haction
  · obtain rfl := Option.some.inj htool
    rw [haction]
    rfl
  · cases htool

theorem answering_executes (rt : Runtime) (v : PyVal) :
    ∃ x, (answeringAgent v).executor.execute rt finishOnly (RuntimeAgent.startStep 1 finishOnly
        ((answeringAgent v).runningState [finishOnly] freshState)) = .ok x ∧
      x.result.success = true ∧ x.result.output = .other v := ⟨_, rfl, rfl, rfl⟩

theorem answering_planned (rt : Runtime) (v : PyVal) :
    (answeringAgent v).planned rt freshState = .ok [finishOnly] := rfl

theorem answering_run {rt : Runtime} {v : PyVal} {e : PyExc} (h : strData rt v = .error e) :
    (answeringAgent v).run rt freshState = .error e := by
  obtain ⟨x, hx, hsuccess, houtput⟩ := answering_executes rt v
  have hstep : (answeringAgent v).runStep rt 1 finishOnly ((answeringAgent v).runningState [finishOnly] freshState) =
      .error e := by
    rw [RuntimeAgent.runStep, hx]
    show (if x.result.success = true then _ else _) = _
    rw [if_pos hsuccess, houtput]
    show (strData rt v >>= _) = _
    rw [h]
    rfl
  show ((answeringAgent v).runStep rt 1 finishOnly ((answeringAgent v).runningState [finishOnly] freshState) >>= _) >>= _ = _
  rw [hstep]
  rfl

/-- The answer `10 ** 4300` has no text under the default limit of the interpreter: the run raises
where it should have completed. -/
theorem wellRun_not_total : ∃ n : Int, intFits (small 4300) n = false ∧
    ¬ ∃ trace s', (answeringAgent (.int n)).run (small 4300) freshState = .ok (trace, s') ∧
      WellRun (small 4300) (answeringAgent (.int n)) freshState trace s' := by
  obtain ⟨n, hn⟩ : ∃ n, intFits (small 4300) n = false := ⟨10 ^ 4300, tooLong_intFits 4300 (by omega)⟩
  refine ⟨n, hn, fun ⟨trace, s', hrun, _⟩ => ?_⟩
  have hlong : strData (small 4300) (.int n) = .error (intTooLong (small 4300)) := by
    show strInt (small 4300) n = _
    unfold strInt
    rw [hn]
    rfl
  rw [answering_run hlong] at hrun
  exact absurd hrun (by simp)

/-- The agent that answers `h` ends as it should, and its tool notes its call. -/
theorem wellRun_answering : KeepsLog (answeringAgent (.str [104])).executor.tools id ∧ ∃ trace s',
    (answeringAgent (.str [104])).run (small 4300) freshState = .ok (trace, s') ∧
      WellRun (small 4300) (answeringAgent (.str [104])) freshState trace s' := by
  refine ⟨answering_keepsLog _, (wellRun_iff (small 4300) (answeringAgent (.str [104])) freshState rfl rfl ?_).mpr ?_⟩
  · intro plan hplan step hstep
    rw [answering_planned] at hplan
    rw [← Except.ok.inj hplan] at hstep
    rw [List.mem_singleton.mp hstep]
    rfl
  · have hquiet : ∀ r, ¬ (answeringAgent (.str [104])).RetrievalRaises freshState r := by
      rintro r ⟨retrieve, hclient, -⟩
      cases hclient
    refine .inr ⟨hquiet, .inr ⟨_, answering_planned _ _, fun h => absurd h (by decide), fun _ => ⟨rfl, ?_,
      fun x hx _ => ⟨[104], ?_, fun h => absurd rfl h⟩⟩⟩⟩
    · obtain ⟨y, hy, -⟩ := answering_executes (small 4300) (.str [104])
      exact (execute_returned (small 4300) hy).1.2
    obtain ⟨y, hy, -, houtput⟩ := answering_executes (small 4300) (.str [104])
    rw [Except.ok.inj (hx.symm.trans hy), houtput]
    rfl

end Tomtit
