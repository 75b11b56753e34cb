import TomtitAgent.Planning.PlanValidator

/-!
# `RuntimeAgent.run`: retrieve, plan, execute, finalise

* `RuntimeAgent`   the injected parts: a planner, a registry, an executor, a composer, and the
                   retrieval of a memory client;
* `retrieveMemory`, `plan`, `runStep`, `executeSteps`, `finalizeRun`, `run`   the run; beside the state it
                   returns the steps it executed, each with its result and the state after it.

An exception of the planner or of the memory client without a text leaves `run`.  No candidate is ever collected after a run, so the best-effort write has nothing to write.
-/

open Py

namespace Tomtit

structure RuntimeAgent (μ : Type) where
  planner : AgentState μ → Except Raised (List Step)
  tools : ToolRegistry μ
  executor : ToolExecutor μ
  compose : AgentState μ → PyStr
  /-- `retrieve_context_pack` of the client, given goal, user and session -/
  memoryClient : Option (PyStr → Option PyStr → Option PyStr → Except Raised ContextPack)

abbrev Trace (μ : Type) := List (Step × Executed μ)

section
variable (rt : Runtime) {μ : Type}

namespace AgentState

/-- `emit_event` -/
def emitEvent (name : PyStr) (stepIndex : Option Nat) (s : AgentState μ) : AgentState μ :=
  { s with history := s.history ++ [py "[event] " ++ name ++ py " status=" ++ s.status.value ++ py " step=" ++
      (stepIndex.map natText).getD (py "None")] }

def addHistory (lines : List PyStr) (s : AgentState μ) : AgentState μ :=
  { s with history := s.history ++ lines }

end AgentState

/-! ### disclosures -/

def memoryActions : List ToolName := [.writeNote, .saveFact, .savePreference, .saveDecision]

def memoryPlanActions : List ToolName := memoryActions ++ [.readNote, .answerFromContext]

def disclosureText : List (PyStr × PyStr) := [
  (py "memory_degraded",
    py "(Lưu ý: đang chạy ở chế độ memory rút gọn — ngữ cảnh dự án dài hạn có thể thiếu.)"),
  (py "memory_write_failed", py "(Lưu ý: lưu memory không thành công cho lần này.)")]

def appendDisclosures (draft : PyStr) (reasons : List PyStr) : PyStr :=
  let lines := reasons.filterMap fun r => disclosureText.lookup r
  if lines = [] then draft else draft ++ py "\n\n" ++ joinWith (py "\n") lines

/-- One of the two rules of `_apply_disclosure`. -/
def disclose (cond : Bool) (reason : PyStr) (s : AgentState μ) : AgentState μ :=
  if cond ∧ reason ∉ s.disclosureReasons then
    { s with disclosureReasons := s.disclosureReasons ++ [reason] }
  else s

def applyDisclosure (s : AgentState μ) : AgentState μ :=
  let s := disclose (s.memoryDegraded && s.plan.any fun step => step.action ∈ memoryPlanActions)
    (py "memory_degraded") s
  disclose (s.memoryWriteFailed && s.plan.any fun step => step.action ∈ memoryActions)
    (py "memory_write_failed") s

/-! ### the run -/

namespace RuntimeAgent
variable (agent : RuntimeAgent μ)

def retrieveMemory (s : AgentState μ) : Except PyExc (AgentState μ) :=
  match agent.memoryClient with
  | none => .ok s
  | some retrieveContextPack =>
    match retrieveContextPack s.goal s.userId s.sessionId with
    | .error (.textless e) => .error e
    | .error (.texted e) => .ok (s.fail (py "memory retrieve failed: " ++ e.msg))
    | .ok pack =>
      .ok { s with contextPack := some pack, memoryDegraded := s.memoryDegraded || pack.degraded }

/-- `_plan` -/
def plan (s : AgentState μ) : Except PyExc (AgentState μ) :=
  let s := { s with status := .planning }.emitEvent (py "planning_started") none
  let failed (e : PyExc) (s : AgentState μ) :=
    (s.fail (py "Plan validation failed: " ++ e.msg)).emitEvent (py "planning_failed") none
  match agent.planner s with
  | .error (.textless e) => .error e
  | .error (.texted e) => .ok (failed e s)
  | .ok plan =>
    let s := { s with plan }
    match validatePlan rt plan agent.tools with
    | .error e => .ok (failed e s)
    | .ok () =>
      .ok ((s.addHistory [py "Goal: " ++ s.goal, py "Plan length: " ++ natText plan.length]).emitEvent
        (py "planning_completed") none)

def startStep (stepIndex : Nat) (step : Step) (s : AgentState μ) : AgentState μ :=
  let label := py "[Step " ++ natText stepIndex ++ py "] "
  ({ s with currentStep := stepIndex }.addHistory
    [label ++ py "thought=" ++ step.thought, label ++ py "action=" ++ step.action.value]).emitEvent
    (py "step_started") (some stepIndex)

def completeStep (stepIndex : Nat) (step : Step) (text : PyStr) (s : AgentState μ) : AgentState μ :=
  let s := (s.addHistory [py "[Step " ++ natText stepIndex ++ py "] output=" ++ text]).emitEvent
    (py "step_completed") (some stepIndex)
  if step.action = .finish then s.emitEvent (py "finish_reached") (some stepIndex) else s

def breakStep (stepIndex : Nat) (result : ToolResult) (s : AgentState μ) : AgentState μ :=
  (s.fail (py "Tool error: " ++ result.error.getD (py "None"))).emitEvent (py "step_failed") (some stepIndex)

/-- One turn of the loop of `_execute_plan`. -/
def runStep (stepIndex : Nat) (step : Step) (s : AgentState μ) :
    Except PyExc (Executed μ × AgentState μ) := do
  let executed ← agent.executor.execute rt step (startStep stepIndex step s)
  if executed.result.success then
    let text ← stringifyOutput rt executed.result.output
    return (executed, completeStep stepIndex step text executed.state)
  else return (executed, breakStep stepIndex executed.result executed.state)

def executeSteps : Nat → List Step → AgentState μ → Except PyExc (Trace μ × AgentState μ)
  | _, [], s => .ok ([], s)
  | stepIndex, step :: steps, s =>
    if s.isTerminal then .ok ([], s)
    else if (stepIndex : Int) > s.maxSteps then do
      let bound ← strInt rt s.maxSteps
      return ([], (s.fail (py "Max steps exceeded: " ++ bound)).emitEvent (py "run_failed") (some stepIndex))
    else do
      let (executed, s) ← agent.runStep rt stepIndex step s
      if executed.result.success ∧ step.action ≠ .finish then
        let (trace, s) ← executeSteps (stepIndex + 1) steps s
        return ((step, executed) :: trace, s)
      else return ([(step, executed)], s)

/-- `_execute_plan` up to its loop. -/
def startRun (s : AgentState μ) : AgentState μ :=
  { s with status := .running }.emitEvent (py "running_started") none

def finalizeRun (s : AgentState μ) : AgentState μ :=
  if s.done then s
  else
    let draft := agent.compose s
    let s := applyDisclosure s
    (s.complete (appendDisclosures draft s.disclosureReasons)).emitEvent (py "run_completed") none

def run (s : AgentState μ) : Except PyExc (Trace μ × AgentState μ) := do
  let s ← agent.retrieveMemory s
  if s.isTerminal then return ([], agent.finalizeRun s)
  else
    let s ← agent.plan rt s
    if s.isTerminal then return ([], agent.finalizeRun s)
    else do
      let (trace, s) ← agent.executeSteps rt 1 s.plan (startRun s)
      return (trace, agent.finalizeRun s)

end RuntimeAgent
end
end Tomtit
