import TomtitAgent.State.AgentState

/-!
# `tools/executor.py`: one step of a plan

* `ToolSpec`, `ToolRegistry`   the tools; a tool returns a result or raises, and may write the workspace;
* `policyCheck`, `approvalCheck`   the default policy engine and approval gate;
* `ToolExecutor`, `execute`    resolve, validate, check, call, record;
* `Recorded`                   what one step does to a run: one observation and the last result;
* `execute_records`            every executed step records exactly one result, if its source reference
                               can be rendered and no exception without a text comes out;
* `KeepsLog`, `execute_calls`  of tools that keep a log of their calls, at most one call, behind the checks.
-/

open Py

namespace Tomtit

/-- An exception of code from outside: it has a text, or `str` of it raises another one. -/
inductive Raised where
  | texted (e : PyExc)
  | textless (e : PyExc)

/-- How a call of a tool function ends, where it does not raise an exception that has a text. -/
inductive Returned where
  | result (r : ToolResult)
  | other (typeName : PyStr)
  /-- it raised an exception of which `str` raises this one -/
  | textless (e : PyExc)

structure ToolSpec (μ : Type) where
  name : ToolName
  fn : Dict PyStr Value → AgentState μ → Except PyExc Returned × Workspace μ
  requiredArgs : List PyStr
  allowedArgs : List PyStr
  mutatesState : Bool := false
  riskLevel : RiskLevel := .low
  requiresApproval : Bool := false
  /-- `args_schema.model_validate(args).model_dump()` -/
  argsSchema : Dict PyStr Value → Except PyExc (Dict PyStr Value)

abbrev ToolRegistry (μ : Type) := Dict ToolName (ToolSpec μ)

/-! ### policy and approval -/

structure Decision where
  granted : Bool
  reason : PyStr := []

section
variable {μ : Type}

/-- `PolicyEngine.check` -/
def policyCheck (tool : ToolSpec μ) (s : AgentState μ) : Decision :=
  if tool.riskLevel = .high ∨ tool.riskLevel = .critical then
    ⟨false, py "Tool '" ++ tool.name.value ++ py "' is high risk and blocked by MVP policy."⟩
  else if tool.mutatesState ∧ s.readOnly then
    ⟨false, py "Tool '" ++ tool.name.value ++ py "' mutates state but current run is read-only."⟩
  else ⟨true, []⟩

/-- `ApprovalGate.check` -/
def approvalCheck (tool : ToolSpec μ) (s : AgentState μ) : Decision :=
  if ¬ tool.requiresApproval ∨ tool.name ∈ s.approvedTools then ⟨true, []⟩
  else ⟨false, py "Tool '" ++ tool.name.value ++ py "' requires user approval before execution."⟩

/-- The executor with what it is built from. -/
structure ToolExecutor (μ : Type) where
  tools : ToolRegistry μ
  resolveArgs : Dict PyStr Value → AgentState μ → Except PyExc (Dict PyStr Value)
  policy : ToolSpec μ → Dict PyStr Value → AgentState μ → Except Raised Decision :=
    fun tool _ s => .ok (policyCheck tool s)
  approval : ToolSpec μ → Dict PyStr Value → AgentState μ → Except Raised Decision :=
    fun tool _ s => .ok (approvalCheck tool s)

/-! ### recording -/

/-- `tool_observation_ref`, of a tool name that is not blank. -/
def toolObservationRef (taskId stepId toolName : PyStr) : Except PyExc PyStr :=
  if blank taskId then .error (valueError (py "task_id must be a non-blank string"))
  else if blank stepId then .error (valueError (py "step_id must be a non-blank string"))
  else .ok (py "task:" ++ strip taskId ++ py "/step:" ++ strip stepId ++ py "/tool:" ++ toolName)

/-- `_record_result` -/
def recordResult (rt : Runtime) (step : Step) (args : Dict PyStr Value) (result : ToolResult)
    (s : AgentState μ) : Except PyExc (AgentState μ) := do
  let sourceRef ← toolObservationRef s.taskId step.id step.action.value
  { s with lastResult := some result }.addObservation rt {
    stepIndex := s.currentStep
    action := step.action.value
    args
    success := result.success
    sourceRef
    output := result.output
    error := result.error
    sources := result.sources }

structure Executed (μ : Type) where
  result : ToolResult
  state : AgentState μ

/-- `_error`, with the part of its metadata that is read. -/
def toolError (step : Step) (message errorType : PyStr) : ToolResult where
  success := false
  error := some message
  toolName := some step.action.value
  metadata := [(py "error_type", .str errorType)]

/-- `_fail` -/
def failStep (rt : Runtime) (step : Step) (message errorType : PyStr) (args : Dict PyStr Value)
    (s : AgentState μ) : Except PyExc (Executed μ) := do
  let result := toolError step message errorType
  let state ← recordResult rt step args result s
  return ⟨result, state⟩

/-! ### one step -/

section
variable (rt : Runtime)

/-- `repr` of a list of strings. -/
def reprStrs (xs : List PyStr) : PyStr := 91 :: (joinWith (py ", ") (xs.map (reprStr rt)) ++ [93])

def toolArgsError (msg : PyStr) : PyExc := ⟨["ToolArgsError", "ValueError"], msg⟩

/-- The names of `xs` that are not in `ys`, `sorted(set(xs) - set(ys))`. -/
def missingFrom (xs ys : List PyStr) : List PyStr := sortedSet (xs.filter fun x => x ∉ ys)

/-- `_validate_args` -/
def validateArgs (tool : ToolSpec μ) (args : Dict PyStr Value) : Except PyExc (Dict PyStr Value) := do
  let names := args.items.map Prod.fst
  let unknownArgs := missingFrom names tool.allowedArgs
  raiseIf (unknownArgs ≠ []) (toolArgsError (py "Unknown args for tool '" ++ tool.name.value ++
    py "': " ++ reprStrs rt unknownArgs))
  let missingArgs := missingFrom tool.requiredArgs names
  raiseIf (missingArgs ≠ []) (toolArgsError (py "Missing required args for tool '" ++ tool.name.value ++
    py "': " ++ reprStrs rt missingArgs))
  tool.argsSchema args

inductive Prepared where
  | ready (args : Dict PyStr Value)
  | denied (reason errorType : PyStr) (args : Dict PyStr Value)

/-- The `try` block before the call, up to its `_fail` calls. -/
def ToolExecutor.prepare (ex : ToolExecutor μ) (tool : ToolSpec μ) (step : Step) (s : AgentState μ) :
    Except Raised Prepared := do
  let resolvedArgs ← (ex.resolveArgs step.args s).mapError .texted
  let finalArgs ← (validateArgs rt tool resolvedArgs).mapError .texted
  let policy ← ex.policy tool finalArgs s
  if policy.granted then
    let approval ← ex.approval tool finalArgs s
    if approval.granted then return .ready finalArgs
    else return .denied approval.reason (py "ApprovalRequired") finalArgs
  else return .denied policy.reason (py "PolicyDenied") finalArgs

/-- The two `except` clauses around the preparation, of an exception with a text. -/
def failPrepare (step : Step) (e : PyExc) (s : AgentState μ) : Except PyExc (Executed μ) :=
  if e.isA "ValidationError" ∨ e.isA "ToolArgsError" then
    failStep rt step (py "Invalid args for tool '" ++ step.action.value ++ py "': " ++ e.msg)
      (py "InvalidToolArgs") Dict.empty s
  else
    failStep rt step (py "Failed to resolve or validate args for tool '" ++ step.action.value ++ py "': " ++
      e.msg) (excName e) Dict.empty s

def setCalcResult (step : Step) (result : ToolResult) (s : AgentState μ) : AgentState μ :=
  match step.action, result.output with
  | .calculate, .calculate _ value =>
    { s with workspace := { s.workspace with
      slots := s.workspace.slots.set (py "calc_result") (.data value) } }
  | _, _ => s

/-- `if not result.tool_name: result.tool_name = tool_name.value` -/
def nameResult (step : Step) (result : ToolResult) : ToolResult :=
  if result.toolName.getD [] = [] then { result with toolName := some step.action.value } else result

def callTool (tool : ToolSpec μ) (step : Step) (args : Dict PyStr Value) (s : AgentState μ) :
    Except PyExc (Executed μ) :=
  let (returned, workspace) := tool.fn args s
  let s := { s with workspace }
  match returned with
  | .error e =>
    failStep rt step (py "Tool '" ++ step.action.value ++ py "' crashed: " ++ e.msg) (excName e) args s
  | .ok (.other _) =>
    failStep rt step (py "Tool '" ++ step.action.value ++ py "' returned invalid result type.")
      (py "InvalidToolResult") args s
  | .ok (.textless e) => .error e
  | .ok (.result r) => do
    let result := nameResult step r
    let state ← recordResult rt step args result (setCalcResult step result s)
    return ⟨result, state⟩

/-- `ToolExecutor.execute` -/
def ToolExecutor.execute (ex : ToolExecutor μ) (step : Step) (s : AgentState μ) :
    Except PyExc (Executed μ) :=
  match ex.tools.get? step.action with
  | none => failStep rt step (py "Unknown tool: " ++ step.action.value) (py "UnknownTool") Dict.empty s
  | some tool =>
    match ex.prepare rt tool step s with
    | .error (.textless e) => .error e
    | .error (.texted e) => failPrepare rt step e s
    | .ok (.denied reason errorType args) =>
      -- this `_fail` stands inside the `try`
      match failStep rt step reason errorType args s with
      | .error e => failPrepare rt step e s
      | .ok executed => .ok executed
    | .ok (.ready args) => callTool rt tool step args s

/-! ### what a step leaves behind -/

theorem mapError_eq_ok {ε ε' α : Type} {x : Except ε α} {f : ε → ε'} {a : α} : x.mapError f = .ok a ↔ x = .ok a := by
  cases x <;> simp [Except.mapError]

structure SameRun (s s' : AgentState μ) : Prop where
  status : s'.status = s.status
  done : s'.done = s.done
  taskId : s'.taskId = s.taskId
  maxSteps : s'.maxSteps = s.maxSteps
  plan : s'.plan = s.plan
  memoryDegraded : s'.memoryDegraded = s.memoryDegraded

namespace SameRun

theorem refl (s : AgentState μ) : SameRun s s := ⟨rfl, rfl, rfl, rfl, rfl, rfl⟩

theorem trans {s s' s'' : AgentState μ} (h : SameRun s s') (h' : SameRun s' s'') : SameRun s s'' :=
  ⟨h'.status.trans h.status, h'.done.trans h.done, h'.taskId.trans h.taskId, h'.maxSteps.trans h.maxSteps,
    h'.plan.trans h.plan, h'.memoryDegraded.trans h.memoryDegraded⟩

end SameRun

/-- One observation of the step, with its outcome, and nothing else of the run. -/
structure Recorded (step : Step) (s : AgentState μ) (x : Executed μ) : Prop where
  same : SameRun s x.state
  observed : ∃ obs, x.state.observations = s.observations ++ [obs] ∧ obs.stepIndex = s.currentStep ∧
    obs.action = step.action.value ∧ obs.success = x.result.success
  lastResult : x.state.lastResult = some x.result

def Named (step : Step) (s : AgentState μ) : Prop := blank s.taskId = false ∧ blank step.id = false

/-- Where the result brings sources, every source has a key. -/
def SourcesKeyed (sources : List Source) (s : AgentState μ) : Prop :=
  sources = [] ∨ ∀ src ∈ s.sources ++ sources, src.Keyed rt

theorem recordResult_ok {step : Step} {s : AgentState μ} (h : Named step s) (args : Dict PyStr Value)
    {result : ToolResult} (hsources : SourcesKeyed rt result.sources s) :
    ∃ s', recordResult rt step args result s = .ok s' ∧
      Recorded step s ⟨result, s'⟩ := by
  unfold recordResult toolObservationRef
  rw [h.1, h.2, if_neg Bool.false_ne_true, if_neg Bool.false_ne_true]
  obtain ⟨s', hs'⟩ := (AgentState.addObservation_ok rt
    ⟨s.currentStep, step.action.value, args, result.success, _, result.output, result.error, result.sources⟩
    { s with lastResult := some result }).mpr hsources
  obtain ⟨sources, rfl⟩ := AgentState.addObservation_eq hs'
  exact ⟨_, hs', ⟨rfl, rfl, rfl, rfl, rfl, rfl⟩, ⟨_, rfl, rfl, rfl, rfl⟩, rfl⟩

theorem recordResult_error {step : Step} {s : AgentState μ} (args : Dict PyStr Value) {result : ToolResult}
    (h : ¬ (Named step s ∧ SourcesKeyed rt result.sources s)) :
    ∃ e, recordResult rt step args result s = .error e := by
  cases hrecord : recordResult rt step args result s with
  | error e => exact ⟨e, rfl⟩
  | ok s' =>
    obtain ⟨sourceRef, href, hobs⟩ := bind_eq_ok.mp hrecord
    refine absurd ⟨?_, (AgentState.addObservation_ok rt _ _).mp ⟨s', hobs⟩⟩ h
    unfold toolObservationRef at href
    split at href
    · cases href
    · next htask =>
      split at href
      · cases href
      · next hstep => exact ⟨Bool.eq_false_iff.mpr htask, Bool.eq_false_iff.mpr hstep⟩

/-- A step records its result under a condition, and raises otherwise. -/
def Records (cond : Prop) (step : Step) (s : AgentState μ) (y : Except PyExc (Executed μ)) : Prop :=
  (cond → ∃ x, y = .ok x ∧ Recorded step s x) ∧ (¬ cond → ∃ e, y = .error e)

theorem recordResult_records (step : Step) (args : Dict PyStr Value) (result : ToolResult)
    (s : AgentState μ) : Records (Named step s ∧ SourcesKeyed rt result.sources s) step s (do
      let state ← recordResult rt step args result s
      return ⟨result, state⟩) := by
  constructor
  · rintro ⟨hnamed, hsources⟩
    obtain ⟨s', hs', hrec⟩ := recordResult_ok rt hnamed args hsources
    exact ⟨_, bind_eq_ok.mpr ⟨s', hs', rfl⟩, hrec⟩
  · intro h
    obtain ⟨e, he⟩ := recordResult_error rt args h
    refine ⟨e, ?_⟩
    rw [he]
    rfl

theorem failStep_records (step : Step) (message errorType : PyStr) (args : Dict PyStr Value)
    (s : AgentState μ) : Records (Named step s) step s (failStep rt step message errorType args s) := by
  have h := recordResult_records rt step args (toolError step message errorType) s
  rw [and_iff_left (show SourcesKeyed rt (toolError step message errorType).sources s from .inl rfl)] at h
  exact h

theorem failPrepare_records (step : Step) (e : PyExc) (s : AgentState μ) :
    Records (Named step s) step s (failPrepare rt step e s) := by
  unfold failPrepare
  split
  · exact failStep_records ..
  · exact failStep_records ..

theorem Records.of_workspace {cond : Prop} {step : Step} {s : AgentState μ} {w : Workspace μ}
    {y : Except PyExc (Executed μ)} (h : Records cond step { s with workspace := w } y) :
    Records cond step s y :=
  ⟨fun hc => by
    obtain ⟨x, hx, hrec⟩ := h.1 hc
    exact ⟨x, hx, ⟨hrec.same.status, hrec.same.done, hrec.same.taskId, hrec.same.maxSteps, hrec.same.plan,
      hrec.same.memoryDegraded⟩, hrec.observed, hrec.lastResult⟩,
   fun hc => h.2 hc⟩

theorem setCalcResult_workspace (step : Step) (result : ToolResult) (s : AgentState μ) :
    ∃ w, setCalcResult step result s = { s with workspace := w } := by
  unfold setCalcResult
  split
  · exact ⟨_, rfl⟩
  · exact ⟨s.workspace, rfl⟩

/-- The tool, called with these arguments, raises an exception without a text, or returns a result with
sources of which one, old or new, has no key. -/
def ToolSpec.Escapes (tool : ToolSpec μ) (args : Dict PyStr Value) (s : AgentState μ) : Prop :=
  (∃ e, (tool.fn args s).1 = .ok (.textless e)) ∨
    ∃ r, (tool.fn args s).1 = .ok (.result r) ∧ ¬ SourcesKeyed rt r.sources s

theorem nameResult_sources (step : Step) (result : ToolResult) :
    (nameResult step result).sources = result.sources := by
  unfold nameResult
  split <;> rfl

theorem callTool_records (tool : ToolSpec μ) (step : Step) (args : Dict PyStr Value) (s : AgentState μ) :
    Records (Named step s ∧ ¬ tool.Escapes rt args s) step s (callTool rt tool step args s) := by
  unfold callTool ToolSpec.Escapes
  obtain ⟨returned, workspace⟩ := tool.fn args s
  have hnone : ∀ {P : Prop}, ¬ P → (Named step s ∧ ¬ P ↔ Named step s) := fun h => and_iff_left h
  cases returned with
  | error e =>
    rw [hnone (by simp)]
    have h := failStep_records rt step (py "Tool '" ++ step.action.value ++ py "' crashed: " ++ e.msg) (excName e)
      args { s with workspace }
    exact Records.of_workspace (w := workspace) h
  | ok value =>
    cases value with
    | other typeName =>
      rw [hnone (by simp)]
      have h := failStep_records rt step
        (py "Tool '" ++ step.action.value ++ py "' returned invalid result type.") (py "InvalidToolResult")
        args { s with workspace }
      exact Records.of_workspace (w := workspace) h
    | textless e => exact ⟨fun h => absurd (.inl ⟨e, rfl⟩) h.2, fun _ => ⟨e, rfl⟩⟩
    | result r =>
      have hcond : (Named step s ∧ ¬ ((∃ e, (Except.ok (.result r) : Except PyExc Returned) = .ok (.textless e)) ∨
          ∃ r', (Except.ok (.result r) : Except PyExc Returned) = .ok (.result r') ∧ ¬ SourcesKeyed rt r'.sources s)) ↔
          Named step s ∧ SourcesKeyed rt (nameResult step r).sources s := by
        rw [nameResult_sources]
        simp
      rw [hcond]
      obtain ⟨w, hw⟩ := setCalcResult_workspace step (nameResult step r) { s with workspace }
      have h := recordResult_records rt step args (nameResult step r) { s with workspace := w }
      dsimp only
      rw [hw]
      exact h.of_workspace

/-- The tool of the step is called, and lets an exception out. -/
def ToolExecutor.CallEscapes (ex : ToolExecutor μ) (step : Step) (s : AgentState μ) : Prop :=
  ∃ tool args, ex.tools.get? step.action = some tool ∧ ex.prepare rt tool step s = .ok (.ready args) ∧
    tool.Escapes rt args s

/-- A policy or an approval raises an exception without a text, or the tool lets one out. -/
def ToolExecutor.Escapes (ex : ToolExecutor μ) (step : Step) (s : AgentState μ) : Prop :=
  (∃ tool e, ex.tools.get? step.action = some tool ∧ ex.prepare rt tool step s = .error (.textless e)) ∨
    ex.CallEscapes rt step s

/-- A step records exactly one observation, unless its source reference cannot be rendered or an exception
without a text comes out. -/
theorem execute_records (ex : ToolExecutor μ) (step : Step) (s : AgentState μ) :
    Records (Named step s ∧ ¬ ex.Escapes rt step s) step s (ex.execute rt step s) := by
  unfold ToolExecutor.execute ToolExecutor.Escapes ToolExecutor.CallEscapes
  cases ex.tools.get? step.action with
  | none =>
    rw [and_iff_left (by simp)]
    exact failStep_records ..
  | some tool =>
    dsimp only
    cases hprepare : ex.prepare rt tool step s with
    | error raised =>
      cases raised with
      | textless e => exact ⟨fun h => absurd (.inl ⟨tool, e, rfl, hprepare⟩) h.2, fun _ => ⟨e, rfl⟩⟩
      | texted e =>
        rw [and_iff_left (by simp [hprepare])]
        exact failPrepare_records ..
    | ok prepared =>
      cases prepared with
      | ready args =>
        have hcond : ((∃ tool' e, some tool = some tool' ∧ ex.prepare rt tool' step s = .error (.textless e)) ∨
            ∃ tool' args', some tool = some tool' ∧ ex.prepare rt tool' step s = .ok (.ready args') ∧
              tool'.Escapes rt args' s) ↔ tool.Escapes rt args s := by
          simp [hprepare]
        rw [hcond]
        exact callTool_records ..
      | denied reason errorType args =>
        rw [and_iff_left (by simp [hprepare])]
        have h := failStep_records rt step reason errorType args s
        dsimp only
        cases hf : failStep rt step reason errorType args s with
        | ok x =>
          rw [hf] at h
          exact h
        | error e => exact failPrepare_records rt step e s

theorem execute_returned {ex : ToolExecutor μ} {step : Step} {s : AgentState μ} {x : Executed μ}
    (h : ex.execute rt step s = .ok x) :
    (Named step s ∧ ¬ ex.Escapes rt step s) ∧ Recorded step s x := by
  obtain ⟨hrecords, hraises⟩ := execute_records rt ex step s
  have hcond : Named step s ∧ ¬ ex.Escapes rt step s := by
    by_contra hn
    obtain ⟨e, he⟩ := hraises hn
    rw [h] at he
    exact absurd he (by simp)
  obtain ⟨y, hy, hrec⟩ := hrecords hcond
  rw [h] at hy
  rw [← Except.ok.inj hy] at hrec
  exact ⟨hcond, hrec⟩

/-! ### the calls of the tools -/

/-- A call of a tool function, by the name and the arguments. -/
abbrev ToolCall := ToolName × Dict PyStr Value

/-- Every tool adds its call to a log in the memory. -/
def KeepsLog (tools : ToolRegistry μ) (log : μ → List ToolCall) : Prop :=
  ∀ action tool, tools.get? action = some tool → ∀ args (s : AgentState μ),
    log (tool.fn args s).2.memory = log s.workspace.memory ++ [(action, args)]

theorem recordResult_workspace {step : Step} {args : Dict PyStr Value} {result : ToolResult} {s s' : AgentState μ}
    (h : recordResult rt step args result s = .ok s') : s'.workspace = s.workspace := by
  obtain ⟨sourceRef, -, hobs⟩ := bind_eq_ok.mp h
  obtain ⟨sources, rfl⟩ := AgentState.addObservation_eq hobs
  rfl

theorem failStep_kept {step : Step} {message errorType : PyStr} {args : Dict PyStr Value} {s : AgentState μ}
    {x : Executed μ} (h : failStep rt step message errorType args s = .ok x) :
    x.result.success = false ∧ x.state.workspace = s.workspace := by
  obtain ⟨s', hs', h⟩ := bind_eq_ok.mp h
  rw [← Except.ok.inj h]
  exact ⟨rfl, recordResult_workspace rt hs'⟩

theorem failPrepare_kept {step : Step} {e : PyExc} {s : AgentState μ} {x : Executed μ}
    (h : failPrepare rt step e s = .ok x) : x.result.success = false ∧ x.state.workspace = s.workspace := by
  unfold failPrepare at h
  split at h
  · exact failStep_kept rt h
  · exact failStep_kept rt h

theorem setCalcResult_memory (step : Step) (result : ToolResult) (s : AgentState μ) :
    (setCalcResult step result s).workspace.memory = s.workspace.memory := by
  unfold setCalcResult
  split <;> rfl

theorem callTool_memory {tool : ToolSpec μ} {step : Step} {args : Dict PyStr Value} {s : AgentState μ}
    {x : Executed μ} (h : callTool rt tool step args s = .ok x) :
    x.state.workspace.memory = (tool.fn args s).2.memory := by
  unfold callTool at h
  rcases hfn : tool.fn args s with ⟨returned, w⟩
  rw [hfn] at h
  cases returned with
  | error e => exact congrArg Workspace.memory (failStep_kept rt h).2
  | ok value =>
    cases value with
    | other typeName => exact congrArg Workspace.memory (failStep_kept rt h).2
    | textless e => cases h
    | result r =>
      obtain ⟨s', hs', h⟩ := bind_eq_ok.mp h
      rw [← Except.ok.inj h]
      exact (congrArg Workspace.memory (recordResult_workspace rt hs')).trans (setCalcResult_memory _ _ _)

/-- A step that returns failed and left the workspace alone, or its tool was called with arguments that
passed every check. -/
theorem execute_workspace {ex : ToolExecutor μ} {step : Step} {s : AgentState μ} {x : Executed μ}
    (h : ex.execute rt step s = .ok x) : x.result.success = false ∧ x.state.workspace = s.workspace ∨
      ∃ tool args, ex.tools.get? step.action = some tool ∧ ex.prepare rt tool step s = .ok (.ready args) ∧
        callTool rt tool step args s = .ok x := by
  unfold ToolExecutor.execute at h
  cases htool : ex.tools.get? step.action with
  | none =>
    rw [htool] at h
    exact .inl (failStep_kept rt h)
  | some tool =>
    rw [htool] at h
    dsimp only at h
    cases hprepare : ex.prepare rt tool step s with
    | error raised =>
      rw [hprepare] at h
      cases raised with
      | textless e => cases h
      | texted e => exact .inl (failPrepare_kept rt h)
    | ok prepared =>
      rw [hprepare] at h
      cases prepared with
      | ready args => exact .inr ⟨tool, args, rfl, hprepare, h⟩
      | denied reason errorType args =>
        dsimp only at h
        cases hf : failStep rt step reason errorType args s with
        | ok y =>
          rw [hf] at h
          rw [← Except.ok.inj h]
          exact .inl (failStep_kept rt hf)
        | error e =>
          rw [hf] at h
          exact .inl (failPrepare_kept rt h)

/-- A step that returns called one tool, its own, with arguments that passed every check, or it failed and
called none. -/
theorem execute_calls {ex : ToolExecutor μ} {step : Step} {s : AgentState μ} {x : Executed μ}
    (h : ex.execute rt step s = .ok x) {log : μ → List ToolCall} (hlog : KeepsLog ex.tools log) :
    ∃ calls, log x.state.workspace.memory = log s.workspace.memory ++ calls ∧
      (calls = [] ∧ x.result.success = false ∨ ∃ tool args, calls = [(step.action, args)] ∧
        ex.tools.get? step.action = some tool ∧ ex.prepare rt tool step s = .ok (.ready args)) := by
  rcases execute_workspace rt h with ⟨hfail, hkept⟩ | ⟨tool, args, htool, hprepare, hcall⟩
  · exact ⟨[], by rw [hkept, List.append_nil], .inl ⟨rfl, hfail⟩⟩
  · refine ⟨[(step.action, args)], ?_, .inr ⟨tool, args, rfl, htool, hprepare⟩⟩
    rw [callTool_memory rt hcall, hlog step.action tool htool]

/-! ### steps that succeed -/

/-- The state after a tool that is not the calculator has returned a named result. -/
structure Returns (s : AgentState μ) (r : ToolResult) (w : Workspace μ) (s' : AgentState μ) : Prop where
  same : SameRun s s'
  workspace : s'.workspace = w
  lastResult : s'.lastResult = some r
  readOnly : s'.readOnly = s.readOnly

theorem callTool_result {tool : ToolSpec μ} {step : Step} {args : Dict PyStr Value} {s : AgentState μ}
    {r : ToolResult} {w : Workspace μ} (hnamed : Named step s)
    (hfn : tool.fn args s = (.ok (.result r), w)) (haction : step.action ≠ .calculate)
    (hname : r.toolName.getD [] ≠ []) (hsources : r.sources = []) :
    ∃ s', callTool rt tool step args s = .ok ⟨r, s'⟩ ∧ Returns s r w s' := by
  have hresult : nameResult step r = r := if_neg hname
  have hcalc : setCalcResult step r { s with workspace := w } = { s with workspace := w } := by
    unfold setCalcResult
    split
    · next hcalculate _ => exact absurd hcalculate haction
    · rfl
  unfold callTool
  rw [hfn]
  dsimp only
  rw [hresult, hcalc]
  unfold recordResult toolObservationRef AgentState.addObservation
  rw [hnamed.1, hnamed.2, if_neg Bool.false_ne_true, if_neg Bool.false_ne_true, hsources]
  exact ⟨_, rfl, ⟨rfl, rfl, rfl, rfl, rfl, rfl⟩, rfl, rfl, rfl⟩

theorem callTool_success {tool : ToolSpec μ} {step : Step} {args : Dict PyStr Value} {s : AgentState μ}
    {x : Executed μ} (h : callTool rt tool step args s = .ok x) (hs : x.result.success = true) :
    ∃ r w, tool.fn args s = (.ok (.result r), w) := by
  unfold callTool at h
  cases hfn : tool.fn args s with
  | mk returned w =>
    rw [hfn] at h
    cases returned with
    | error e =>
      rw [(failStep_kept rt h).1] at hs
      exact absurd hs (by simp)
    | ok value =>
      cases value with
      | other typeName =>
        rw [(failStep_kept rt h).1] at hs
        exact absurd hs (by simp)
      | textless e => cases h
      | result r => exact ⟨r, w, rfl⟩

theorem execute_success {ex : ToolExecutor μ} {step : Step} {s : AgentState μ} {x : Executed μ}
    (h : ex.execute rt step s = .ok x) (hs : x.result.success = true) :
    ∃ tool args, ex.tools.get? step.action = some tool ∧ ex.prepare rt tool step s = .ok (.ready args) ∧
      callTool rt tool step args s = .ok x := by
  rcases execute_workspace rt h with ⟨hfail, -⟩ | hcalled
  · rw [hfail] at hs
    exact absurd hs Bool.false_ne_true
  · exact hcalled

theorem execute_ready {ex : ToolExecutor μ} {tool : ToolSpec μ} {step : Step} {args : Dict PyStr Value}
    {s : AgentState μ} (htool : ex.tools.get? step.action = some tool)
    (hprepare : ex.prepare rt tool step s = .ok (.ready args)) :
    ex.execute rt step s = callTool rt tool step args s := by
  unfold ToolExecutor.execute
  rw [htool]
  dsimp only
  rw [hprepare]

theorem prepare_ready {ex : ToolExecutor μ} {tool : ToolSpec μ} {step : Step} {args : Dict PyStr Value}
    {s : AgentState μ} (h : ex.prepare rt tool step s = .ok (.ready args)) :
    ∃ resolved, ex.resolveArgs step.args s = .ok resolved ∧ validateArgs rt tool resolved = .ok args := by
  obtain ⟨resolved, hresolved, h⟩ := bind_eq_ok.mp h
  obtain ⟨final, hfinal, h⟩ := bind_eq_ok.mp h
  obtain ⟨policy, -, h⟩ := bind_eq_ok.mp h
  refine ⟨resolved, mapError_eq_ok.mp hresolved, ?_⟩
  split at h
  · obtain ⟨approval, -, h⟩ := bind_eq_ok.mp h
    split at h
    · cases h
      exact mapError_eq_ok.mp hfinal
    · cases h
  · cases h

theorem validateArgs_eq_ok {tool : ToolSpec μ} {args final : Dict PyStr Value} :
    validateArgs rt tool args = .ok final ↔ missingFrom args.keys tool.allowedArgs = [] ∧
      missingFrom tool.requiredArgs args.keys = [] ∧ tool.argsSchema args = .ok final := by
  unfold validateArgs
  simp only [bind_eq_ok, raiseIf_eq_ok, not_not]
  constructor
  · rintro ⟨_, h, _, h', h''⟩
    exact ⟨h, h', h''⟩
  · rintro ⟨h, h', h''⟩
    exact ⟨(), h, (), h', h''⟩

end
end
end Tomtit
