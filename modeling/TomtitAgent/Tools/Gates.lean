import TomtitAgent.Python.SmallRuntime
import TomtitAgent.Tools.ArgResolver

/-!
# The gates in front of a tool

* `defaultExecutor`   `ToolExecutor(tools, ArgResolver())`, with the default policy and approval;
* `Guarded`           one observation, the last result, and a tool that is called once at most, behind its gates;
* `guarded_iff`       every registered step is guarded, unless its tool lets an exception out.

`execute` reads the text of an exception that a tool raised, and the keys of the sources that it returned,
outside every `try`.
-/

open Py

namespace Tomtit

section
variable (rt : Runtime) (objects : ObjectRuntime) {μ : Type}

def defaultExecutor (tools : ToolRegistry μ) : ToolExecutor μ where
  tools := tools
  resolveArgs := ArgResolver.resolveArgs rt objects

/-- The arguments that the resolver and the schema make of the step's, for a tool that the policy and the
approval let pass. -/
structure Passes (tools : ToolRegistry μ) (step : Step) (s : AgentState μ) (tool : ToolSpec μ)
    (args : Dict PyStr Value) : Prop where
  registered : tools.get? step.action = some tool
  validated : ∃ resolved, ArgResolver.resolveArgs rt objects step.args s = .ok resolved ∧
    validateArgs rt tool resolved = .ok args
  allowed : (policyCheck tool s).granted = true
  approved : (approvalCheck tool s).granted = true

/-- What `execute` is for: whatever log the tools keep, it grows by one call at most, of arguments that have
passed, and the memory is that of one such call or as it was. -/
structure Guarded (tools : ToolRegistry μ) (step : Step) (s : AgentState μ) (x : Executed μ) : Prop where
  recorded : Recorded step s x
  called : ∀ log : μ → List ToolCall, KeepsLog tools log →
    log x.state.workspace.memory = log s.workspace.memory ∨
      ∃ tool args, Passes rt objects tools step s tool args ∧
        log x.state.workspace.memory = log s.workspace.memory ++ [(step.action, args)]
  memory : x.state.workspace = s.workspace ∨ ∃ tool args, Passes rt objects tools step s tool args ∧
    x.state.workspace.memory = (tool.fn args s).2.memory

variable {rt objects} {tools : ToolRegistry μ} {step : Step} {s : AgentState μ} {x : Executed μ}

/-- Arguments that are ready have passed the resolver, the schema, the policy and the approval. -/
theorem prepare_passes {tool : ToolSpec μ} {args : Dict PyStr Value} (htool : tools.get? step.action = some tool)
    (h : (defaultExecutor rt objects tools).prepare rt tool step s = .ok (.ready args)) :
    Passes rt objects tools step s tool args := by
  obtain ⟨resolved, hresolved, h⟩ := bind_eq_ok.mp h
  obtain ⟨final, hfinal, h⟩ := bind_eq_ok.mp h
  obtain ⟨policy, hpolicyOk, h⟩ := bind_eq_ok.mp h
  have hpolicy : policyCheck tool s = policy := Except.ok.inj hpolicyOk
  split at h
  · next hallowed =>
    obtain ⟨approval, happrovalOk, h⟩ := bind_eq_ok.mp h
    have happroval : approvalCheck tool s = approval := Except.ok.inj happrovalOk
    split at h
    · next happroved =>
      cases h
      exact ⟨htool, ⟨resolved, mapError_eq_ok.mp hresolved, mapError_eq_ok.mp hfinal⟩, hpolicy.symm ▸ hallowed,
        happroval.symm ▸ happroved⟩
    · cases h
  · cases h

theorem execute_guarded (h : (defaultExecutor rt objects tools).execute rt step s = .ok x) :
    Guarded rt objects tools step s x := by
  refine ⟨(execute_returned rt h).2, fun log hlog => ?_, ?_⟩
  · obtain ⟨calls, hcalls, ⟨rfl, -⟩ | ⟨tool, args, rfl, htool, hprepare⟩⟩ := execute_calls rt h hlog
    · rw [List.append_nil] at hcalls
      exact .inl hcalls
    · exact .inr ⟨tool, args, prepare_passes htool hprepare, hcalls⟩
  · rcases execute_workspace rt h with ⟨-, hkept⟩ | ⟨tool, args, htool, hprepare, hcall⟩
    · exact .inl hkept
    · exact .inr ⟨tool, args, prepare_passes htool hprepare, callTool_memory rt hcall⟩

theorem bind_eq_error {ε α β : Type} {y : Except ε α} {f : α → Except ε β} {e : ε} :
    (y >>= f) = .error e ↔ y = .error e ∨ ∃ a, y = .ok a ∧ f a = .error e := by
  cases y with
  | error e' => simp [bind, Except.bind]
  | ok a => simp [bind, Except.bind]

/-- The default policy and approval raise nothing, and the exceptions of the resolver and the schema have texts. -/
theorem prepare_texted (tool : ToolSpec μ) (step : Step) (s : AgentState μ) (e : PyExc) :
    (defaultExecutor rt objects tools).prepare rt tool step s ≠ .error (.textless e) := by
  have htexted : ∀ {α : Type} (y : Except PyExc α), y.mapError Raised.texted ≠ .error (.textless e) := by
    intro α y
    cases y <;> simp [Except.mapError]
  intro h
  rcases bind_eq_error.mp h with h | ⟨resolved, -, h⟩
  · exact htexted _ h
  rcases bind_eq_error.mp h with h | ⟨final, -, h⟩
  · exact htexted _ h
  rcases bind_eq_error.mp h with h | ⟨policy, -, h⟩
  · exact absurd h (by simp [defaultExecutor])
  split at h
  · rcases bind_eq_error.mp h with h | ⟨approval, -, h⟩
    · exact absurd h (by simp [defaultExecutor])
    · split at h <;> cases h
  · cases h

end

/-- A named step is executed behind its gates and recorded, unless its tool is called and lets an exception
out. -/
theorem guarded_iff {μ : Type} (rt : Runtime) (objects : ObjectRuntime) {tools : ToolRegistry μ} {step : Step}
    {s : AgentState μ} (hnamed : Named step s) :
    (∃ x, (defaultExecutor rt objects tools).execute rt step s = .ok x ∧ Guarded rt objects tools step s x) ↔
      ¬ (defaultExecutor rt objects tools).CallEscapes rt step s := by
  constructor
  · rintro ⟨x, hx, -⟩ hcall
    exact (execute_returned rt hx).1.2 (.inr hcall)
  · intro hkept
    have hescapes : ¬ (defaultExecutor rt objects tools).Escapes rt step s := by
      rintro (⟨tool, e, -, hprepare⟩ | hcall)
      · exact prepare_texted tool step s e hprepare
      · exact hkept hcall
    obtain ⟨x, hx, -⟩ := (execute_records rt (defaultExecutor rt objects tools) step s).1 ⟨hnamed, hescapes⟩
    exact ⟨x, hx, execute_guarded hx⟩

/-! ### a tool that fails, and one whose exception has no text -/

/-- A tool without arguments that keeps a log, and whose calls all end in the same way. -/
def endingTool (ends : Except PyExc Returned) : ToolSpec (List ToolCall) where
  name := .finish
  fn args s := (ends, { s.workspace with memory := s.workspace.memory ++ [(.finish, args)] })
  requiredArgs := []
  allowedArgs := []
  argsSchema := .ok

def endingTools (ends : Except PyExc Returned) : ToolRegistry (List ToolCall) :=
  Dict.empty.set .finish (endingTool ends)

theorem endingTools_keepsLog (ends : Except PyExc Returned) : KeepsLog (endingTools ends) id := by
  intro action tool htool args s
  unfold endingTools at htool
  rw [Dict.get?_set] at htool
  split_ifs at htool with haction
  · obtain rfl := Option.some.inj htool
    rw [haction]
    rfl
  · cases htool

def plainStep : Step := ⟨[], .finish, Dict.empty, [120], []⟩

def plainState : AgentState (List ToolCall) := { goal := [103], taskId := [116], workspace := { memory := [] } }

def plainObjects : ObjectRuntime := ⟨fun _ _ => none, fun _ => .none, fun s => s ≠ [] ∧ s.all isDigit, fun _ => .ok 0⟩

theorem endingTools_prepare (ends : Except PyExc Returned) :
    (defaultExecutor (small 4300) plainObjects (endingTools ends)).prepare (small 4300) (endingTool ends)
      plainStep plainState = .ok (.ready Dict.empty) := rfl

/-- A tool that notes its call and raises an exception with a text. -/
theorem guarded_crash : KeepsLog (endingTools (.error (valueError [104]))) id ∧ ∃ x,
    (defaultExecutor (small 4300) plainObjects (endingTools (.error (valueError [104])))).execute (small 4300)
      plainStep plainState = .ok x ∧
    Guarded (small 4300) plainObjects (endingTools (.error (valueError [104]))) plainStep plainState x := by
  refine ⟨endingTools_keepsLog _, (guarded_iff (small 4300) plainObjects ⟨rfl, rfl⟩).mpr ?_⟩
  rintro ⟨tool, args, htool, hready, hescapes⟩
  cases htool
  rcases hescapes with ⟨e, he⟩ | ⟨r, hr, -⟩
  · cases he
  · cases hr

/-- A tool that raises an exception of which `str` raises, as that of `KeyError(10 ** 4300)`: it escapes. -/
theorem guarded_not_total : (Named plainStep plainState ∧
      plainStep.action ∈ (endingTools (.ok (.textless (intTooLong (small 4300))))).keys) ∧
    ¬ ∃ x, (defaultExecutor (small 4300) plainObjects
        (endingTools (.ok (.textless (intTooLong (small 4300)))))).execute (small 4300) plainStep plainState = .ok x ∧
      Guarded (small 4300) plainObjects (endingTools (.ok (.textless (intTooLong (small 4300))))) plainStep
        plainState x := by
  refine ⟨⟨⟨rfl, rfl⟩, List.mem_singleton_self _⟩, ?_⟩
  rintro ⟨x, hx, -⟩
  exact (execute_returned (small 4300) hx).1.2 (.inr ⟨_, Dict.empty, rfl, endingTools_prepare _, .inl ⟨_, rfl⟩⟩)

end Tomtit
