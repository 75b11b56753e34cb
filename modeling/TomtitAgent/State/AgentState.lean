import TomtitAgent.Confirmation.Models
import TomtitAgent.Memory.Contracts
import TomtitAgent.Tools.Schemas

/-!
# `state/agent_state.py`: the state of one run

* `Step`, `Observation`   what a run plans and records;
* `Workspace`    the part of a state that tools write: the memory store, the slots, the mark of
                 `answer_from_context`;
* `AgentState`   the run itself, with `fail`, `complete`, `isTerminal`, `addObservation`.

A step keeps no status here and no time: they are written and never read again.
-/

open Py

namespace Tomtit

inductive AgentStatus where
  | created | planning | running | completed | failed
deriving DecidableEq, Repr

def AgentStatus.value : AgentStatus → PyStr
  | .created => py "created"
  | .planning => py "planning"
  | .running => py "running"
  | .completed => py "completed"
  | .failed => py "failed"

instance : StrEnum AgentStatus where
  clsName := py "AgentStatus"
  members := [.created, .planning, .running, .completed, .failed]
  value := AgentStatus.value
  mem_members a := by cases a <;> simp
  value_inj a b h := by cases a <;> cases b <;> simp [AgentStatus.value] at h ⊢
  value_ascii a := by cases a <;> exact ascii_lit _ (by decide)

structure Step where
  thought : PyStr
  action : ToolName
  args : Dict PyStr Value
  id : PyStr
  dependsOn : List PyStr := []

/-- `Step(thought, action, args)`, the `n`-th step made for a plan; `newId` are the answers of `uuid4()`. -/
def newStep (newId : Nat → PyStr) (n : Nat) (thought : PyStr) (action : ToolName)
    (args : List (PyStr × PyVal)) : Step where
  thought := thought
  action := action
  args := Dict.ofItems (args.map fun kv => (kv.1, .data kv.2))
  id := newId n

structure Observation where
  stepIndex : Nat
  action : PyStr
  args : Dict PyStr Value
  success : Bool
  sourceRef : PyStr
  output : ToolOutput
  error : Option PyStr
  sources : List Source

structure Workspace (μ : Type) where
  memory : μ
  slots : Dict PyStr Value := Dict.empty
  contextConsumed : Bool := false

structure AgentState (μ : Type) where
  goal : PyStr
  taskId : PyStr
  userId : Option PyStr := none
  sessionId : Option PyStr := none
  status : AgentStatus := .created
  plan : List Step := []
  currentStep : Nat := 0
  done : Bool := false
  finalAnswer : Option PyStr := none
  lastResult : Option ToolResult := none
  workspace : Workspace μ
  history : List PyStr := []
  observations : List Observation := []
  sources : List Source := []
  errors : List PyStr := []
  contextPack : Option ContextPack := none
  memoryDegraded : Bool := false
  memoryWriteFailed : Bool := false
  disclosureReasons : List PyStr := []
  maxSteps : Int := 5
  approvedTools : List ToolName := []
  readOnly : Bool := false
  confirmedSaveOperation : Option ConfirmedSaveOperation := none

section
variable (rt : Runtime)

/-- `str(source)` of the dataclass. -/
def Source.text (s : Source) : Except PyExc PyStr := do
  let metadata ← reprVal rt (.record s.metadata)
  return py "Source(title=" ++ reprStr rt s.title ++ py ", url=" ++ reprOptStr rt s.url ++ py ", snippet=" ++
    reprOptStr rt s.snippet ++ py ", source_type=" ++ reprStr rt s.sourceType ++ py ", metadata=" ++ metadata ++ py ")"

/-- `_source_key`, `str(url or title or source)`. -/
def Source.key (s : Source) : Except PyExc PyStr :=
  if s.url.getD [] ≠ [] then .ok (s.url.getD [])
  else if s.title ≠ [] then .ok s.title
  else s.text rt

/-- `{self._source_key(source) for source in sources}` -/
def sourceKeys : List Source → Except PyExc (List PyStr)
  | [] => .ok []
  | s :: sources => do
    let key ← s.key rt
    let keys ← sourceKeys sources
    return key :: keys

/-- The loop of `_add_sources`. -/
def addNewSources : List PyStr → List Source → List Source → Except PyExc (List Source)
  | _, known, [] => .ok known
  | seen, known, s :: sources => do
    let key ← s.key rt
    if key ∈ seen then addNewSources seen known sources
    else addNewSources (key :: seen) (known ++ [s]) sources

/-- `_add_sources` -/
def addSources (sources known : List Source) : Except PyExc (List Source) := do
  let seen ← sourceKeys rt known
  addNewSources rt seen known sources

def Source.Keyed (s : Source) : Prop := ∃ key, s.key rt = .ok key

theorem sourceKeys_ok {sources : List Source} :
    (∃ keys, sourceKeys rt sources = .ok keys) ↔ ∀ s ∈ sources, s.Keyed rt := by
  induction sources with
  | nil => exact iff_of_true ⟨[], rfl⟩ fun _ h => absurd h List.not_mem_nil
  | cons s sources ih =>
    rw [List.forall_mem_cons, ← ih]
    constructor
    · rintro ⟨keys, h⟩
      obtain ⟨key, hkey, h⟩ := bind_eq_ok.mp h
      obtain ⟨rest, hrest, -⟩ := bind_eq_ok.mp h
      exact ⟨⟨key, hkey⟩, rest, hrest⟩
    · rintro ⟨⟨key, hkey⟩, rest, hrest⟩
      exact ⟨key :: rest, bind_eq_ok.mpr ⟨key, hkey, bind_eq_ok.mpr ⟨rest, hrest, rfl⟩⟩⟩

theorem addNewSources_ok (seen : List PyStr) (known : List Source) {sources : List Source} :
    (∃ all, addNewSources rt seen known sources = .ok all) ↔ ∀ s ∈ sources, s.Keyed rt := by
  induction sources generalizing seen known with
  | nil => exact iff_of_true ⟨known, rfl⟩ fun _ h => absurd h List.not_mem_nil
  | cons s sources ih =>
    rw [List.forall_mem_cons]
    constructor
    · rintro ⟨all, h⟩
      obtain ⟨key, hkey, h⟩ := bind_eq_ok.mp h
      refine ⟨⟨key, hkey⟩, ?_⟩
      split at h
      · exact (ih _ _).mp ⟨all, h⟩
      · exact (ih _ _).mp ⟨all, h⟩
    · rintro ⟨⟨key, hkey⟩, hrest⟩
      by_cases hseen : key ∈ seen
      · obtain ⟨all, hall⟩ := (ih seen known).mpr hrest
        exact ⟨all, bind_eq_ok.mpr ⟨key, hkey, (if_pos hseen).trans hall⟩⟩
      · obtain ⟨all, hall⟩ := (ih (key :: seen) (known ++ [s])).mpr hrest
        exact ⟨all, bind_eq_ok.mpr ⟨key, hkey, (if_neg hseen).trans hall⟩⟩

theorem addSources_ok {sources known : List Source} :
    (∃ all, addSources rt sources known = .ok all) ↔ ∀ s ∈ known ++ sources, s.Keyed rt := by
  rw [List.forall_mem_append, ← sourceKeys_ok]
  constructor
  · rintro ⟨all, h⟩
    obtain ⟨seen, hseen, h⟩ := bind_eq_ok.mp h
    exact ⟨⟨seen, hseen⟩, (addNewSources_ok rt _ _).mp ⟨all, h⟩⟩
  · rintro ⟨⟨seen, hseen⟩, hnew⟩
    obtain ⟨all, hall⟩ := (addNewSources_ok rt seen known).mpr hnew
    exact ⟨all, bind_eq_ok.mpr ⟨seen, hseen, hall⟩⟩

end

namespace AgentState
variable {μ : Type}

/-- `add_observation` -/
def addObservation (rt : Runtime) (obs : Observation) (s : AgentState μ) : Except PyExc (AgentState μ) :=
  let s := { s with observations := s.observations ++ [obs] }
  if obs.sources.isEmpty then .ok s
  else do
    let sources ← addSources rt obs.sources s.sources
    return { s with sources }

theorem addObservation_ok (rt : Runtime) (obs : Observation) (s : AgentState μ) :
    (∃ s', addObservation rt obs s = .ok s') ↔
      obs.sources = [] ∨ ∀ src ∈ s.sources ++ obs.sources, src.Keyed rt := by
  unfold addObservation
  by_cases h : obs.sources = []
  · rw [h]
    exact iff_of_true ⟨_, rfl⟩ (.inl rfl)
  · dsimp only
    rw [List.isEmpty_eq_false_iff.mpr h, if_neg Bool.false_ne_true, or_iff_right h, ← addSources_ok]
    constructor
    · rintro ⟨s', hs'⟩
      obtain ⟨sources, hsources, -⟩ := bind_eq_ok.mp hs'
      exact ⟨sources, hsources⟩
    · rintro ⟨sources, hsources⟩
      exact ⟨_, bind_eq_ok.mpr ⟨sources, hsources, rfl⟩⟩

theorem addObservation_eq {rt : Runtime} {obs : Observation} {s s' : AgentState μ}
    (h : addObservation rt obs s = .ok s') :
    ∃ sources, s' = { s with observations := s.observations ++ [obs], sources } := by
  unfold addObservation at h
  dsimp only at h
  split at h
  · exact ⟨s.sources, (Except.ok.inj h).symm⟩
  · obtain ⟨sources, -, h⟩ := bind_eq_ok.mp h
    exact ⟨sources, (Except.ok.inj h).symm⟩

def fail (error : PyStr) (s : AgentState μ) : AgentState μ :=
  { s with status := .failed, done := true, finalAnswer := some error, errors := s.errors ++ [error] }

def complete (answer : PyStr) (s : AgentState μ) : AgentState μ :=
  { s with status := .completed, done := true, finalAnswer := some answer }

/-- `state.errors.append` -/
def addError (error : PyStr) (s : AgentState μ) : AgentState μ := { s with errors := s.errors ++ [error] }

def isTerminal (s : AgentState μ) : Bool := s.done || s.status = .completed || s.status = .failed

end AgentState
end Tomtit
