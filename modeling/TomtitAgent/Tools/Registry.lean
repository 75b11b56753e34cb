import TomtitAgent.Tools.Executor

/-!
# The registry of the built-in tools (`tools/registry.py`, `tools/input_schemas.py`)

* `ArgField`, `validateModel`   a strict pydantic model that forbids extra fields;
* `builtinToolSpec`   the specification of each tool, over the functions given for them;
* `buildToolRegistry`   the tools that are not disabled; it never raises (`buildToolRegistry_ok`).
-/

open Py

namespace Tomtit

def localDurableTools : List ToolName := [.writeNote, .readNote, .listNotes, .saveFact, .savePreference,
  .saveDecision, .searchMemory, .summarizeMemory]

/-! ### argument schemas -/

inductive ArgType where
  | str | int | optStrList

/-- A field of an argument model; a field without a default is required. -/
structure ArgField where
  name : PyStr
  type : ArgType
  fallback : Option PyVal := none

def ArgType.accepts : ArgType → Value → Bool
  | .str, .data (.str _) => true
  | .int, .data (.int _) => true
  | .optStrList, .data .none => true
  | .optStrList, .data (.list xs) => xs.all fun x => match x with | .str _ => true | _ => false
  | _, _ => false

/-- What a model makes of its arguments: the fields in order, with their defaults. -/
def modelFields (args : Dict PyStr Value) : List ArgField → Option (List (PyStr × Value))
  | [] => some []
  | f :: fs => do
    let value ← (args.get? f.name).or (f.fallback.map .data)
    if f.type.accepts value then
      let rest ← modelFields args fs
      return (f.name, value) :: rest
    else none

section
variable {μ : Type} (invalid : Dict PyStr Value → PyStr)

/-- `Model.model_validate(args).model_dump()`; `invalid` is the text of the error. -/
def validateModel (fields : List ArgField) (args : Dict PyStr Value) : Except PyExc (Dict PyStr Value) :=
  let refused : PyExc := ⟨["ValidationError", "ValueError"], invalid args⟩
  if args.keys.all fun k => fields.any fun f => f.name = k then
    match modelFields args fields with
    | some kvs => .ok (Dict.ofItems kvs)
    | none => .error refused
  else .error refused

def strField (name : PyStr) : ArgField := ⟨name, .str, none⟩

def argFields : ToolName → List ArgField
  | .calculate => [strField (py "expression")]
  | .writeNote => [strField (py "name"), strField (py "content")]
  | .readNote => [strField (py "name")]
  | .listNotes => []
  | .saveFact => [strField (py "content"), ⟨py "tags", .optStrList, some .none⟩]
  | .savePreference => [strField (py "content"), ⟨py "tags", .optStrList, some .none⟩]
  | .saveDecision => [strField (py "content"), ⟨py "tags", .optStrList, some .none⟩]
  | .searchMemory => [strField (py "query"), ⟨py "limit", .int, some (.int 10)⟩]
  | .summarizeMemory => [⟨py "query", .str, some (.str [])⟩, ⟨py "limit", .int, some (.int 10)⟩]
  | .summarize => [strField (py "text")]
  | .webSearch => [strField (py "query"), ⟨py "max_results", .int, some (.int 3)⟩]
  | .finish => [strField (py "answer")]
  | .answerFromContext => [strField (py "query")]

/-! ### the specifications -/

def requiredArgs : ToolName → List PyStr
  | .calculate => [py "expression"]
  | .writeNote => [py "name", py "content"]
  | .readNote => [py "name"]
  | .listNotes => []
  | .saveFact => [py "content"]
  | .savePreference => [py "content"]
  | .saveDecision => [py "content"]
  | .searchMemory => [py "query"]
  | .summarizeMemory => []
  | .summarize => [py "text"]
  | .webSearch => [py "query"]
  | .finish => [py "answer"]
  | .answerFromContext => [py "query"]

def allowedArgs : ToolName → List PyStr
  | .calculate => [py "expression"]
  | .writeNote => [py "name", py "content"]
  | .readNote => [py "name"]
  | .listNotes => []
  | .saveFact => [py "content", py "tags"]
  | .savePreference => [py "content", py "tags"]
  | .saveDecision => [py "content", py "tags"]
  | .searchMemory => [py "query", py "limit"]
  | .summarizeMemory => [py "query", py "limit"]
  | .summarize => [py "text"]
  | .webSearch => [py "query", py "max_results"]
  | .finish => [py "answer"]
  | .answerFromContext => [py "query"]

def mutatesState : ToolName → Bool
  | .writeNote | .saveFact | .savePreference | .saveDecision => true
  | _ => false

abbrev ToolFn (μ : Type) := Dict PyStr Value → AgentState μ → Except PyExc Returned × Workspace μ

def builtinToolSpec (fn : ToolName → ToolFn μ) (t : ToolName) : ToolSpec μ where
  name := t
  fn := fn t
  requiredArgs := requiredArgs t
  allowedArgs := allowedArgs t
  mutatesState := mutatesState t
  argsSchema := validateModel invalid (argFields t)

/-- `builtin_tool_specs` -/
def builtinToolSpecs (fn : ToolName → ToolFn μ) : List (ToolSpec μ) :=
  [.calculate, .writeNote, .readNote, .listNotes, .saveFact, .savePreference, .saveDecision, .searchMemory,
    .summarizeMemory, .summarize, .webSearch, .finish, .answerFromContext].map (builtinToolSpec invalid fn)

/-! ### the registry -/

def duplicateToolError (msg : PyStr) : PyExc := ⟨["DuplicateToolError", "ToolRegistryError"], msg⟩

/-- The loop of `ToolRegistry.from_specs`. -/
def addSpecs : ToolRegistry μ → List (ToolSpec μ) → Except PyExc (ToolRegistry μ)
  | data, [] => .ok data
  | data, spec :: specs => do
    raiseIf (spec.name ∈ data.keys)
      (duplicateToolError (py "Duplicate tool name: '" ++ spec.name.value ++ py "'"))
    addSpecs (data.set spec.name spec) specs

/-- The names of a set of tools; a set prints them in no fixed order. -/
def toolSetText (ts : List ToolName) : PyStr := joinWith (py ", ") (ts.map ToolName.value)

/-- `build_tool_registry` -/
def buildToolRegistry (fn : ToolName → ToolFn μ) (disabled : List ToolName) :
    Except PyExc (ToolRegistry μ) := do
  let specs := (builtinToolSpecs invalid fn).filter fun spec => spec.name ∉ disabled
  let registered := specs.map ToolSpec.name
  let declared := (StrEnum.members (α := ToolName)).filter fun t => t ∉ disabled
  raiseIf (setEq registered declared = false) ⟨["RuntimeError"],
    py "Built-in registry mismatch — missing: " ++ toolSetText (declared.filter fun t => t ∉ registered) ++
    py ", extra: " ++ toolSetText (registered.filter fun t => t ∉ declared)⟩
  addSpecs Dict.empty specs

end

section
variable {μ : Type}

theorem addSpecs_ok (specs : List (ToolSpec μ)) (data : ToolRegistry μ)
    (hnd : (specs.map ToolSpec.name).Nodup) (hnew : ∀ spec ∈ specs, spec.name ∉ data.keys) :
    ∃ tools, addSpecs data specs = .ok tools ∧
      ∀ t, tools.get? t = (specs.find? fun spec => spec.name = t).or (data.get? t) := by
  induction specs generalizing data with
  | nil => exact ⟨data, rfl, fun t => rfl⟩
  | cons spec specs ih =>
    rw [List.map_cons, List.nodup_cons] at hnd
    obtain ⟨tools, htools, hget⟩ := ih (data.set spec.name spec) hnd.2 fun spec' hmem hkey => by
      rcases Dict.mem_keys_set.mp hkey with e | hkey
      · exact hnd.1 (e ▸ List.mem_map_of_mem hmem)
      · exact hnew spec' (List.mem_cons_of_mem _ hmem) hkey
    refine ⟨tools, ?_, fun t => ?_⟩
    · rw [addSpecs]
      exact bind_eq_ok.mpr ⟨(), raiseIf_eq_ok.mpr (hnew spec List.mem_cons_self), htools⟩
    · rw [hget, Dict.get?_set, List.find?_cons]
      by_cases ht : spec.name = t
      · have hnone : (specs.find? fun spec => spec.name = t) = none := by
          rw [List.find?_eq_none]
          intro spec' hmem e
          exact hnd.1 (List.mem_map.mpr ⟨spec', hmem, (of_decide_eq_true e).trans ht.symm⟩)
        rw [hnone, if_pos ht.symm, decide_eq_true ht]
        rfl
      · rw [if_neg fun e => ht e.symm, decide_eq_false ht]

variable (invalid : Dict PyStr Value → PyStr) (fn : ToolName → ToolFn μ)

theorem builtinToolSpecs_names :
    (builtinToolSpecs invalid fn).map ToolSpec.name = StrEnum.members (α := ToolName) := rfl

/-- The registry is built for every set of disabled tools, and holds the other tools. -/
theorem buildToolRegistry_ok (disabled : List ToolName) :
    ∃ tools, buildToolRegistry invalid fn disabled = .ok tools ∧
      ∀ t, tools.get? t = if t ∈ disabled then none else some (builtinToolSpec invalid fn t) := by
  have hnames : ((builtinToolSpecs invalid fn).filter fun spec => spec.name ∉ disabled).map ToolSpec.name =
      (StrEnum.members (α := ToolName)).filter fun t => t ∉ disabled := by
    rw [← builtinToolSpecs_names invalid fn, List.filter_map]
    rfl
  have hnd : (StrEnum.members (α := ToolName)).Nodup := by decide
  obtain ⟨tools, htools, hget⟩ := addSpecs_ok
    ((builtinToolSpecs invalid fn).filter fun spec => spec.name ∉ disabled) Dict.empty
    (by rw [hnames]; exact hnd.filter _) fun _ _ h => absurd h List.not_mem_nil
  refine ⟨tools, ?_, fun t => ?_⟩
  · unfold buildToolRegistry
    dsimp only
    rw [hnames]
    refine bind_eq_ok.mpr ⟨(), raiseIf_eq_ok.mpr ?_, htools⟩
    rw [Bool.not_eq_false]
    exact setEq_iff.mpr fun _ => Iff.rfl
  · rw [hget, List.find?_filter]
    have hfind : ((builtinToolSpecs invalid fn).find? fun spec => spec.name = t) =
        some (builtinToolSpec invalid fn t) := by cases t <;> rfl
    show Option.or _ none = _
    rw [Option.or_none]
    by_cases ht : t ∈ disabled
    · rw [if_pos ht, List.find?_eq_none]
      intro spec _ h
      obtain ⟨hfree, e⟩ := of_decide_eq_true h
      exact of_decide_eq_true hfree (of_decide_eq_true e ▸ ht)
    · rw [if_neg ht, ← hfind]
      congr 1
      funext spec
      by_cases e : spec.name = t
      · simp [e, ht]
      · simp [e]

theorem mem_registry {tools : ToolRegistry μ} {disabled : List ToolName}
    (h : ∀ t, tools.get? t = if t ∈ disabled then none else some (builtinToolSpec invalid fn t)) {t : ToolName} :
    t ∈ tools.keys ↔ t ∉ disabled := by
  rw [← not_iff_not, ← Dict.get?_eq_none, h, not_not]
  split_ifs with ht
  · exact iff_of_true rfl ht
  · exact iff_of_false (by simp) ht

end
end Tomtit
