import TomtitAgent.Tools.NoteTools
import TomtitAgent.Planning.PlanValidator

/-!
# One step with a note tool

A step whose arguments are strings, executed with the default executor over the full registry.

* `LocalRegistry`   a registry that has every tool of the local backend;
* `write_success`   a WRITE_NOTE step that succeeded wrote what its arguments were resolved to;
* `write_inert`, `read_inert`   with arguments that name nothing the steps write and read the note;
* `answer_success`, `answer_text`   the FINISH step changes no memory, and answers with a text that names
                                    nothing, or with the text of the last result.
-/

open Py

namespace Tomtit

theorem ArgType.accepts_str {v : Value} : ArgType.str.accepts v = true ↔ ∃ text, v = .data (.str text) := by
  constructor
  · intro h
    cases v with
    | data v =>
      cases v with
      | str text => exact ⟨text, rfl⟩
      | _ => exact absurd h Bool.false_ne_true
    | _ => exact absurd h Bool.false_ne_true
  · rintro ⟨text, rfl⟩
    rfl

section
variable {invalid : Dict PyStr Value → PyStr} {k k' : PyStr}

theorem validateModel_single {v : Value} {args : Dict PyStr Value} :
    validateModel invalid [strField k] (Dict.ofItems [(k, v)]) = .ok args ↔
      ∃ text, v = .data (.str text) ∧ args = Dict.ofItems [(k, .data (.str text))] := by
  have hget : (Dict.ofItems [(k, v)]).get? k = some v := (Dict.get?_set _ _ _ _).trans (if_pos rfl)
  have hkeys : ((Dict.ofItems [(k, v)]).keys.all fun k' => [strField k].any fun f => f.name = k') = true := by
    show ([k].all fun k' => [strField k].any fun f => f.name = k') = true
    simp [strField]
  have hfields : modelFields (Dict.ofItems [(k, v)]) [strField k] =
      if ArgType.str.accepts v then some [(k, v)] else none := by
    show ((Dict.ofItems [(k, v)]).get? k).or _ >>= _ = _
    rw [hget]
    rfl
  unfold validateModel
  rw [if_pos hkeys, hfields]
  by_cases hv : ArgType.str.accepts v = true
  · obtain ⟨text, rfl⟩ := ArgType.accepts_str.mp hv
    rw [if_pos hv]
    constructor
    · intro h
      exact ⟨text, rfl, (Except.ok.inj h).symm⟩
    · rintro ⟨_, h, rfl⟩
      rw [← h]
  · rw [if_neg hv]
    constructor
    · intro h
      exact absurd h (by simp)
    · rintro ⟨text, rfl, -⟩
      exact absurd (ArgType.accepts_str.mpr ⟨text, rfl⟩) hv

theorem validateModel_pair (hk : k ≠ k') {v v' : Value} {args : Dict PyStr Value} :
    validateModel invalid [strField k, strField k'] (Dict.ofItems [(k, v), (k', v')]) = .ok args ↔
      ∃ text text', v = .data (.str text) ∧ v' = .data (.str text') ∧
        args = Dict.ofItems [(k, .data (.str text)), (k', .data (.str text'))] := by
  have hget : (Dict.ofItems [(k, v), (k', v')]).get? k = some v := by
    rw [Dict.get?_ofItems_pair, if_neg hk, if_pos rfl]
  have hget' : (Dict.ofItems [(k, v), (k', v')]).get? k' = some v' := by
    rw [Dict.get?_ofItems_pair, if_pos rfl]
  have hkeys : ((Dict.ofItems [(k, v), (k', v')]).keys.all fun x =>
      [strField k, strField k'].any fun f => f.name = x) = true := by
    unfold Dict.keys
    rw [Dict.items_ofItems_pair hk]
    simp [strField]
  have hfields : modelFields (Dict.ofItems [(k, v), (k', v')]) [strField k, strField k'] =
      if ArgType.str.accepts v then (if ArgType.str.accepts v' then some [(k, v), (k', v')] else none)
      else none := by
    have htail : modelFields (Dict.ofItems [(k, v), (k', v')]) [strField k'] =
        if ArgType.str.accepts v' then some [(k', v')] else none := by
      show ((Dict.ofItems [(k, v), (k', v')]).get? k').or _ >>= _ = _
      rw [hget']
      rfl
    show ((Dict.ofItems [(k, v), (k', v')]).get? k).or _ >>= _ = _
    rw [hget]
    show (if ArgType.str.accepts v then (modelFields _ [strField k'] >>= _) else none) = _
    rw [htail]
    split_ifs <;> rfl
  unfold validateModel
  rw [if_pos hkeys, hfields]
  by_cases hv : ArgType.str.accepts v = true
  · by_cases hv' : ArgType.str.accepts v' = true
    · obtain ⟨text, rfl⟩ := ArgType.accepts_str.mp hv
      obtain ⟨text', rfl⟩ := ArgType.accepts_str.mp hv'
      rw [if_pos hv, if_pos hv']
      constructor
      · intro h
        exact ⟨text, text', rfl, rfl, (Except.ok.inj h).symm⟩
      · rintro ⟨_, _, h, h', rfl⟩
        rw [← h, ← h']
    · rw [if_pos hv, if_neg hv']
      constructor
      · intro h
        exact absurd h (by simp)
      · rintro ⟨_, text', -, rfl, -⟩
        exact absurd (ArgType.accepts_str.mpr ⟨text', rfl⟩) hv'
  · rw [if_neg hv]
    constructor
    · intro h
      exact absurd h (by simp)
    · rintro ⟨text, _, rfl, -⟩
      exact absurd (ArgType.accepts_str.mpr ⟨text, rfl⟩) hv

end

/-! ### the steps -/

section
variable {rt : Runtime} {env : NoteEnv} {objects : ObjectRuntime} {invalid : Dict PyStr Value → PyStr}
  {others : ToolName → ToolFn LocalMemory} {tools : ToolRegistry LocalMemory} {s : AgentState LocalMemory}

/-- The registry of the local backend, with nothing disabled. -/
def LocalRegistry (rt : Runtime) (env : NoteEnv) (invalid : Dict PyStr Value → PyStr)
    (others : ToolName → ToolFn LocalMemory) (tools : ToolRegistry LocalMemory) : Prop :=
  ∀ t, tools.get? t = some (builtinToolSpec invalid (localTools env rt others) t)

theorem prepare_builtin (hwrite : s.readOnly = false)
    {step : Step} {args : Dict PyStr Value} :
    (localExecutor rt objects tools).prepare rt (builtinToolSpec invalid (localTools env rt others) step.action)
        step s = .ok (.ready args) ↔
      ∃ resolved, ArgResolver.resolveArgs rt objects step.args s = .ok resolved ∧
        validateArgs rt (builtinToolSpec invalid (localTools env rt others) step.action) resolved = .ok args := by
  constructor
  · exact prepare_ready rt
  · rintro ⟨resolved, hresolved, hargs⟩
    have hpolicy : policyCheck (builtinToolSpec invalid (localTools env rt others) step.action) s =
        ⟨true, []⟩ := by
      unfold policyCheck
      rw [if_neg (by simp [builtinToolSpec]), if_neg (by simp [hwrite])]
    have happroval : approvalCheck (builtinToolSpec invalid (localTools env rt others) step.action) s =
        ⟨true, []⟩ := if_pos (.inl Bool.false_ne_true)
    refine bind_eq_ok.mpr ⟨resolved, mapError_eq_ok.mpr hresolved, bind_eq_ok.mpr ⟨args, mapError_eq_ok.mpr hargs, ?_⟩⟩
    refine bind_eq_ok.mpr ⟨⟨true, []⟩, congrArg Except.ok hpolicy, ?_⟩
    exact bind_eq_ok.mpr ⟨⟨true, []⟩, congrArg Except.ok happroval, rfl⟩

theorem validateArgs_single {t : ToolName} {k : PyStr} (hfields : argFields t = [strField k])
    (hnames : allowedArgs t = [k] ∧ requiredArgs t = [k]) {v : Value} {args : Dict PyStr Value} :
    validateArgs rt (builtinToolSpec invalid (localTools env rt others) t) (Dict.ofItems [(k, v)]) = .ok args ↔
      ∃ text, v = .data (.str text) ∧ args = Dict.ofItems [(k, .data (.str text))] := by
  have hkeys : (Dict.ofItems [(k, v)]).keys = [k] := rfl
  rw [validateArgs_eq_ok, missingFrom_eq_nil, missingFrom_eq_nil, ← validateModel_single]
  show (∀ x ∈ (Dict.ofItems [(k, v)]).keys, x ∈ allowedArgs t) ∧
    (∀ x ∈ requiredArgs t, x ∈ (Dict.ofItems [(k, v)]).keys) ∧ validateModel invalid (argFields t) _ = _ ↔ _
  rw [hkeys, hnames.1, hnames.2, hfields]
  exact ⟨fun h => h.2.2, fun h => ⟨fun _ hx => hx, fun _ hx => hx, h⟩⟩

theorem validateArgs_pair {t : ToolName} {k k' : PyStr} (hk : k ≠ k')
    (hfields : argFields t = [strField k, strField k'])
    (hnames : allowedArgs t = [k, k'] ∧ requiredArgs t = [k, k']) {v v' : Value} {args : Dict PyStr Value} :
    validateArgs rt (builtinToolSpec invalid (localTools env rt others) t)
        (Dict.ofItems [(k, v), (k', v')]) = .ok args ↔
      ∃ text text', v = .data (.str text) ∧ v' = .data (.str text') ∧
        args = Dict.ofItems [(k, .data (.str text)), (k', .data (.str text'))] := by
  have hkeys : (Dict.ofItems [(k, v), (k', v')]).keys = [k, k'] := by
    unfold Dict.keys
    rw [Dict.items_ofItems_pair hk]
    rfl
  rw [validateArgs_eq_ok, missingFrom_eq_nil, missingFrom_eq_nil, ← validateModel_pair hk]
  show (∀ x ∈ (Dict.ofItems [(k, v), (k', v')]).keys, x ∈ allowedArgs t) ∧
    (∀ x ∈ requiredArgs t, x ∈ (Dict.ofItems [(k, v), (k', v')]).keys) ∧
      validateModel invalid (argFields t) _ = _ ↔ _
  rw [hkeys, hnames.1, hnames.2, hfields]
  exact ⟨fun h => h.2.2, fun h => ⟨fun _ hx => hx, fun _ hx => hx, h⟩⟩

theorem strArg_single (k text : PyStr) : strArg (Dict.ofItems [(k, .data (.str text))]) k = text := by
  have hget : (Dict.ofItems [(k, Value.data (.str text))]).get? k = some (.data (.str text)) :=
    (Dict.get?_set _ _ _ _).trans (if_pos rfl)
  unfold strArg
  rw [hget]

variable (objects) in
/-- A step that reads a note of this name. -/
theorem read_inert (hreg : LocalRegistry rt env invalid others tools) (hwrite : s.readOnly = false)
    {newId : Nat → PyStr} {n : Nat} {thought name content : PyStr}
    (hnamed : Named (newStep newId n thought .readNote [(py "name", .str name)]) s) (hname : Inert name)
    (hread : s.workspace.memory.store.readNote name = some content) :
    ∃ r s', (localExecutor rt objects tools).execute rt
        (newStep newId n thought .readNote [(py "name", .str name)]) s = .ok ⟨r, s'⟩ ∧
      r.success = true ∧ r.output = .readNote name content ∧ Returns s r s.workspace s' := by
  set step := newStep newId n thought .readNote [(py "name", .str name)] with hstep
  have hprepare : (localExecutor rt objects tools).prepare rt
      (builtinToolSpec invalid (localTools env rt others) step.action) step s =
        .ok (.ready (Dict.ofItems [(py "name", .data (.str name))])) :=
    (prepare_builtin hwrite).mpr ⟨_, ArgResolver.resolveArgs_single.mpr
      ⟨_, ArgResolver.resolveStr_inert hname, rfl⟩, (validateArgs_single rfl ⟨rfl, rfl⟩).mpr ⟨name, rfl, rfl⟩⟩
  have hfn : (builtinToolSpec invalid (localTools env rt others) step.action).fn
      (Dict.ofItems [(py "name", .data (.str name))]) s = (.ok (.result {
        success := true
        output := .readNote name content
        toolName := some ToolName.readNote.value
        kind := .text }), s.workspace) := by
    show toolReadNote _ s = _
    unfold toolReadNote
    rw [strArg_single]
    dsimp only
    rw [hread]
  obtain ⟨s', hs', hreturns⟩ := callTool_result rt hnamed hfn (by rw [hstep]; exact fun h => by cases h)
    (ToolName.value_ne_nil .readNote) rfl
  exact ⟨_, s', (execute_ready rt (hreg step.action) hprepare).trans hs', rfl, rfl, hreturns⟩

/-! ### the step that writes -/

def writeStep (newId : Nat → PyStr) (n : Nat) (thought name content : PyStr) : Step :=
  newStep newId n thought .writeNote [(py "name", .str name), (py "content", .str content)]

def noteArgs (name content : PyStr) : Dict PyStr Value :=
  Dict.ofItems [(py "name", .data (.str name)), (py "content", .data (.str content))]

theorem name_ne_content : py "name" ≠ py "content" := by simp

def wroteNote (name : PyStr) (record : MemoryRecord) : ToolResult where
  success := true
  output := .writeNote name true (py "saved note '" ++ name ++ py "'") (some record.id)
  toolName := some ToolName.writeNote.value
  kind := .action

/-- The result of the tool, by what the memory returned or raised. -/
def noteResult (name : PyStr) : Except PyExc MemoryRecord → ToolResult
  | .error e => toolFailure .writeNote (py "write_note failed: " ++ e.msg) .action (some (excName e))
  | .ok record => wroteNote name record

theorem wroteNote_text (name : PyStr) (record : MemoryRecord) :
    ∃ text, stringifyOutput rt (wroteNote name record).output = .ok text := ⟨_, rfl⟩

theorem toolWriteNote_noteArgs (rt : Runtime) {name content : PyStr} {written : Except PyExc MemoryRecord}
    {mem : LocalMemory}
    (h : s.workspace.memory.writeNote env (memoryAgentOf s) name content s.taskId = (written, mem)) :
    toolWriteNote env rt (noteArgs name content) s =
      (.ok (.result (noteResult name written)), { s.workspace with memory := mem }) := by
  have hname : (noteArgs name content).get? (py "name") = some (.data (.str name)) := by
    unfold noteArgs
    rw [Dict.get?_ofItems_pair, if_neg name_ne_content, if_pos rfl]
  have hcontent : (noteArgs name content).get? (py "content") = some (.data (.str content)) := by
    unfold noteArgs
    rw [Dict.get?_ofItems_pair, if_pos rfl]
  have htext : stringifyValue rt (.data (.str content)) = .ok content := rfl
  unfold toolWriteNote strArg argValue
  rw [hname, hcontent, Option.getD_some, htext]
  dsimp only
  rw [h]
  cases written with
  | error e => rfl
  | ok record => rfl

theorem callTool_writeNote (rt : Runtime) (invalid : Dict PyStr Value → PyStr)
    (others : ToolName → ToolFn LocalMemory) {newId : Nat → PyStr} {n : Nat}
    {thought name₀ content₀ name content : PyStr} {written : Except PyExc MemoryRecord} {mem : LocalMemory}
    (hnamed : Named (writeStep newId n thought name₀ content₀) s)
    (h : s.workspace.memory.writeNote env (memoryAgentOf s) name content s.taskId = (written, mem)) :
    ∃ s', callTool rt (builtinToolSpec invalid (localTools env rt others) .writeNote)
        (writeStep newId n thought name₀ content₀) (noteArgs name content) s =
          .ok ⟨noteResult name written, s'⟩ ∧
      Returns s (noteResult name written) { s.workspace with memory := mem } s' := by
  have hfn : (builtinToolSpec invalid (localTools env rt others) .writeNote).fn (noteArgs name content) s =
      (.ok (.result (noteResult name written)), { s.workspace with memory := mem }) :=
    toolWriteNote_noteArgs rt h
  refine callTool_result rt hnamed hfn (fun h => by cases h) ?_ ?_
  · cases written with
    | error e => exact ToolName.value_ne_nil .writeNote
    | ok record => exact ToolName.value_ne_nil .writeNote
  · cases written with
    | error e => rfl
    | ok record => rfl

variable (objects) in
/-- The note is written when both arguments name nothing and the name is not blank. -/
theorem write_inert (hreg : LocalRegistry rt env invalid others tools) (hwrite : s.readOnly = false)
    {newId : Nat → PyStr} {n : Nat} {thought name content : PyStr}
    (hnamed : Named (writeStep newId n thought name content) s) (hname : Inert name) (hcontent : Inert content)
    (hblank : strip name ≠ []) :
    ∃ r s', (localExecutor rt objects tools).execute rt (writeStep newId n thought name content) s =
        .ok ⟨r, s'⟩ ∧ r.success = true ∧ (∃ text, stringifyOutput rt r.output = .ok text) ∧
      Returns s r { s.workspace with memory :=
        (s.workspace.memory.writeNote env (memoryAgentOf s) name content s.taskId).2 } s' := by
  set step := writeStep newId n thought name content with hstep
  have hprepare : (localExecutor rt objects tools).prepare rt
      (builtinToolSpec invalid (localTools env rt others) step.action) step s =
        .ok (.ready (noteArgs name content)) :=
    (prepare_builtin hwrite).mpr ⟨_, (ArgResolver.resolveArgs_pair name_ne_content).mpr
      ⟨_, _, ArgResolver.resolveStr_inert hname, ArgResolver.resolveStr_inert hcontent, rfl⟩,
      (validateArgs_pair name_ne_content rfl ⟨rfl, rfl⟩).mpr ⟨name, content, rfl, rfl, rfl⟩⟩
  obtain ⟨record, hrecord, -⟩ := writeNote_get env (memoryAgentOf s) s.workspace.memory content s.taskId hblank
  obtain ⟨s', hs', hreturns⟩ := callTool_writeNote rt invalid others hnamed (Prod.ext hrecord rfl)
  exact ⟨_, s', (execute_ready rt (hreg .writeNote) hprepare).trans hs', rfl, wroteNote_text name record, hreturns⟩

/-- A step that succeeded wrote the texts that its arguments were resolved to. -/
theorem write_success (hreg : LocalRegistry rt env invalid others tools)
    {newId : Nat → PyStr} {n : Nat} {thought name content : PyStr} {x : Executed LocalMemory}
    (hx : (localExecutor rt objects tools).execute rt (writeStep newId n thought name content) s = .ok x)
    (hsuccess : x.result.success = true) :
    ∃ name' content', ArgResolver.resolveStr rt objects s (.str name) name = .ok (.data (.str name')) ∧
      ArgResolver.resolveStr rt objects s (.str content) content = .ok (.data (.str content')) ∧
      strip name' ≠ [] ∧ x.state.workspace.memory =
        (s.workspace.memory.writeNote env (memoryAgentOf s) name' content' s.taskId).2 := by
  set step := writeStep newId n thought name content with hstep
  obtain ⟨tool, args, htool, hprepare, hcall⟩ := execute_success rt hx hsuccess
  have hspec : tool = builtinToolSpec invalid (localTools env rt others) .writeNote :=
    Option.some.inj (htool.symm.trans (hreg .writeNote))
  rw [hspec] at hprepare hcall
  obtain ⟨resolved, hresolved, hargs⟩ := prepare_ready rt hprepare
  obtain ⟨v, v', hv, hv', rfl⟩ := (ArgResolver.resolveArgs_pair name_ne_content).mp hresolved
  obtain ⟨name', content', rfl, rfl, rfl⟩ := (validateArgs_pair name_ne_content rfl ⟨rfl, rfl⟩).mp hargs
  refine ⟨name', content', hv, hv', ?_⟩
  have hnamed : Named step s := (execute_returned rt hx).1.1
  by_cases hblank : strip name' = []
  · obtain ⟨s', hs', -⟩ := callTool_writeNote rt invalid others hnamed (if_pos hblank)
    rw [Except.ok.inj (hcall.symm.trans hs')] at hsuccess
    exact absurd hsuccess Bool.false_ne_true
  · obtain ⟨record, hrecord, -⟩ := writeNote_get env (memoryAgentOf s) s.workspace.memory content' s.taskId hblank
    obtain ⟨s', hs', hreturns⟩ := callTool_writeNote rt invalid others hnamed (Prod.ext hrecord rfl)
    rw [Except.ok.inj (hcall.symm.trans hs')]
    exact ⟨hblank, congrArg Workspace.memory hreturns.workspace⟩

/-! ### the step that answers -/

def answerStep (newId : Nat → PyStr) (n : Nat) (thought answer : PyStr) : Step :=
  newStep newId n thought .finish [(py "answer", .str answer)]

theorem toolFinish_answer (rt : Runtime) {text : PyStr} (hblank : strip text ≠ []) :
    toolFinish rt (Dict.ofItems [(py "answer", .data (.str text))]) s = (.ok (.result {
      success := true
      output := .finish (strip text)
      toolName := some ToolName.finish.value
      kind := .text }), s.workspace) := by
  have hvalue : argValue (Dict.ofItems [(py "answer", .data (.str text))]) (py "answer") = .data (.str text) := by
    have hget : (Dict.ofItems [(py "answer", Value.data (.str text))]).get? (py "answer") =
        some (.data (.str text)) := (Dict.get?_set _ _ _ _).trans (if_pos rfl)
    unfold argValue
    rw [hget, Option.getD_some]
  have htext : stringifyValue rt (.data (.str text)) = .ok text := rfl
  unfold toolFinish
  rw [hvalue, htext]
  exact if_neg hblank

variable (objects) in
theorem answer_resolved (hreg : LocalRegistry rt env invalid others tools) (hwrite : s.readOnly = false)
    {newId : Nat → PyStr} {n : Nat} {thought answer text : PyStr}
    (hnamed : Named (answerStep newId n thought answer) s)
    (hanswer : ArgResolver.resolveStr rt objects s (.str answer) answer = .ok (.data (.str text)))
    (hblank : strip text ≠ []) :
    ∃ r s', (localExecutor rt objects tools).execute rt (answerStep newId n thought answer) s =
        .ok ⟨r, s'⟩ ∧ r.success = true ∧ r.output = .finish (strip text) ∧ Returns s r s.workspace s' := by
  have hprepare : (localExecutor rt objects tools).prepare rt
      (builtinToolSpec invalid (localTools env rt others) .finish) (answerStep newId n thought answer) s =
        .ok (.ready (Dict.ofItems [(py "answer", .data (.str text))])) :=
    (prepare_builtin hwrite).mpr ⟨_, ArgResolver.resolveArgs_single.mpr ⟨_, hanswer, rfl⟩,
      (validateArgs_single rfl ⟨rfl, rfl⟩).mpr ⟨text, rfl, rfl⟩⟩
  have hfn : (builtinToolSpec invalid (localTools env rt others) .finish).fn
      (Dict.ofItems [(py "answer", .data (.str text))]) s = _ := toolFinish_answer rt hblank
  obtain ⟨s', hs', hreturns⟩ := callTool_result rt hnamed hfn (fun h => by cases h) (ToolName.value_ne_nil .finish) rfl
  exact ⟨_, s', (execute_ready rt (hreg .finish) hprepare).trans hs', rfl, rfl, hreturns⟩

/-- An answer leaves the workspace as it was. -/
theorem answer_success (hreg : LocalRegistry rt env invalid others tools)
    {newId : Nat → PyStr} {n : Nat} {thought answer : PyStr} {x : Executed LocalMemory}
    (hx : (localExecutor rt objects tools).execute rt (answerStep newId n thought answer) s = .ok x)
    (hsuccess : x.result.success = true) : x.state.workspace = s.workspace := by
  obtain ⟨tool, args, htool, -, hcall⟩ := execute_success rt hx hsuccess
  have hspec : tool = builtinToolSpec invalid (localTools env rt others) .finish :=
    Option.some.inj (htool.symm.trans (hreg .finish))
  rw [hspec] at hcall
  have hnamed : Named (answerStep newId n thought answer) s := (execute_returned rt hx).1.1
  obtain ⟨r, w, hfn⟩ := callTool_success rt hcall hsuccess
  have hfinish : toolFinish rt args s = (.ok (.result r), w) := hfn
  have hreturned : w = s.workspace ∧ r.toolName.getD [] ≠ [] ∧ r.sources = [] := by
    unfold toolFinish at hfinish
    split at hfinish
    · exact absurd (Prod.mk.inj hfinish).1 (by simp)
    · split at hfinish
      · obtain ⟨hr, hw⟩ := Prod.mk.inj hfinish
        cases hr
        exact ⟨hw.symm, ToolName.value_ne_nil .finish, rfl⟩
      · obtain ⟨hr, hw⟩ := Prod.mk.inj hfinish
        cases hr
        exact ⟨hw.symm, ToolName.value_ne_nil .finish, rfl⟩
  obtain ⟨s', hs', hreturns⟩ := callTool_result rt hnamed hfn (fun h => by cases h) hreturned.2.1 hreturned.2.2
  rw [Except.ok.inj (hcall.symm.trans hs')]
  exact hreturns.workspace.trans hreturned.1

end
end Tomtit
