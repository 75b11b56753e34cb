import TomtitAgent.Memory.Notes
import TomtitAgent.Tools.ArgResolver
import TomtitAgent.Tools.Registry

/-!
# The note tools and the final answer (`tools/builtin_tools.py`)

* `LocalMemory`   the in-memory store of the local backend, with the number of clock readings and of
                  records made so far;
* `LocalMemory.writeNote`   `MemoryAgent.write_note` on it;
* `toolWriteNote`, `toolReadNote`, `toolFinish`   the tool functions;
* `localExecutor`   the default executor over the registry with nothing disabled.
-/

open Py

namespace Tomtit

structure NoteEnv extends MemoryRuntime where
  /-- `utc_now()` at each reading -/
  now : Nat → Time
  /-- `str(uuid4())` for each record made -/
  uuid : Nat → PyStr

structure LocalMemory where
  store : InMemoryStore
  ticks : Nat := 0
  made : Nat := 0

/-- The record that `MemoryAgent.write_note` writes. -/
def MemoryAgent.noteRecord (agent : MemoryAgent) (m : Readings) (name content : PyStr)
    (taskId runId sourceEventId : Option PyStr) (metadata : Dict PyStr PyVal) : MemoryRecord :=
  { newNote m (strip name) content with
    userId := agent.userId
    sessionId := agent.sessionId
    taskId := taskId
    runId := runId
    sourceEventId := sourceEventId
    metadata := ⟨metadata.set (py "name") (.str (strip name))⟩ }

section
variable (env : NoteEnv)

/-- The answers of the clock and of `uuid4` for the next record. -/
def LocalMemory.readings (mem : LocalMemory) : Readings :=
  ⟨fun n => env.now (mem.ticks + n), env.uuid mem.made⟩

/-- `MemoryAgent.write_note`, which reads the clock twice for the record and once to write it. -/
def LocalMemory.writeNote (agent : MemoryAgent) (name content taskId : PyStr) (mem : LocalMemory) :
    Except PyExc MemoryRecord × LocalMemory :=
  if strip name = [] then (.error emptyNoteName, mem)
  else
    let m := mem.readings env
    let r := agent.noteRecord m name content (some taskId) none none Dict.empty
    (.ok (r.markUpdated (m.now 2)),
      { store := mem.store.write env.toMemoryRuntime (m.now 2) r
        ticks := mem.ticks + 3
        made := mem.made + 1 })

/-! ### the tool functions -/

def strArg (args : Dict PyStr Value) (key : PyStr) : PyStr :=
  match args.get? key with
  | some (.data (.str text)) => text
  | _ => []

def argValue (args : Dict PyStr Value) (key : PyStr) : Value := (args.get? key).getD (.data .none)

/-- `_memory_agent` -/
def memoryAgentOf {μ : Type} (s : AgentState μ) : MemoryAgent := ⟨s.userId, s.sessionId⟩

def toolFailure (tool : ToolName) (error : PyStr) (kind : ToolResultKind) (errorType : Option PyStr) :
    ToolResult where
  success := false
  error := some error
  toolName := some tool.value
  kind := kind
  metadata := (errorType.map fun t => (py "error_type", PyVal.str t)).toList

section
variable (rt : Runtime)

/-- `tool_write_note` -/
def toolWriteNote (args : Dict PyStr Value) (s : AgentState LocalMemory) :
    Except PyExc Returned × Workspace LocalMemory :=
  let name := strArg args (py "name")
  match stringifyValue rt (argValue args (py "content")) with
  | .error e => (.error e, s.workspace)
  | .ok contentText =>
    match s.workspace.memory.writeNote env (memoryAgentOf s) name contentText s.taskId with
    | (.error e, mem) => (.ok (.result (toolFailure .writeNote (py "write_note failed: " ++ e.msg) .action
        (some (excName e)))), { s.workspace with memory := mem })
    | (.ok record, mem) => (.ok (.result {
        success := true
        output := .writeNote name true (py "saved note '" ++ name ++ py "'") (some record.id)
        toolName := some ToolName.writeNote.value
        kind := .action }), { s.workspace with memory := mem })

/-- `tool_read_note` -/
def toolReadNote (args : Dict PyStr Value) (s : AgentState LocalMemory) :
    Except PyExc Returned × Workspace LocalMemory :=
  let name := strArg args (py "name")
  match s.workspace.memory.store.readNote name with
  | none => (.ok (.result (toolFailure .readNote (py "note '" ++ name ++ py "' not found") .text none)),
      s.workspace)
  | some value => (.ok (.result {
      success := true
      output := .readNote name value
      toolName := some ToolName.readNote.value
      kind := .text }), s.workspace)

/-- `tool_finish` -/
def toolFinish {μ : Type} (args : Dict PyStr Value) (s : AgentState μ) :
    Except PyExc Returned × Workspace μ :=
  match stringifyValue rt (argValue args (py "answer")) with
  | .error e => (.error e, s.workspace)
  | .ok text =>
    if strip text = [] then
      (.ok (.result (toolFailure .finish (py "empty final answer") .empty none)), s.workspace)
    else (.ok (.result {
      success := true
      output := .finish (strip text)
      toolName := some ToolName.finish.value
      kind := .text }), s.workspace)

/-- The tool functions of the local backend; `others` are those that are not notes or the answer. -/
def localTools (others : ToolName → ToolFn LocalMemory) : ToolName → ToolFn LocalMemory
  | .writeNote => toolWriteNote env rt
  | .readNote => toolReadNote
  | .finish => toolFinish rt
  | t => others t

/-- The default executor over a registry. -/
def localExecutor (objects : ObjectRuntime) (tools : ToolRegistry LocalMemory) : ToolExecutor LocalMemory where
  tools := tools
  resolveArgs := ArgResolver.resolveArgs rt objects

end
end

/-! ### the record of a note -/

/-- The note of this name is the record of this id, with this content. -/
def StoredAs (rt : MemoryRuntime) (id name content : PyStr) (store : InMemoryStore) : Prop :=
  ∃ r, store.indexedNote name = some r ∧ r.id = id ∧ IsNote rt name r ∧ r.content = content

section
variable (env : NoteEnv) (agent : MemoryAgent) (mem : LocalMemory) {name : PyStr} (content taskId : PyStr)

theorem noteRecord_noteName (m : Readings) :
    InMemoryStore.noteName env.toMemoryRuntime (agent.noteRecord m name content (some taskId) none none
      Dict.empty) = if strip name = [] then none else some (strip name) := by
  have hget : (agent.noteRecord m name content (some taskId) none none Dict.empty).metadata.dict.get?
      (py "name") = some (.str (strip name)) := by
    show (Dict.empty.set (py "name") (PyVal.str (strip name))).get? (py "name") = _
    rw [Dict.get?_set, if_pos rfl]
  unfold InMemoryStore.noteName
  rw [hget]
  show (if strip (env.str (.str (strip name))) = [] then none else some (strip (env.str (.str (strip name))))) = _
  rw [env.str_str, strip_strip]

theorem writeNote_get (hname : strip name ≠ []) :
    ∃ r, (mem.writeNote env agent name content taskId).1 = .ok r ∧
      (mem.writeNote env agent name content taskId).2.store.get (env.uuid mem.made) = some r ∧
      (mem.writeNote env agent name content taskId).2.store.noteIndex.get? (strip name) =
        some (env.uuid mem.made) ∧
      r.id = env.uuid mem.made ∧ IsNote env.toMemoryRuntime (strip name) r ∧ r.content = content := by
  set m := mem.readings env with hm
  set r := (agent.noteRecord m name content (some taskId) none none Dict.empty).markUpdated (m.now 2) with hr
  have hwrite : mem.writeNote env agent name content taskId = (.ok r,
      { store := mem.store.write env.toMemoryRuntime (m.now 2)
          (agent.noteRecord m name content (some taskId) none none Dict.empty)
        ticks := mem.ticks + 3
        made := mem.made + 1 }) := if_neg hname
  have hnote : IsNote env.toMemoryRuntime (strip name) r := by
    exact ⟨rfl, (noteRecord_noteName env agent content taskId m).trans (if_neg hname)⟩
  have hrefiled := refiled_write env.toMemoryRuntime (m.now 2)
    (agent.noteRecord m name content (some taskId) none none Dict.empty) mem.store
  rw [hwrite]
  refine ⟨r, rfl, ?_, ?_, rfl, hnote, rfl⟩
  · have hrecord : (mem.store.write env.toMemoryRuntime (m.now 2)
        (agent.noteRecord m name content (some taskId) none none Dict.empty)).records.get?
          (env.uuid mem.made) = some r := by
      rw [hrefiled.records]
      exact (Dict.get?_set _ _ _ _).trans (if_pos rfl)
    unfold InMemoryStore.get
    rw [hrecord]
    rfl
  · refine (hrefiled.index (strip name)).trans (if_pos ?_)
    exact (noteOf_eq_some _).mpr ⟨hnote, rfl⟩

theorem writeNote_storedAs (hid : env.uuid mem.made ≠ []) (hname : strip name ≠ []) :
    StoredAs env.toMemoryRuntime (env.uuid mem.made) (strip name) content
      (mem.writeNote env agent name content taskId).2.store := by
  obtain ⟨r, -, hget, hindex, hr⟩ := writeNote_get env agent mem content taskId hname
  refine ⟨r, ?_, hr⟩
  unfold InMemoryStore.indexedNote
  rw [hindex]
  exact (if_neg hid).trans hget

theorem storedAs_writeNote {name' content' : PyStr} (hname : strip name ≠ [])
    (h : StoredAs env.toMemoryRuntime (env.uuid mem.made) name' content'
      (mem.writeNote env agent name content taskId).2.store) : name' = strip name ∧ content' = content := by
  obtain ⟨r, -, hget, -, -, hnote, hcontent⟩ := writeNote_get env agent mem content taskId hname
  obtain ⟨r', hindexed, hid, hnote', hcontent'⟩ := h
  have hsame : r' = r := by
    unfold InMemoryStore.indexedNote at hindexed
    split at hindexed
    · exact absurd hindexed (by simp)
    · next memoryId hentry =>
      split_ifs at hindexed
      rw [← (InMemoryStore.get_eq_some.mp hindexed).2, hid, hget] at hindexed
      exact (Option.some.inj hindexed).symm
  rw [hsame] at hnote' hcontent'
  exact ⟨Option.some.inj (hnote'.2.symm.trans hnote.2), hcontent'.symm.trans hcontent⟩

end

end Tomtit
