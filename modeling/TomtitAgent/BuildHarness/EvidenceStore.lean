import TomtitAgent.BuildHarness.Contracts
import TomtitAgent.Python.FileTree
import TomtitAgent.Python.JsonBytes

/-!
# `evidence_store.py`: the evidence store

The store writes below one root directory that nobody else writes to; no symbolic link is in it, so
the containment checks of the source find nothing.

* `writeAtomic`   a temporary file, then `os.replace`; `WriteEnv` is what the operating system does
  meanwhile, failures included;
* `Save`, `EvidenceStore.save`   the four save operations;
* `EvidenceStore.appendEvent`   the event log;
* `EvidenceStore.loadTaskSummary`   everything that is stored for a task.

Paths are those below the root.  A message ends where the source appends the text of a decoder's
exception.
-/

open Py

namespace Tomtit

def invalidEvidenceIdentifierError (msg : PyStr) : PyExc :=
  ⟨["InvalidEvidenceIdentifierError", "ValueError"], msg⟩
def evidenceConflictError (msg : PyStr) : PyExc := ⟨["EvidenceConflictError", "RuntimeError"], msg⟩
def evidenceCorruptionError (msg : PyStr) : PyExc :=
  ⟨["EvidenceCorruptionError", "RuntimeError"], msg⟩
def evidenceStructureError (msg : PyStr) : PyExc :=
  ⟨["EvidenceStructureError", "EvidenceCorruptionError", "RuntimeError"], msg⟩
def fileExistsError (msg : PyStr) : PyExc := ⟨["FileExistsError", "OSError"], msg⟩

/-- `EvidenceStore`; `root` is `str(self._root)`. -/
structure EvidenceStore where
  root : PyStr

def EvidenceStore.pathText (store : EvidenceStore) (p : Path) : PyStr := joinWith [47] (store.root :: p)

section
variable (rt : Runtime) (store : EvidenceStore)

/-- `validate_task_id` -/
def validateTaskId (value : PyStr) : Except PyExc Unit :=
  raiseIf (isValidTaskId value = false) (invalidEvidenceIdentifierError
    (py "invalid task_id " ++ reprStr rt value ++ py (": must match [A-Za-z0-9][A-Za-z0-9._-]" ++
      "\x7b0,127\x7d (no separators, no traversal, no whitespace/control characters)")))

/-- `validate_artifact_name(value, kind=kind)` -/
def validateArtifactName (kind value : PyStr) : Except PyExc Unit :=
  raiseIf (isValidEvidenceId value = false) (invalidEvidenceIdentifierError
    (py "invalid " ++ kind ++ py " " ++ reprStr rt value ++
      py ": must match [A-Za-z0-9][A-Za-z0-9_-]\x7b0,63\x7d"))

/-- `_target(task_id, *parts)` -/
def target (taskId : PyStr) (parts : Path) : Except PyExc Path := do
  validateTaskId rt taskId
  return taskId :: parts

/-! ### writing an artifact -/

/-- Where a write fails; `unlinked` tells whether the temporary file could be removed. -/
inductive WriteFault
  /-- the temporary file cannot be created -/
  | creating (e : PyExc)
  /-- it is created, but only a part of the data reaches it -/
  | writing (e : PyExc) (part : Bytes) (unlinked : Bool)
  /-- it is written, but cannot be renamed -/
  | replacing (e : PyExc) (unlinked : Bool)

/-- What the operating system does during one save: the random part of the temporary name, from the
characters `mkstemp` draws, and whether the write fails. -/
structure WriteEnv where
  suffix : PyStr
  fault : Option WriteFault
  suffix_chars : ∀ c ∈ suffix, isLower c = true ∨ isDigit c = true ∨ c = 95

def temporaryName (suffix : PyStr) : PyStr := py ".tmp-evidence-" ++ suffix

/-- The temporary file of a write, in the directory of its target. -/
def temporaryPath (p : Path) (env : WriteEnv) : Path := p.dropLast ++ [temporaryName env.suffix]

/-- The `except` clause: the temporary file is unlinked if it can be. -/
def afterFault (t : FileTree) (tmp : Path) (unlinked : Bool) : FileTree :=
  if unlinked then t.remove tmp else t

/-- The write of `_write_atomic` when nothing is at the target. -/
def writeNew (env : WriteEnv) (t : FileTree) (p : Path) (encoded : Bytes) :
    FileTree × Except PyExc Path :=
  let tmp := temporaryPath p env
  match env.fault with
  | some (.creating e) => (t, .error e)
  | some (.writing e part unlinked) => (afterFault (t.write tmp part) tmp unlinked, .error e)
  | some (.replacing e unlinked) => (afterFault (t.write tmp encoded) tmp unlinked, .error e)
  | none => ((t.write tmp encoded).rename tmp p, .ok p)

/-- `_write_atomic(target, data)` -/
def EvidenceStore.writeAtomic (env : WriteEnv) (t : FileTree) (p : Path) (data : PyStr) :
    FileTree × Except PyExc Path :=
  match encodeUtf8 data with
  | .error e => (t, .error e)
  | .ok encoded => match t.read? p with
    | some existing =>
      if existing = encoded then (t, .ok p)
      else (t, .error (evidenceConflictError
        (py "artifact already exists with different content: " ++ store.pathText p)))
    | none =>
      -- `mkstemp` never opens a file that is there
      if t.read? (temporaryPath p env) ≠ none then
        (t, .error (fileExistsError (py "No usable temporary file name found")))
      else writeNew env t p encoded

/-! ### the save operations -/

def contractToDict (c : TaskContract) : PyVal :=
  .record
    [(py "task_id", .str c.taskId),
     (py "title", .str c.title),
     (py "goal", .str c.goal),
     (py "allowed_paths", .strList c.allowedPaths),
     (py "forbidden_paths", .strList c.forbiddenPaths),
     (py "acceptance_criteria", .strList c.acceptanceCriteria),
     (py "required_evidence", .strList c.requiredEvidence),
     (py "risk_level", .str c.riskLevel),
     (py "requires_human_approval_for", .strList c.requiresHumanApprovalFor),
     (py "broad_scope_allowed", .bool c.broadScopeAllowed)]

/-- The text of `_write_json`. -/
def jsonFile (payload : PyVal) : Except PyExc PyStr := do
  let text ← dumpsIn rt (.indented 2) payload
  return text ++ [newline]

/-- A call of `save_contract`, `save_prompt`, `save_report` or `save_gate_result`. -/
inductive Save
  | contract (contract : TaskContract)
  | prompt (taskId role prompt : PyStr)
  | report (taskId role text : PyStr)
  | gateResult (taskId name : PyStr) (payload : PyVal)

/-- The checks of a save operation, its target and its text. -/
def Save.plan : Save → Except PyExc (Path × PyStr)
  | .contract c => do
    let p ← target rt c.taskId [py "contract.json"]
    let text ← jsonFile rt (contractToDict c)
    return (p, text)
  | .prompt taskId role text => do
    validateArtifactName rt (py "prompt role") role
    let p ← target rt taskId [py "prompts", role ++ py ".md"]
    return (p, text)
  | .report taskId role text => do
    validateArtifactName rt (py "report role") role
    let p ← target rt taskId [py "reports", role ++ py ".md"]
    return (p, text)
  | .gateResult taskId name payload => do
    validateArtifactName rt (py "gate name") name
    let p ← target rt taskId [py "gate", name ++ py ".json"]
    let text ← jsonFile rt payload
    return (p, text)

def EvidenceStore.save (s : Save) (env : WriteEnv) (t : FileTree) : FileTree × Except PyExc Path :=
  match s.plan rt with
  | .error e => (t, .error e)
  | .ok (p, text) => store.writeAtomic env t p text

/-! ### the event log -/

/-- What `datetime.now(timezone.utc).isoformat()` returns. -/
structure Timestamp where
  text : PyStr
  chars : ∀ c ∈ text, isDigit c = true ∨ c ∈ [45, 84, 58, 46, 43]
  nonempty : text ≠ []

def eventsPath (taskId : PyStr) : Path := [taskId, py "events.jsonl"]

def eventDict (timestamp : Timestamp) (taskId eventType : PyStr) (payload : PyVal) : PyVal :=
  .record
    [(py "timestamp", .str timestamp.text),
     (py "task_id", .str taskId),
     (py "event_type", .str eventType),
     (py "payload", payload)]

/-- `path.open("a")` creates a missing file. -/
def touch (t : FileTree) (p : Path) : FileTree :=
  match t.read? p with
  | some _ => t
  | none => t.write p .empty

def appendBytes (t : FileTree) (p : Path) (b : Bytes) : FileTree :=
  t.write p ((t.read? p).getD .empty ++ b)

def eventLine (timestamp : Timestamp) (taskId eventType : PyStr) (payload : PyVal) :
    Except PyExc Bytes := do
  let text ← dumpsIn rt .spaced (eventDict timestamp taskId eventType payload)
  encodeUtf8 (text ++ [newline])

def EvidenceStore.appendEvent (t : FileTree) (taskId eventType : PyStr) (timestamp : Timestamp)
    (payload : PyVal) : FileTree × Except PyExc Path :=
  let checked : Except PyExc Path := do
    validateArtifactName rt (py "event type") eventType
    target rt taskId [py "events.jsonl"]
  match checked with
  | .error e => (t, .error e)
  | .ok p => match eventLine rt timestamp taskId eventType payload with
    | .error e => (touch t p, .error e)
    | .ok line => (appendBytes t p line, .ok p)

/-! ### reading a task back -/

structure TaskSummary where
  taskId : PyStr
  contract : Option Json
  prompts : List (PyStr × PyStr)
  reports : List (PyStr × PyStr)
  gates : List (PyStr × Json)
  events : List Json

/-- `path.read_text(encoding="utf-8")` of an existing file -/
def readText (b : Bytes) : Except PyExc PyStr :=
  match decodeText b with
  | some s => .ok s
  | none => .error (unicodeDecodeError (py "'utf-8' codec can't decode bytes"))

/-- `json.loads(text)`, where a `JSONDecodeError` becomes another exception. -/
def loadsOr (corrupt : PyExc) (text : PyStr) : Except PyExc Json :=
  match Scan.loads rt text with
  | .ok j => .ok j
  | .error e => .error (if e.isA "JSONDecodeError" then corrupt else e)

/-- `_read_json(path)` -/
def readJson (p : Path) (b : Bytes) : Except PyExc Json :=
  let corrupt := evidenceCorruptionError (py "corrupt evidence artifact " ++ store.pathText p)
  match decodeText b with
  | some text => loadsOr rt corrupt text
  | none => .error corrupt

/-- `type(value).__name__` of a loaded value -/
def Json.typeName (j : Json) : PyStr := (JsonLoad.toPy j).typeName

/-- The string that a loaded object has under a key, if it has one. -/
def jsonStr (kvs : List (PyStr × Json)) (key : PyStr) : Option PyStr :=
  match assoc kvs key with
  | some (.str s) => some s
  | _ => none

/-- `value.get(key)` of a loaded object -/
def jsonGet (kvs : List (PyStr × Json)) (key : PyStr) : PyVal :=
  ((assoc kvs key).map JsonLoad.toPy).getD .none

def readContract (taskId : PyStr) (p : Path) (b : Bytes) : Except PyExc Json := do
  let contract ← readJson rt store p b
  match contract with
  | .obj kvs =>
    if jsonStr kvs (py "task_id") = some taskId then return contract
    else do
      let storedTaskId ← reprVal rt (jsonGet kvs (py "task_id"))
      .error (evidenceStructureError (py "contract.json task_id " ++ storedTaskId ++
        py " does not match the requested namespace " ++ reprStr rt taskId))
  | j => .error (evidenceStructureError
    (py "contract.json must be a JSON object, got " ++ Json.typeName j))

/-- The files of a directory with a suffix, each read, under their stems. -/
def readDirectory {α : Type} (t : FileTree) (dir : Path) (suffix : PyStr)
    (read : Path → Bytes → Except PyExc α) : Except PyExc (List (PyStr × α)) :=
  ((t.names dir).filter fun name => endsWith name suffix).mapM fun name => do
    let p := dir ++ [name]
    let value ← read p ((t.read? p).getD .empty)
    return (stem name, value)

def readGate (p : Path) (b : Bytes) : Except PyExc Json := do
  let gatePayload ← readJson rt store p b
  match gatePayload with
  | .obj _ => return gatePayload
  | j => .error (evidenceStructureError
    (p.getLast?.getD [] ++ py " must be a JSON object, got " ++ Json.typeName j))

/-- `_validate_event_structure`; `loc` is where the event stands. -/
def validateEventStructure (event : Json) (loc taskId : PyStr) : Except PyExc Unit :=
  match event with
  | .obj kvs => do
    [py "task_id", py "event_type", py "timestamp"].forM fun key =>
      raiseIf (strip ((jsonStr kvs key).getD []) = []) (evidenceStructureError
        (py "event at " ++ loc ++ py " field " ++ reprStr rt key ++
          py " must be a non-empty string"))
    raiseIf (jsonStr kvs (py "task_id") ≠ some taskId) (evidenceStructureError
      (py "event at " ++ loc ++ py " task_id " ++ reprStr rt ((jsonStr kvs (py "task_id")).getD []) ++
        py " does not match the requested namespace " ++ reprStr rt taskId))
    match assoc kvs (py "payload") with
    | some (.obj _) => .ok ()
    | _ => .error (evidenceStructureError
      (py "event at " ++ loc ++ py " payload must be a JSON object"))
  | j => .error (evidenceStructureError
    (py "event at " ++ loc ++ py " must be a JSON object, got " ++ Json.typeName j))

/-- The loop over the lines of the log, from line `lineNumber` on. -/
def readEvents (taskId : PyStr) : Nat → List PyStr → Except PyExc (List Json)
  | _, [] => .ok []
  | lineNumber, line :: lines =>
    if strip line = [] then readEvents taskId (lineNumber + 1) lines
    else do
      let loc := store.pathText (eventsPath taskId) ++ py ":" ++ natText lineNumber
      let event ← loadsOr rt (evidenceCorruptionError (py "corrupt event at " ++ loc)) line
      validateEventStructure rt event loc taskId
      let events ← readEvents taskId (lineNumber + 1) lines
      return event :: events

/-- `if path.exists(): ...` -/
def readIfExists {α : Type} (t : FileTree) (p : Path) (missing : α)
    (read : Bytes → Except PyExc α) : Except PyExc α :=
  match t.read? p with
  | none => .ok missing
  | some b => read b

def EvidenceStore.loadTaskSummary (t : FileTree) (taskId : PyStr) : Except PyExc TaskSummary := do
  validateTaskId rt taskId
  let contractPath := [taskId, py "contract.json"]
  let contract ← readIfExists t contractPath none fun b =>
    (readContract rt store taskId contractPath b).map some
  let prompts ← readDirectory t [taskId, py "prompts"] (py ".md") fun _ => readText
  let reports ← readDirectory t [taskId, py "reports"] (py ".md") fun _ => readText
  let gates ← readDirectory t [taskId, py "gate"] (py ".json") (readGate rt store)
  let events ← readIfExists t (eventsPath taskId) [] fun b => do
    let text ← readText b
    readEvents rt store taskId 1 (splitlines text)
  return { taskId, contract, prompts, reports, gates, events }

end

end Tomtit
