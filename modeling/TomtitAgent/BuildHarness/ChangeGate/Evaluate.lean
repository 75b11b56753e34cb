import TomtitAgent.Python.Fnmatch
import TomtitAgent.Python.Order
import TomtitAgent.BuildHarness.Contracts

/-!
# `change_gate.py`: the evaluator

* `commandEvidenceError`   why an object is no evidence record;
* `pathMatches`, `normalizeCommand`, `evidenceVerdict`   the helpers of the source;
* `evaluateChangeGate`   the scans over paths, dependencies and evidence, and the decision.

An evidence entry is any object.  Rendering one of its attributes may raise, so the evaluator does.
-/

open Py

namespace Tomtit

/-- `DEPENDENCY_FILES` -/
def dependencyFiles : List PyStr :=
  [py "requirements.txt", py "pyproject.toml", py "poetry.lock", py "package.json",
   py "package-lock.json", py "pnpm-lock.yaml", py "yarn.lock"]

structure Finding where
  type : PyStr
  severity : PyStr
  file : Option PyStr
  reason : PyStr
  evidence : Option PyStr := none

/-- An entry of `rejected_evidence`. -/
structure RejectedEvidence where
  evidenceId : PyVal
  command : PyStr
  reason : PyStr

structure ChangeGateInput where
  contract : TaskContract
  changedFiles : List PyStr
  testsRun : List PyStr := []
  dependencyFilesChanged : List PyStr := []
  expectedCommitSha : PyStr := []
  testEvidence : List PyVal := []

structure ChangeGateDecision where
  decision : PyStr
  findings : List Finding
  matchedRequiredEvidence : List PyStr
  missingRequiredEvidence : List PyStr
  rejectedEvidence : List RejectedEvidence := []
  expectedCommitSha : PyStr := []

/-! ### evidence records -/

/-- `getattr(obj, name, None)` -/
def attr (obj : PyVal) (name : String) : PyVal := (obj.getattr? (py name)).getD .none

/-- `obj.name` -/
def readAttr (obj : PyVal) (name : String) : Except PyExc PyVal :=
  match obj.getattr? (py name) with
  | some v => .ok v
  | none => .error (attributeError (py "'" ++ obj.typeName ++ py "' object has no attribute '" ++
      py name ++ py "'"))

theorem attr_cons {cls repr : PyStr} {key name : String} {v : PyVal}
    {attrs : List (PyStr × PyVal)} : attr (.obj cls repr ((py key, v) :: attrs)) name =
      if name = key then v else attr (.obj cls repr attrs) name := by
  show (List.lookup (py name) ((py key, v) :: attrs)).getD .none = _
  rw [List.lookup_cons]
  by_cases h : name = key
  · rw [if_pos h, h, beq_self_eq_true]
    rfl
  · have hbeq : (py name == py key) = false := beq_eq_false_iff_ne.mpr (mt py_inj.mp h)
    rw [if_neg h, hbeq]
    rfl

/-- `type(value) is str and value.strip()` -/
def isText : PyVal → Bool
  | .str s => strip s ≠ []
  | _ => false

def isInt : PyVal → Bool
  | .int _ => true
  | _ => false

def isBool : PyVal → Bool
  | .bool _ => true
  | _ => false

def isOptText : PyVal → Bool
  | .none => true
  | v => isText v

def isEvidenceId : PyVal → Bool
  | .str s => isValidEvidenceId s
  | _ => false

section
variable (rt : Runtime)

/-- One check of `_command_evidence_error`: the message quotes the value. -/
def requireAttr (ok : PyVal → Bool) (before after : String) (value : PyVal) :
    Except PyExc (Option PyStr) :=
  if ok value then .ok none
  else do
    let text ← reprVal rt value
    return some (py before ++ text ++ py after)

/-- The first message of the checks, which are made in turn. -/
def firstError : List (Except PyExc (Option PyStr)) → Except PyExc (Option PyStr)
  | [] => .ok none
  | check :: checks => do
    let error ← check
    if error.isSome then .ok error else firstError checks

def commandEvidenceError (obj : PyVal) : Except PyExc (Option PyStr) :=
  firstError
    [requireAttr rt isText "command must be a non-empty string, got " "" (attr obj "command"),
     requireAttr rt isInt "exit_code must be an int (not bool/str/float), got " ""
      (attr obj "exit_code"),
     requireAttr rt isBool "completed must be a bool, got " "" (attr obj "completed"),
     requireAttr rt isText "commit_sha must be a non-empty string, got " "" (attr obj "commit_sha"),
     requireAttr rt isText "evidence_id must be a non-empty string, got " ""
      (attr obj "evidence_id"),
     requireAttr rt isEvidenceId "evidence_id " " is not a valid identifier"
      (attr obj "evidence_id"),
     requireAttr rt isOptText "completed_at must be None or a non-empty string, got " ""
      (attr obj "completed_at"),
     requireAttr rt isOptText "artifact_digest must be None or a non-empty string, got " ""
      (attr obj "artifact_digest")]

/-- The attributes that the matching reads of a record that passed the checks. -/
structure CommandEvidence where
  command : PyStr
  exitCode : Int
  completed : Bool
  commitSha : PyStr
  evidenceId : PyStr

def CommandEvidence.ofObject (obj : PyVal) : CommandEvidence where
  command := (attr obj "command").asStr.getD []
  exitCode := match attr obj "exit_code" with
    | .int n => n
    | _ => 0
  completed := match attr obj "completed" with
    | .bool b => b
    | _ => false
  commitSha := (attr obj "commit_sha").asStr.getD []
  evidenceId := (attr obj "evidence_id").asStr.getD []

/-! ### helpers -/

/-- `_path_matches` -/
def pathMatches (file pattern : PyStr) : Bool :=
  if (py "/**").isSuffixOf pattern then
    let stem := pattern.take (pattern.length - 3)
    decide (file = stem) || (stem ++ [47]).isPrefixOf file
  else fnmatch file pattern

def matchesAny (file : PyStr) (patterns : List PyStr) : Bool := patterns.any (pathMatches file)

/-- `" ".join(command.split())` -/
def normalizeCommand (command : PyStr) : PyStr := joinWith [32] (split command)

def evidenceVerdict (ev : CommandEvidence) (expectedCommitSha : PyStr) :
    Except PyExc (Option PyStr) :=
  if ev.completed = false then .ok (some (py "evidence did not complete"))
  else if ev.exitCode ≠ 0 then do
    let code ← strInt rt ev.exitCode
    return some (py "evidence exit_code=" ++ code ++ py " (must be 0)")
  else if strip ev.evidenceId = [] then .ok (some (py "evidence_id is empty"))
  else if expectedCommitSha = [] then .ok (some
    (py "expected_commit_sha is not set; commit-bound evidence cannot be verified"))
  else if ev.commitSha ≠ expectedCommitSha then .ok (some
    (py "commit_sha mismatch: evidence=" ++ reprStr rt ev.commitSha ++ py " expected=" ++
      reprStr rt expectedCommitSha))
  else .ok none

/-! ### the scans -/

def block : PyStr := py "block"
def warning : PyStr := py "warning"

/-- Step 0: the findings on paths that do not normalise, and the normalised paths without
repetition; `normalizedFiles` are the paths so far. -/
def scanChangedFiles (normalizedFiles : List PyStr) : List PyStr → List Finding × List PyStr
  | [] => ([], normalizedFiles)
  | raw :: rest => match normalizeRepoPath rt raw with
    | .error exc =>
      let scanned := scanChangedFiles normalizedFiles rest
      (⟨py "invalid_changed_path", block, some raw, exc.msg, none⟩ :: scanned.1, scanned.2)
    | .ok normalized =>
      scanChangedFiles (if normalized ∈ normalizedFiles then normalizedFiles
        else normalizedFiles ++ [normalized]) rest

def scopeFindings (contract : TaskContract) (file : PyStr) : List Finding :=
  if matchesAny file contract.forbiddenPaths then
    [⟨py "forbidden_path", block, some file, file ++ py " matches a forbidden path pattern", none⟩]
  else if contract.allowedPaths ≠ [] ∧ contract.broadScopeAllowed = false ∧
      matchesAny file contract.allowedPaths = false then
    [⟨py "out_of_scope", warning, some file,
      file ++ py " is outside the contract's allowed paths", none⟩]
  else []

def dependencyFindings (i : ChangeGateInput) (normalizedFiles : List PyStr) : List Finding :=
  let dependencyTouched := i.dependencyFilesChanged ++
    normalizedFiles.filter fun f => pathName f ∈ dependencyFiles
  if dependencyTouched ≠ [] ∧ py "dependency_change" ∈ i.contract.requiresHumanApprovalFor then
    (sortedSet dependencyTouched).map fun file =>
      ⟨py "dependency_change", warning, some file, file ++ py (" is a dependency file; contract " ++
        "requires human approval for dependency changes"), none⟩
  else []

/-- Pass 1: the valid identifiers, one for each record that carries one. -/
def validIds (testEvidence : List PyVal) : List PyStr :=
  testEvidence.filterMap fun ev => match attr ev "evidence_id" with
    | .str eid => if isValidEvidenceId eid then some eid else none
    | _ => none

def duplicateIds (testEvidence : List PyVal) : List PyStr :=
  (validIds testEvidence).dedup.filter fun eid => 1 < (validIds testEvidence).count eid

/-- Pass 3 for one record: what is recorded about it when it is malformed. -/
def rejectBody (index : Nat) (ev : PyVal) : Except PyExc (Option (RejectedEvidence × Finding)) := do
  let malformed ← commandEvidenceError rt ev
  match malformed with
  | none => return none
  | some malformed => do
    let command ← strVal rt ((ev.getattr? (py "command")).getD (.str (py "<unknown>")))
    return some
      (⟨(ev.getattr? (py "evidence_id")).getD (.str (py "<index " ++ natText index ++ py ">")),
        command.take 200, py "malformed evidence: " ++ malformed⟩,
       ⟨py "invalid_evidence", block, none,
        py "malformed evidence at index " ++ natText index ++ py ": " ++ malformed, none⟩)

/-- Pass 3 from the record with index `index` on: each record with what is recorded about it. -/
def validateBodies : Nat → List PyVal →
    Except PyExc (List (PyVal × Option (RejectedEvidence × Finding)))
  | _, [] => .ok []
  | index, ev :: rest => do
    let rejection ← rejectBody rt index ev
    let bodies ← validateBodies (index + 1) rest
    return (ev, rejection) :: bodies

/-- `usable_evidence` -/
def usableOf (bodies : List (PyVal × Option (RejectedEvidence × Finding))) : List CommandEvidence :=
  (bodies.filter fun body => body.2.isNone).map fun body => CommandEvidence.ofObject body.1

/-- The finding on an ambiguous identity, and its entry among the rejected. -/
def duplicateFinding (testEvidence : List PyVal) (eid : PyStr) : Finding :=
  ⟨py "duplicate_evidence_id", block, none, py "evidence_id " ++ reprStr rt eid ++ py " appears " ++
    natText ((validIds testEvidence).count eid) ++ py " times; evidence identity is ambiguous",
    some eid⟩

def duplicateRejected (testEvidence : List PyVal) (eid : PyStr) : RejectedEvidence :=
  ⟨.str eid, py "<multiple>", py "duplicate evidence_id used " ++
    natText ((validIds testEvidence).count eid) ++ py " times"⟩

/-- Pass 4 for one requirement: whether a record satisfies it, and the records of its command that
were rejected before one did. -/
def scanEvidence (i : ChangeGateInput) (required : PyStr) :
    List CommandEvidence → Except PyExc (Bool × List RejectedEvidence)
  | [] => .ok (false, [])
  | ev :: rest =>
    if ev.evidenceId ∈ duplicateIds i.testEvidence then scanEvidence i required rest
    else if normalizeCommand ev.command ≠ normalizeCommand required then
      scanEvidence i required rest
    else do
      let reason ← evidenceVerdict rt ev i.expectedCommitSha
      match reason with
      | none => return (true, [])
      | some reason => do
        let scanned ← scanEvidence i required rest
        return (scanned.1, ⟨.str ev.evidenceId, ev.command, reason⟩ :: scanned.2)

/-- Pass 4: every requirement with the outcome of its scan. -/
def matchRequirements (i : ChangeGateInput) (usable : List CommandEvidence) :
    List PyStr → Except PyExc (List (PyStr × Bool × List RejectedEvidence))
  | [] => .ok []
  | required :: rest => do
    let scanned ← scanEvidence rt i required usable
    let outcomes ← matchRequirements i usable rest
    return (required, scanned) :: outcomes

def missingFinding (i : ChangeGateInput) (required : PyStr) : Finding :=
  let reason := py "required evidence not proven by structured evidence: " ++ required
  ⟨py "missing_evidence", warning, none,
    if i.testsRun.any fun entry => decide (required <:+: entry) then reason ++
      py (" (a matching legacy tests_run string exists but is unverified and cannot satisfy " ++
        "evidence)")
    else reason, some required⟩

def noChangedFiles : Finding :=
  ⟨py "no_changed_files", warning, none, py "no changed files were reported for this task", none⟩

def noEvidence : Finding :=
  ⟨py "no_evidence", warning, none, py "no structured evidence was provided for this change", none⟩

def decisionOf (findings : List Finding) : PyStr :=
  if findings.any fun f => f.severity = block then py "BLOCK"
  else if findings.any fun f => f.severity = warning then py "REVIEW_REQUIRED"
  else py "PASS"

def gateFindings (i : ChangeGateInput)
    (bodies : List (PyVal × Option (RejectedEvidence × Finding)))
    (outcomes : List (PyStr × Bool × List RejectedEvidence)) : List Finding :=
  let scanned := scanChangedFiles rt [] i.changedFiles
  scanned.1 ++
  (if i.changedFiles = [] then [noChangedFiles] else []) ++
  scanned.2.flatMap (scopeFindings i.contract) ++
  dependencyFindings i scanned.2 ++
  bodies.filterMap (fun body => body.2.map Prod.snd) ++
  (sorted (duplicateIds i.testEvidence)).map (duplicateFinding rt i.testEvidence) ++
  (outcomes.filter fun o => o.2.1 = false).map (fun o => missingFinding i o.1) ++
  (if i.testEvidence = [] ∧ i.contract.requiredEvidence = [] then [noEvidence] else [])

def evaluateChangeGate (i : ChangeGateInput) : Except PyExc ChangeGateDecision := do
  let bodies ← validateBodies rt 0 i.testEvidence
  let outcomes ← matchRequirements rt i (usableOf bodies) i.contract.requiredEvidence
  let findings := gateFindings rt i bodies outcomes
  return {
    decision := decisionOf findings
    findings := findings
    matchedRequiredEvidence := (outcomes.filter fun o => o.2.1 = true).map Prod.fst
    missingRequiredEvidence := (outcomes.filter fun o => o.2.1 = false).map Prod.fst
    rejectedEvidence := bodies.filterMap (fun body => body.2.map Prod.fst) ++
      (sorted (duplicateIds i.testEvidence)).map (duplicateRejected i.testEvidence) ++
      outcomes.flatMap (fun o => o.2.2)
    expectedCommitSha := i.expectedCommitSha }

end

end Tomtit
