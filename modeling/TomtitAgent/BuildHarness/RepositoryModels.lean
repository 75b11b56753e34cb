import TomtitAgent.BuildHarness.Identifiers
import TomtitAgent.BuildHarness.Timestamps
import TomtitAgent.Python.StrEnum

/-!
# `repository_models.py`

* `GitObjectFormat`, …, `VerificationStatus`   the closed enums;
* `CandidateBinding`, `RepositorySnapshot`, `CommandRequirement`   the fields, the checks of `__post_init__`
  (`postInit`), the arguments that the constructor accepts, and the payload (`toJsonDict`);
* `candidateSnapshotMismatches`   the fields on which a snapshot does not bind to a candidate.
-/

open Py

namespace Tomtit

/-! ### enums -/

inductive GitObjectFormat where
  | sha1
  | sha256
deriving DecidableEq, Repr

inductive DirtyState where
  | clean
  | dirty
deriving DecidableEq, Repr

inductive EvidenceSource where
  | localControlledCollector
  | importedClaim
deriving DecidableEq, Repr

inductive VerificationStatus where
  | verified
  | stale
  | repositoryMismatch
  | commitMismatch
  | treeMismatch
  | dirtyWorktree
  | commandMismatch
  | executionFailed
  | snapshotChanged
  | duplicateIdentity
  | invalidProvenance
  | unsupportedSchema
  | unsupportedCollector
  | inspectionFailed
deriving DecidableEq, Repr

instance : StrEnum GitObjectFormat where
  clsName := py "GitObjectFormat"
  members := [.sha1, .sha256]
  value
    | .sha1 => py "sha1"
    | .sha256 => py "sha256"
  mem_members a := by cases a <;> simp
  value_inj a b := by cases a <;> cases b <;> simp
  value_ascii a := by cases a <;> exact ascii_lit _ (by decide)

instance : StrEnum DirtyState where
  clsName := py "DirtyState"
  members := [.clean, .dirty]
  value
    | .clean => py "CLEAN"
    | .dirty => py "DIRTY"
  mem_members a := by cases a <;> simp
  value_inj a b := by cases a <;> cases b <;> simp
  value_ascii a := by cases a <;> exact ascii_lit _ (by decide)

instance : StrEnum EvidenceSource where
  clsName := py "EvidenceSource"
  members := [.localControlledCollector, .importedClaim]
  value
    | .localControlledCollector => py "LOCAL_CONTROLLED_COLLECTOR"
    | .importedClaim => py "IMPORTED_CLAIM"
  mem_members a := by cases a <;> simp
  value_inj a b := by cases a <;> cases b <;> simp
  value_ascii a := by cases a <;> exact ascii_lit _ (by decide)

instance : StrEnum VerificationStatus where
  clsName := py "VerificationStatus"
  members := [.verified, .stale, .repositoryMismatch, .commitMismatch, .treeMismatch, .dirtyWorktree,
    .commandMismatch, .executionFailed, .snapshotChanged, .duplicateIdentity, .invalidProvenance,
    .unsupportedSchema, .unsupportedCollector, .inspectionFailed]
  value
    | .verified => py "VERIFIED"
    | .stale => py "STALE"
    | .repositoryMismatch => py "REPOSITORY_MISMATCH"
    | .commitMismatch => py "COMMIT_MISMATCH"
    | .treeMismatch => py "TREE_MISMATCH"
    | .dirtyWorktree => py "DIRTY_WORKTREE"
    | .commandMismatch => py "COMMAND_MISMATCH"
    | .executionFailed => py "EXECUTION_FAILED"
    | .snapshotChanged => py "SNAPSHOT_CHANGED"
    | .duplicateIdentity => py "DUPLICATE_IDENTITY"
    | .invalidProvenance => py "INVALID_PROVENANCE"
    | .unsupportedSchema => py "UNSUPPORTED_SCHEMA"
    | .unsupportedCollector => py "UNSUPPORTED_COLLECTOR"
    | .inspectionFailed => py "INSPECTION_FAILED"
  mem_members a := by cases a <;> simp
  value_inj a b := by cases a <;> cases b <;> simp
  value_ascii a := by cases a <;> exact ascii_lit _ (by decide)

/-! ### more checks of `canonical.py` -/

section
variable (rt : Runtime)

namespace Canonical

/-- `for index, item in enumerate(value): check(item, field=f"{field}[{index}]")` -/
def eachItem (check : PyStr → PyStr → Except PyExc Unit) (field : PyStr) : Nat → List PyStr → Except PyExc Unit
  | _, [] => .ok ()
  | i, item :: rest => do
    check (field ++ py "[" ++ natText i ++ py "]") item
    eachItem check field (i + 1) rest

/-- `require_str` of a value that is a string. -/
def requireText (field text : PyStr) : Except PyExc Unit := do
  let _ ← requireStr field false (.str text)

/-- `require_str_tuple` -/
def requireStrTuple (field : PyStr) (value : List PyStr) : Except PyExc Unit := eachItem requireText field 0 value

def requireSorted (field : PyStr) (duplicate : PyStr) (value : List PyStr) : Except PyExc Unit := do
  raiseIf (value ≠ sorted value) (p09bValidationError (field ++ py " must be lexicographically sorted"))
  raiseIf (distinct value = false) (p09bValidationError (field ++ duplicate))

/-- `require_sorted_unique_str_tuple` -/
def requireSortedUniqueStrTuple (field : PyStr) (value : List PyStr) : Except PyExc Unit := do
  requireStrTuple field value
  eachItem (fun path item => do
    raiseIf (item = []) (p09bValidationError (path ++ py " must be a non-empty string"))
    rejectControlCharacters path item) field 0 value
  requireSorted field (py " must not contain duplicate entries") value

def validateWorkingDirectory (field text : PyStr) : Except PyExc Unit := do
  requireText field text
  if text = py "." then .ok ()
  else do
    let _ ← validateRepoPath rt field (.str text)

def validateRepositoryRootHint (field text : PyStr) : Except PyExc Unit := do
  requireText field text
  rejectControlCharacters field text

end Canonical

/-- `_require_schema` -/
def requireSchema (expected value : PyStr) : Except PyExc Unit :=
  raiseIf (value ≠ expected) (p09bValidationError (py "schema_version must be exactly " ++ reprStr rt expected ++
    py ", got " ++ reprStr rt value))

/-- `_validate_sorted_unique_paths` -/
def validateSortedUniquePaths (field : PyStr) (paths : List PyStr) : Except PyExc Unit := do
  Canonical.requireStrTuple field paths
  Canonical.eachItem (fun _ p => do
    let _ ← validateRepoPath rt field (.str p)) field 0 paths
  Canonical.requireSorted field (py " must not contain duplicates") paths

/-- `_validate_argv` -/
def validateArgv (field : PyStr) (argv : List PyStr) : Except PyExc Unit := do
  raiseIf (argv = []) (p09bValidationError (field ++ py " must be a non-empty tuple"))
  Canonical.eachItem (fun path arg => do
    raiseIf (arg = []) (p09bValidationError (path ++ py " must be a non-empty string"))
    raiseIf (arg.any isControl) (p09bValidationError (path ++ py " contains NUL/control characters")))
    field 0 argv

/-! ### the candidate -/

@[ext]
structure CandidateBindingArgs where
  schemaVersion : PyStr
  repositoryId : PyStr
  objectFormat : GitObjectFormat
  baseCommitSha : PyStr
  candidateCommitSha : PyStr
  candidateTreeSha : PyStr
  contractDigest : PyStr
  changedFilesDigest : PyStr
deriving DecidableEq

/-- `CandidateBinding.__post_init__` -/
def CandidateBindingArgs.postInit (c : CandidateBindingArgs) : Except PyExc Unit := do
  let fmt := StrEnum.value c.objectFormat
  requireSchema rt (py "p0-9b.candidate-binding.v1") c.schemaVersion
  let _ ← Canonical.validateSha256Digest rt (py "repository_id") (.str c.repositoryId)
  let _ ← Canonical.validateGitObjectSha rt (py "base_commit_sha") (.str c.baseCommitSha) fmt
  let _ ← Canonical.validateGitObjectSha rt (py "candidate_commit_sha") (.str c.candidateCommitSha) fmt
  let _ ← Canonical.validateGitObjectSha rt (py "candidate_tree_sha") (.str c.candidateTreeSha) fmt
  let _ ← Canonical.validateSha256Digest rt (py "contract_digest") (.str c.contractDigest)
  let _ ← Canonical.validateSha256Digest rt (py "changed_files_digest") (.str c.changedFilesDigest)

structure CandidateBinding extends CandidateBindingArgs where
  postInit_ok : toCandidateBindingArgs.postInit rt = .ok ()

namespace CandidateBinding
variable {rt}

theorem ext_args {c d : CandidateBinding rt} (h : c.toCandidateBindingArgs = d.toCandidateBindingArgs) : c = d := by
  obtain ⟨args, hc⟩ := c
  obtain ⟨args', hd⟩ := d
  obtain rfl : args = args' := h
  rfl

instance : DecidableEq (CandidateBinding rt) := fun c d =>
  decidable_of_iff (c.toCandidateBindingArgs = d.toCandidateBindingArgs) ⟨ext_args, fun h => h ▸ rfl⟩

def toJsonDict (c : CandidateBinding rt) : PyVal := .record
  [(py "schema_version", .str c.schemaVersion),
   (py "repository_id", .str c.repositoryId),
   (py "object_format", .str (StrEnum.value c.objectFormat)),
   (py "base_commit_sha", .str c.baseCommitSha),
   (py "candidate_commit_sha", .str c.candidateCommitSha),
   (py "candidate_tree_sha", .str c.candidateTreeSha),
   (py "contract_digest", .str c.contractDigest),
   (py "changed_files_digest", .str c.changedFilesDigest)]

end CandidateBinding

/-! ### the snapshot -/

@[ext]
structure RepositorySnapshotArgs where
  schemaVersion : PyStr
  snapshotId : PyStr
  repositoryId : PyStr
  repositoryRootHint : PyStr
  objectFormat : GitObjectFormat
  headCommitSha : PyStr
  headTreeSha : PyStr
  baseCommitSha : PyStr
  branchName : Option PyStr
  detachedHead : Bool
  stagedChanges : List PyStr
  unstagedChanges : List PyStr
  untrackedFiles : List PyStr
  submoduleChanges : List PyStr
  changedFiles : List PyStr
  changedFilesDigest : PyStr
  isReleaseClean : Bool
  capturedAt : PyStr
  inspectorVersion : PyStr
deriving DecidableEq

namespace RepositorySnapshotArgs

def computedClean (s : RepositorySnapshotArgs) : Bool :=
  s.stagedChanges.isEmpty && s.unstagedChanges.isEmpty && s.untrackedFiles.isEmpty && s.submoduleChanges.isEmpty

/-- `RepositorySnapshot.__post_init__` -/
def postInit (s : RepositorySnapshotArgs) : Except PyExc Unit := do
  let fmt := StrEnum.value s.objectFormat
  requireSchema rt (py "p0-9b.repository-snapshot.v1") s.schemaVersion
  let _ ← Canonical.validateGeneratedId rt (py "snapshot_id") (.str s.snapshotId)
  let _ ← Canonical.validateSha256Digest rt (py "repository_id") (.str s.repositoryId)
  Canonical.validateRepositoryRootHint (py "repository_root_hint") s.repositoryRootHint
  let _ ← Canonical.validateGitObjectSha rt (py "head_commit_sha") (.str s.headCommitSha) fmt
  let _ ← Canonical.validateGitObjectSha rt (py "head_tree_sha") (.str s.headTreeSha) fmt
  let _ ← Canonical.validateGitObjectSha rt (py "base_commit_sha") (.str s.baseCommitSha) fmt
  raiseIf (s.detachedHead = true ∧ s.branchName ≠ none)
    (p09bValidationError (py "detached_head=True requires branch_name=None"))
  raiseIf (s.detachedHead = false ∧ s.branchName.getD [] = [])
    (p09bValidationError (py "detached_head=False requires a non-empty branch_name"))
  validateSortedUniquePaths rt (py "staged_changes") s.stagedChanges
  validateSortedUniquePaths rt (py "unstaged_changes") s.unstagedChanges
  validateSortedUniquePaths rt (py "untracked_files") s.untrackedFiles
  validateSortedUniquePaths rt (py "submodule_changes") s.submoduleChanges
  validateSortedUniquePaths rt (py "changed_files") s.changedFiles
  let _ ← Canonical.validateSha256Digest rt (py "changed_files_digest") (.str s.changedFilesDigest)
  let expected ← Tomtit.changedFilesDigest rt s.changedFiles
  raiseIf (s.changedFilesDigest ≠ expected)
    (p09bValidationError (py "changed_files_digest does not match changed_files"))
  raiseIf (s.isReleaseClean ≠ s.computedClean) (p09bValidationError
    (py "is_release_clean must equal (no staged/unstaged/untracked/submodule changes)"))
  let _ ← Canonical.validateRfc3339Utc rt (py "captured_at") s.capturedAt
  Canonical.requireText (py "inspector_version") s.inspectorVersion

end RepositorySnapshotArgs

structure RepositorySnapshot extends RepositorySnapshotArgs where
  postInit_ok : toRepositorySnapshotArgs.postInit rt = .ok ()

variable {rt}

def RepositorySnapshot.toJsonDict (s : RepositorySnapshot rt) : PyVal := .record
  [(py "schema_version", .str s.schemaVersion),
   (py "snapshot_id", .str s.snapshotId),
   (py "repository_id", .str s.repositoryId),
   (py "repository_root_hint", .str s.repositoryRootHint),
   (py "object_format", .str (StrEnum.value s.objectFormat)),
   (py "head_commit_sha", .str s.headCommitSha),
   (py "head_tree_sha", .str s.headTreeSha),
   (py "base_commit_sha", .str s.baseCommitSha),
   (py "branch_name", .optStr s.branchName),
   (py "detached_head", .bool s.detachedHead),
   (py "staged_changes", .strList s.stagedChanges),
   (py "unstaged_changes", .strList s.unstagedChanges),
   (py "untracked_files", .strList s.untrackedFiles),
   (py "submodule_changes", .strList s.submoduleChanges),
   (py "changed_files", .strList s.changedFiles),
   (py "changed_files_digest", .str s.changedFilesDigest),
   (py "is_release_clean", .bool s.isReleaseClean),
   (py "captured_at", .str s.capturedAt),
   (py "inspector_version", .str s.inspectorVersion)]

/-- `[field] if cond else []` of a list of mismatches. -/
def mismatchIf (cond : Prop) [Decidable cond] (field : PyStr) : List PyStr := if cond then [field] else []

theorem mismatchIf_eq_nil {cond : Prop} [Decidable cond] {field : PyStr} : mismatchIf cond field = [] ↔ ¬ cond := by
  unfold mismatchIf
  split
  · next h => exact iff_of_false (List.cons_ne_nil _ _) (not_not.mpr h)
  · next h => exact iff_of_true rfl h

def candidateSnapshotMismatches (candidate : CandidateBinding rt) (snapshot : RepositorySnapshot rt) : List PyStr :=
  mismatchIf (snapshot.repositoryId ≠ candidate.repositoryId) (py "repository_id") ++
  mismatchIf (snapshot.objectFormat ≠ candidate.objectFormat) (py "object_format") ++
  mismatchIf (snapshot.baseCommitSha ≠ candidate.baseCommitSha) (py "base_commit_sha") ++
  mismatchIf (snapshot.headCommitSha ≠ candidate.candidateCommitSha) (py "candidate_commit_sha") ++
  mismatchIf (snapshot.headTreeSha ≠ candidate.candidateTreeSha) (py "candidate_tree_sha") ++
  mismatchIf (snapshot.changedFilesDigest ≠ candidate.changedFilesDigest) (py "changed_files_digest")

structure SnapshotBinds (candidate : CandidateBindingArgs) (snapshot : RepositorySnapshotArgs) : Prop where
  repository : snapshot.repositoryId = candidate.repositoryId
  objectFormat : snapshot.objectFormat = candidate.objectFormat
  base : snapshot.baseCommitSha = candidate.baseCommitSha
  commit : snapshot.headCommitSha = candidate.candidateCommitSha
  tree : snapshot.headTreeSha = candidate.candidateTreeSha
  changedFiles : snapshot.changedFilesDigest = candidate.changedFilesDigest

theorem candidateSnapshotMismatches_eq_nil {candidate : CandidateBinding rt} {snapshot : RepositorySnapshot rt} :
    candidateSnapshotMismatches candidate snapshot = [] ↔
      SnapshotBinds candidate.toCandidateBindingArgs snapshot.toRepositorySnapshotArgs := by
  unfold candidateSnapshotMismatches
  simp only [List.append_eq_nil_iff, mismatchIf_eq_nil, not_not]
  constructor
  · rintro ⟨⟨⟨⟨⟨h1, h2⟩, h3⟩, h4⟩, h5⟩, h6⟩
    exact ⟨h1, h2, h3, h4, h5, h6⟩
  · rintro ⟨h1, h2, h3, h4, h5, h6⟩
    exact ⟨⟨⟨⟨⟨h1, h2⟩, h3⟩, h4⟩, h5⟩, h6⟩

end

/-! ### the command -/

def commandRequirementPayload (argv : List PyStr) (workingDirectory : PyStr) (timeoutSeconds : Int) : PyVal := .record
  [(py "kind", .str (py "p0-9b.command-requirement-payload.v1")),
   (py "argv", .strList argv),
   (py "working_directory", .str workingDirectory),
   (py "timeout_seconds", .int timeoutSeconds)]

@[ext]
structure CommandRequirementArgs where
  schemaVersion : PyStr
  requirementId : PyStr
  argv : List PyStr
  workingDirectory : PyStr
  timeoutSeconds : Int
  commandDigest : PyStr
deriving DecidableEq

/-- `CommandRequirement.__post_init__` -/
def CommandRequirementArgs.postInit (rt : Runtime) (r : CommandRequirementArgs) : Except PyExc Unit := do
  requireSchema rt (py "p0-9b.command-requirement.v1") r.schemaVersion
  let _ ← Canonical.validateGeneratedId rt (py "requirement_id") (.str r.requirementId)
  validateArgv (py "argv") r.argv
  Canonical.validateWorkingDirectory rt (py "working_directory") r.workingDirectory
  raiseIf (¬ (1 ≤ r.timeoutSeconds ∧ r.timeoutSeconds ≤ 3600))
    (p09bValidationError (py "timeout_seconds must be in 1..3600"))
  let _ ← Canonical.validateSha256Digest rt (py "command_digest") (.str r.commandDigest)
  let expected ← canonicalDigest rt (commandRequirementPayload r.argv r.workingDirectory r.timeoutSeconds)
  raiseIf (r.commandDigest ≠ expected) (p09bValidationError (py "command_digest does not match argv/cwd/timeout"))

structure CommandRequirement (rt : Runtime) extends CommandRequirementArgs where
  postInit_ok : toCommandRequirementArgs.postInit rt = .ok ()

end Tomtit
