import TomtitAgent.BuildHarness.RepositoryModels

/-!
# `provenance.py`

* `EvidenceProvenance`, `CollectedCommandEvidence`   a command that ran, between two snapshots;
* `expectedContextMismatchStatus`, `validateRejectedContext`   the status matrix of rejected results;
* `EvidenceVerificationResult`, `VerifiedCommandEvidence`, `EvidenceVerificationBundle`   the results.

Each model is the arguments that its constructor accepts, as in `repository_models.py`.
-/

open Py

namespace Tomtit

section
variable (rt : Runtime)

/-! ### provenance -/

@[ext]
structure EvidenceProvenanceArgs where
  schemaVersion : PyStr
  evidenceId : PyStr
  taskId : PyStr
  runId : PyStr
  collectorId : PyStr
  collectorVersion : PyStr
  requirementId : PyStr
  argv : List PyStr
  workingDirectory : PyStr
  commandDigest : PyStr
  exitCode : Option Int
  completed : Bool
  startedAt : PyStr
  completedAt : PyStr
  durationMs : Int
  repositoryId : PyStr
  objectFormat : GitObjectFormat
  baseCommitSha : PyStr
  commitSha : PyStr
  treeSha : PyStr
  preSnapshotId : PyStr
  postSnapshotId : PyStr
  dirtyState : DirtyState
  changedFilesDigest : PyStr
  stdoutDigest : PyStr
  stderrDigest : PyStr
  artifactDigest : Option PyStr
  source : EvidenceSource
deriving DecidableEq

/-- `EvidenceProvenance.__post_init__` -/
def EvidenceProvenanceArgs.postInit (p : EvidenceProvenanceArgs) : Except PyExc Unit := do
  let fmt := StrEnum.value p.objectFormat
  requireSchema rt (py "p0-9b.provenance.v1") p.schemaVersion
  let _ ← Canonical.validateGeneratedId rt (py "evidence_id") (.str p.evidenceId)
  let _ ← Canonical.validateTaskId rt (py "task_id") (.str p.taskId)
  let _ ← Canonical.validateGeneratedId rt (py "run_id") (.str p.runId)
  let _ ← Canonical.validateGeneratedId rt (py "collector_id") (.str p.collectorId)
  Canonical.requireText (py "collector_version") p.collectorVersion
  let _ ← Canonical.validateGeneratedId rt (py "requirement_id") (.str p.requirementId)
  validateArgv (py "argv") p.argv
  Canonical.validateWorkingDirectory rt (py "working_directory") p.workingDirectory
  let _ ← Canonical.validateSha256Digest rt (py "command_digest") (.str p.commandDigest)
  raiseIf (p.completed = true ∧ p.exitCode = none)
    (p09bValidationError (py "completed=True requires an integer exit_code"))
  let start ← Canonical.validateRfc3339Utc rt (py "started_at") p.startedAt
  let finish ← Canonical.validateRfc3339Utc rt (py "completed_at") p.completedAt
  raiseIf (finish < start) (p09bValidationError (py "completed_at must be >= started_at"))
  raiseIf (p.durationMs < 0) (p09bValidationError (py "duration_ms must be non-negative"))
  Canonical.validateDurationMs rt (py "duration_ms") p.durationMs start finish
  let _ ← Canonical.validateSha256Digest rt (py "repository_id") (.str p.repositoryId)
  let _ ← Canonical.validateGitObjectSha rt (py "base_commit_sha") (.str p.baseCommitSha) fmt
  let _ ← Canonical.validateGitObjectSha rt (py "commit_sha") (.str p.commitSha) fmt
  let _ ← Canonical.validateGitObjectSha rt (py "tree_sha") (.str p.treeSha) fmt
  let _ ← Canonical.validateGeneratedId rt (py "pre_snapshot_id") (.str p.preSnapshotId)
  let _ ← Canonical.validateGeneratedId rt (py "post_snapshot_id") (.str p.postSnapshotId)
  let _ ← Canonical.validateSha256Digest rt (py "changed_files_digest") (.str p.changedFilesDigest)
  let _ ← Canonical.validateSha256Digest rt (py "stdout_digest") (.str p.stdoutDigest)
  let _ ← Canonical.validateSha256Digest rt (py "stderr_digest") (.str p.stderrDigest)
  match p.artifactDigest with
  | none => .ok ()
  | some digest => do
    let _ ← Canonical.validateSha256Digest rt (py "artifact_digest") (.str digest)

structure EvidenceProvenance extends EvidenceProvenanceArgs where
  postInit_ok : toEvidenceProvenanceArgs.postInit rt = .ok ()

/-! ### collected evidence -/

structure CollectedCommandEvidenceArgs where
  schemaVersion : PyStr
  provenance : EvidenceProvenance rt
  preSnapshot : RepositorySnapshot rt
  postSnapshot : RepositorySnapshot rt

variable {rt}

namespace CollectedCommandEvidenceArgs

def snapshotMatches (name : PyStr) (prov : EvidenceProvenance rt) (snap : RepositorySnapshot rt) :
    Except PyExc Unit := do
  raiseIf (snap.repositoryId ≠ prov.repositoryId)
    (p09bValidationError (name ++ py ".repository_id != provenance.repository_id"))
  raiseIf (snap.objectFormat ≠ prov.objectFormat)
    (p09bValidationError (name ++ py ".object_format != provenance.object_format"))
  raiseIf (snap.baseCommitSha ≠ prov.baseCommitSha)
    (p09bValidationError (name ++ py ".base_commit_sha != provenance.base_commit_sha"))

def expectedDirty (c : CollectedCommandEvidenceArgs rt) : DirtyState :=
  if c.preSnapshot.isReleaseClean = true ∧ c.postSnapshot.isReleaseClean = true then .clean else .dirty

/-- `CollectedCommandEvidence.__post_init__` -/
def postInit (c : CollectedCommandEvidenceArgs rt) : Except PyExc Unit := do
  let prov := c.provenance
  requireSchema rt (py "p0-9b.collected-evidence.v1") c.schemaVersion
  raiseIf (c.preSnapshot.snapshotId ≠ prov.preSnapshotId)
    (p09bValidationError (py "pre_snapshot.snapshot_id != provenance.pre_snapshot_id"))
  raiseIf (c.postSnapshot.snapshotId ≠ prov.postSnapshotId)
    (p09bValidationError (py "post_snapshot.snapshot_id != provenance.post_snapshot_id"))
  snapshotMatches (py "pre_snapshot") prov c.preSnapshot
  snapshotMatches (py "post_snapshot") prov c.postSnapshot
  raiseIf (c.postSnapshot.headCommitSha ≠ prov.commitSha)
    (p09bValidationError (py "post_snapshot.head_commit_sha != provenance.commit_sha"))
  raiseIf (c.postSnapshot.headTreeSha ≠ prov.treeSha)
    (p09bValidationError (py "post_snapshot.head_tree_sha != provenance.tree_sha"))
  raiseIf (prov.dirtyState ≠ c.expectedDirty) (p09bValidationError (py "provenance.dirty_state " ++
    reprStr rt (StrEnum.value prov.dirtyState) ++ py " contradicts its snapshots: expected " ++
    reprStr rt (StrEnum.value c.expectedDirty) ++ py " from pre/post is_release_clean"))

end CollectedCommandEvidenceArgs

variable (rt) in
structure CollectedCommandEvidence extends CollectedCommandEvidenceArgs rt where
  postInit_ok : toCollectedCommandEvidenceArgs.postInit = .ok ()

def collectedCandidateMismatches (candidate : CandidateBinding rt) (collected : CollectedCommandEvidence rt) :
    List PyStr :=
  let prov := collected.provenance
  mismatchIf (prov.repositoryId ≠ candidate.repositoryId) (py "repository_id") ++
  mismatchIf (prov.objectFormat ≠ candidate.objectFormat) (py "object_format") ++
  mismatchIf (prov.baseCommitSha ≠ candidate.baseCommitSha) (py "base_commit_sha") ++
  mismatchIf (prov.commitSha ≠ candidate.candidateCommitSha) (py "candidate_commit_sha") ++
  mismatchIf (prov.treeSha ≠ candidate.candidateTreeSha) (py "candidate_tree_sha")

structure ProvenanceBinds (candidate : CandidateBindingArgs) (prov : EvidenceProvenanceArgs) : Prop where
  repository : prov.repositoryId = candidate.repositoryId
  objectFormat : prov.objectFormat = candidate.objectFormat
  base : prov.baseCommitSha = candidate.baseCommitSha
  commit : prov.commitSha = candidate.candidateCommitSha
  tree : prov.treeSha = candidate.candidateTreeSha

theorem collectedCandidateMismatches_eq_nil {candidate : CandidateBinding rt}
    {collected : CollectedCommandEvidence rt} : collectedCandidateMismatches candidate collected = [] ↔
      ProvenanceBinds candidate.toCandidateBindingArgs collected.provenance.toEvidenceProvenanceArgs := by
  unfold collectedCandidateMismatches
  simp only [List.append_eq_nil_iff, mismatchIf_eq_nil, not_not]
  constructor
  · rintro ⟨⟨⟨⟨h1, h2⟩, h3⟩, h4⟩, h5⟩
    exact ⟨h1, h2, h3, h4, h5⟩
  · rintro ⟨h1, h2, h3, h4, h5⟩
    exact ⟨⟨⟨⟨h1, h2⟩, h3⟩, h4⟩, h5⟩

/-! ### the status matrix of rejected results -/

/-- `_CONTEXT_MISMATCH_STATUSES` -/
def contextMismatchStatuses : List VerificationStatus :=
  [.stale, .repositoryMismatch, .commitMismatch, .treeMismatch, .dirtyWorktree, .snapshotChanged]

/-- `_NON_CONTEXT_REJECTION_STATUSES` -/
def nonContextRejectionStatuses : List VerificationStatus :=
  [.commandMismatch, .executionFailed, .duplicateIdentity, .invalidProvenance, .unsupportedSchema,
   .unsupportedCollector, .inspectionFailed]

def expectedContextMismatchStatus (candidate : CandidateBinding rt) (snapshot : RepositorySnapshot rt) :
    Option VerificationStatus :=
  if snapshot.repositoryId ≠ candidate.repositoryId then some .repositoryMismatch
  else if snapshot.objectFormat ≠ candidate.objectFormat ∨ snapshot.baseCommitSha ≠ candidate.baseCommitSha then
    some .stale
  else if snapshot.headCommitSha ≠ candidate.candidateCommitSha then some .commitMismatch
  else if snapshot.headTreeSha ≠ candidate.candidateTreeSha then some .treeMismatch
  else if snapshot.changedFilesDigest ≠ candidate.changedFilesDigest then some .snapshotChanged
  else if snapshot.isReleaseClean = false then some .dirtyWorktree
  else none

/-- `_validate_rejected_context` -/
def validateRejectedContext (status : VerificationStatus) (candidate : Option (CandidateBinding rt))
    (snapshot : Option (RepositorySnapshot rt)) : Except PyExc Unit := do
  let shown := StrEnum.value status
  raiseIf (snapshot.isSome ∧ candidate.isNone) (p09bValidationError
    (py "rejected result [" ++ shown ++ py "]: repository_snapshot requires candidate_binding"))
  if status ∈ contextMismatchStatuses then
    match candidate, snapshot with
    | some candidate, some snapshot => do
      let expected := expectedContextMismatchStatus candidate snapshot
      raiseIf (some status ≠ expected) (p09bValidationError (py "rejected result: status " ++ reprStr rt shown ++
        py " does not match the actual primary candidate/snapshot mismatch (" ++
        reprStr rt ((expected.map StrEnum.value).getD (py "none")) ++ py ")"))
    | _, _ => .error (p09bValidationError (py "rejected result [" ++ shown ++
        py "]: context-mismatch status requires both candidate_binding and repository_snapshot"))
  else if status ∈ nonContextRejectionStatuses then
    match candidate, snapshot with
    | some candidate, some snapshot =>
      match expectedContextMismatchStatus candidate snapshot with
      | none => .ok ()
      | some primary => .error (p09bValidationError (py "rejected result [" ++ shown ++
          py "]: a non-context status may not carry a candidate/snapshot whose primary context status is " ++
          reprStr rt (StrEnum.value primary)))
    | _, _ => .ok ()
  else .error (p09bValidationError (py "rejected result: unexpected status " ++ reprStr rt shown))

/-! ### verification results -/

variable (rt) in
structure EvidenceVerificationResultArgs where
  schemaVersion : PyStr
  accepted : Bool
  status : VerificationStatus
  reasonCodes : List PyStr
  evidenceId : PyStr
  runId : PyStr
  taskId : PyStr
  candidateBinding : Option (CandidateBinding rt)
  repositorySnapshot : Option (RepositorySnapshot rt)
  matchedRequirementId : Option PyStr
  claimDigest : PyStr
  verifiedAt : PyStr
  verifierVersion : PyStr
  warnings : List PyStr
  errors : List PyStr

namespace EvidenceVerificationResultArgs

variable (rt) in
/-- `if matched_requirement_id is not None: ...` -/
def requireMatched : Option PyStr → Except PyExc Unit
  | none => .ok ()
  | some requirementId => do
    let _ ← Canonical.validateGeneratedId rt (py "matched_requirement_id") (.str requirementId)

/-- The `if self.accepted: ... else: ...` of `__post_init__`. -/
def validateContext (r : EvidenceVerificationResultArgs rt) : Except PyExc Unit :=
  if r.accepted then
    match r.candidateBinding, r.repositorySnapshot, r.matchedRequirementId with
    | some candidate, some snapshot, some _ =>
      let mismatches := candidateSnapshotMismatches candidate snapshot
      raiseIf (mismatches ≠ []) (p09bValidationError
        (py "accepted result: repository_snapshot does not bind to candidate_binding (" ++
          joinWith (py ", ") mismatches ++ py ")"))
    | _, _, _ => .error (p09bValidationError (py ("accepted result requires candidate_binding, " ++
        "repository_snapshot, and matched_requirement_id")))
  else do
    raiseIf (r.matchedRequirementId ≠ none)
      (p09bValidationError (py "a rejected result cannot claim a matched requirement"))
    validateRejectedContext r.status r.candidateBinding r.repositorySnapshot

/-- `EvidenceVerificationResult.__post_init__` -/
def postInit (r : EvidenceVerificationResultArgs rt) : Except PyExc Unit := do
  requireSchema rt (py "p0-9b.verification.v1") r.schemaVersion
  raiseIf (r.accepted ≠ decide (r.status = .verified))
    (p09bValidationError (py "accepted must be True iff status == VERIFIED"))
  Canonical.requireSortedUniqueStrTuple (py "reason_codes") r.reasonCodes
  let _ ← Canonical.validateGeneratedId rt (py "evidence_id") (.str r.evidenceId)
  let _ ← Canonical.validateGeneratedId rt (py "run_id") (.str r.runId)
  let _ ← Canonical.validateTaskId rt (py "task_id") (.str r.taskId)
  requireMatched rt r.matchedRequirementId
  r.validateContext
  let _ ← Canonical.validateSha256Digest rt (py "claim_digest") (.str r.claimDigest)
  let _ ← Canonical.validateRfc3339Utc rt (py "verified_at") r.verifiedAt
  Canonical.requireText (py "verifier_version") r.verifierVersion
  Canonical.requireSortedUniqueStrTuple (py "warnings") r.warnings
  Canonical.requireSortedUniqueStrTuple (py "errors") r.errors

end EvidenceVerificationResultArgs

variable (rt) in
structure EvidenceVerificationResult extends EvidenceVerificationResultArgs rt where
  postInit_ok : toEvidenceVerificationResultArgs.postInit = .ok ()

/-- A nested model's payload, or `None`. -/
def optDict {α : Type} (toJsonDict : α → PyVal) : Option α → PyVal
  | none => .none
  | some a => toJsonDict a

def EvidenceVerificationResult.toJsonDict (r : EvidenceVerificationResult rt) : PyVal := .record
  [(py "schema_version", .str r.schemaVersion),
   (py "accepted", .bool r.accepted),
   (py "status", .str (StrEnum.value r.status)),
   (py "reason_codes", .strList r.reasonCodes),
   (py "evidence_id", .str r.evidenceId),
   (py "run_id", .str r.runId),
   (py "task_id", .str r.taskId),
   (py "candidate_binding", optDict CandidateBinding.toJsonDict r.candidateBinding),
   (py "repository_snapshot", optDict RepositorySnapshot.toJsonDict r.repositorySnapshot),
   (py "matched_requirement_id", .optStr r.matchedRequirementId),
   (py "claim_digest", .str r.claimDigest),
   (py "verified_at", .str r.verifiedAt),
   (py "verifier_version", .str r.verifierVersion),
   (py "warnings", .strList r.warnings),
   (py "errors", .strList r.errors)]

/-! ### verified evidence -/

variable (rt) in
structure VerifiedCommandEvidenceArgs where
  schemaVersion : PyStr
  evidenceId : PyStr
  runId : PyStr
  taskId : PyStr
  requirementId : PyStr
  candidateBinding : CandidateBinding rt
  verificationDigest : PyStr

/-- `_verified_payload` -/
def verifiedPayload (evidenceId runId taskId requirementId : PyStr) (candidate : CandidateBinding rt) : PyVal := .record
  [(py "kind", .str (py "p0-9b.verified-evidence-payload.v1")),
   (py "evidence_id", .str evidenceId),
   (py "run_id", .str runId),
   (py "task_id", .str taskId),
   (py "requirement_id", .str requirementId),
   (py "candidate_binding", candidate.toJsonDict)]

/-- `VerifiedCommandEvidence.__post_init__` -/
def VerifiedCommandEvidenceArgs.postInit (v : VerifiedCommandEvidenceArgs rt) : Except PyExc Unit := do
  requireSchema rt (py "p0-9b.verified-evidence.v1") v.schemaVersion
  let _ ← Canonical.validateGeneratedId rt (py "evidence_id") (.str v.evidenceId)
  let _ ← Canonical.validateGeneratedId rt (py "run_id") (.str v.runId)
  let _ ← Canonical.validateTaskId rt (py "task_id") (.str v.taskId)
  let _ ← Canonical.validateGeneratedId rt (py "requirement_id") (.str v.requirementId)
  let _ ← Canonical.validateSha256Digest rt (py "verification_digest") (.str v.verificationDigest)
  let expected ← canonicalDigest rt
    (verifiedPayload v.evidenceId v.runId v.taskId v.requirementId v.candidateBinding)
  raiseIf (v.verificationDigest ≠ expected)
    (p09bValidationError (py "verification_digest does not match the canonical payload"))

variable (rt) in
structure VerifiedCommandEvidence extends VerifiedCommandEvidenceArgs rt where
  postInit_ok : toVerifiedCommandEvidenceArgs.postInit = .ok ()

def VerifiedCommandEvidence.toJsonDict (v : VerifiedCommandEvidence rt) : PyVal := .record
  [(py "schema_version", .str v.schemaVersion),
   (py "evidence_id", .str v.evidenceId),
   (py "run_id", .str v.runId),
   (py "task_id", .str v.taskId),
   (py "requirement_id", .str v.requirementId),
   (py "candidate_binding", v.candidateBinding.toJsonDict),
   (py "verification_digest", .str v.verificationDigest)]

/-! ### bundles -/

variable (rt) in
structure EvidenceVerificationBundleArgs where
  schemaVersion : PyStr
  taskId : PyStr
  candidateBinding : CandidateBinding rt
  verified : List (VerifiedCommandEvidence rt)
  rejected : List (EvidenceVerificationResult rt)
  verifiedAtSnapshot : RepositorySnapshot rt
  bundleDigest : PyStr

/-- `_bundle_payload` -/
def bundlePayload (taskId : PyStr) (candidate : CandidateBinding rt) (verified : List (VerifiedCommandEvidence rt))
    (rejected : List (EvidenceVerificationResult rt)) (snapshot : RepositorySnapshot rt) : PyVal := .record
  [(py "kind", .str (py "p0-9b.verification-bundle-payload.v1")),
   (py "task_id", .str taskId),
   (py "candidate_binding", candidate.toJsonDict),
   (py "verified", .list (verified.map VerifiedCommandEvidence.toJsonDict)),
   (py "rejected", .list (rejected.map EvidenceVerificationResult.toJsonDict)),
   (py "verified_at_snapshot", snapshot.toJsonDict)]

namespace EvidenceVerificationBundleArgs

/-- The evidence ids of the verified and of the rejected entries. -/
def ids (b : EvidenceVerificationBundleArgs rt) : List PyStr :=
  b.verified.map (·.evidenceId) ++ b.rejected.map (·.evidenceId)

def requireVerified (taskId : PyStr) (candidate : CandidateBinding rt) (v : VerifiedCommandEvidence rt) :
    Except PyExc Unit := do
  raiseIf (v.taskId ≠ taskId) (p09bValidationError (py "verified evidence task_id " ++ reprStr rt v.taskId ++
    py " != bundle task_id " ++ reprStr rt taskId))
  raiseIf (v.candidateBinding ≠ candidate)
    (p09bValidationError (py "every verified record must match the bundle candidate binding"))

def requireRejected (taskId : PyStr) (candidate : CandidateBinding rt) (r : EvidenceVerificationResult rt) :
    Except PyExc Unit := do
  raiseIf (r.taskId ≠ taskId) (p09bValidationError (py "rejected result task_id " ++ reprStr rt r.taskId ++
    py " != bundle task_id " ++ reprStr rt taskId))
  raiseIf (∃ c ∈ r.candidateBinding, c ≠ candidate)
    (p09bValidationError (py "rejected result expected candidate_binding != bundle candidate_binding"))

/-- `EvidenceVerificationBundle.__post_init__` -/
def postInit (b : EvidenceVerificationBundleArgs rt) : Except PyExc Unit := do
  let candidate := b.candidateBinding
  let mismatches := candidateSnapshotMismatches candidate b.verifiedAtSnapshot
  requireSchema rt (py "p0-9b.verification-bundle.v1") b.schemaVersion
  let _ ← Canonical.validateTaskId rt (py "task_id") (.str b.taskId)
  raiseIf (∃ r ∈ b.rejected, r.accepted = true)
    (p09bValidationError (py "rejected tuple cannot contain an accepted result"))
  raiseIf (distinct b.ids = false)
    (p09bValidationError (py "evidence IDs must be unique across verified and rejected"))
  b.verified.forM (requireVerified b.taskId candidate)
  b.rejected.forM (requireRejected b.taskId candidate)
  raiseIf (mismatches ≠ []) (p09bValidationError
    (py "verified_at_snapshot does not bind to candidate_binding (" ++ joinWith (py ", ") mismatches ++ py ")"))
  let _ ← Canonical.validateSha256Digest rt (py "bundle_digest") (.str b.bundleDigest)
  let expected ← canonicalDigest rt
    (bundlePayload b.taskId candidate b.verified b.rejected b.verifiedAtSnapshot)
  raiseIf (b.bundleDigest ≠ expected)
    (p09bValidationError (py "bundle_digest does not match the canonical payload"))

end EvidenceVerificationBundleArgs

variable (rt) in
structure EvidenceVerificationBundle extends EvidenceVerificationBundleArgs rt where
  postInit_ok : toEvidenceVerificationBundleArgs.postInit = .ok ()

end
end Tomtit
