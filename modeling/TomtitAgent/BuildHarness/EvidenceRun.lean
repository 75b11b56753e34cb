import TomtitAgent.BuildHarness.EvidencePayloads

/-!
# `ports.py`: `EvidenceRunRecord`

* `EvidenceRunRecord`    the arguments that the constructor accepts;
* `Referential`          the links between a record, its collected items and the entries of its bundle;
* `referential_but_requirement`   every constructed record has them, apart from the requirement.
-/

open Py

namespace Tomtit

section
variable (rt : Runtime)

structure EvidenceRunRecordArgs where
  schemaVersion : PyStr
  taskId : PyStr
  runId : PyStr
  candidateBinding : CandidateBinding rt
  collectedEvidence : List (CollectedCommandEvidence rt)
  finalSnapshot : RepositorySnapshot rt
  verificationBundle : Option (EvidenceVerificationBundle rt)

variable {rt}

/-- `(evidence_id, run_id, task_id)` -/
structure EvidenceIdentity where
  evidenceId : PyStr
  runId : PyStr
  taskId : PyStr
deriving DecidableEq

def CollectedCommandEvidence.identity (c : CollectedCommandEvidence rt) : EvidenceIdentity :=
  ⟨c.provenance.evidenceId, c.provenance.runId, c.provenance.taskId⟩

def VerifiedCommandEvidence.identity (v : VerifiedCommandEvidence rt) : EvidenceIdentity :=
  ⟨v.evidenceId, v.runId, v.taskId⟩

def EvidenceVerificationResult.identity (r : EvidenceVerificationResult rt) : EvidenceIdentity :=
  ⟨r.evidenceId, r.runId, r.taskId⟩

variable (rt) in
/-- `repr` of the identity tuple. -/
def EvidenceIdentity.text (e : EvidenceIdentity) : PyStr :=
  py "(" ++ reprStr rt e.evidenceId ++ py ", " ++ reprStr rt e.runId ++ py ", " ++ reprStr rt e.taskId ++ py ")"

namespace EvidenceRunRecordArgs

/-- The loop over the collected evidence; `seen` are the evidence ids so far. -/
def requireCollected (taskId runId : PyStr) (candidate : CandidateBinding rt) :
    List PyStr → List (CollectedCommandEvidence rt) → Except PyExc Unit
  | _, [] => .ok ()
  | seen, c :: rest => do
    let prov := c.provenance
    let mismatches := collectedCandidateMismatches candidate c
    raiseIf (prov.evidenceId ∈ seen) (p09bValidationError
      (py "duplicate evidence_id " ++ reprStr rt prov.evidenceId ++ py " in collected_evidence"))
    raiseIf (prov.taskId ≠ taskId) (p09bValidationError (py "collected evidence task_id " ++
      reprStr rt prov.taskId ++ py " != record task_id " ++ reprStr rt taskId))
    raiseIf (prov.runId ≠ runId) (p09bValidationError (py "collected evidence run_id " ++
      reprStr rt prov.runId ++ py " != record run_id " ++ reprStr rt runId))
    raiseIf (mismatches ≠ []) (p09bValidationError (py "collected evidence " ++ reprStr rt prov.evidenceId ++
      py " does not bind to candidate (" ++ joinWith (py ", ") mismatches ++ py ")"))
    requireCollected taskId runId candidate (prov.evidenceId :: seen) rest

variable (rt) in
/-- The membership check of one entry; `kind` is `verified` or `rejected`. -/
def requireMember (kind : PyStr) (collected : List EvidenceIdentity) (identity : EvidenceIdentity) :
    Except PyExc Unit :=
  raiseIf (identity ∉ collected) (p09bValidationError (py "verification_bundle " ++ kind ++ py " evidence " ++
    identity.text rt ++ py " is not collected evidence of this run"))

def requireBundle (r : EvidenceRunRecordArgs rt) (bundle : EvidenceVerificationBundle rt) : Except PyExc Unit := do
  let collected := r.collectedEvidence.map (·.identity)
  raiseIf (bundle.taskId ≠ r.taskId) (p09bValidationError (py "verification_bundle task_id " ++
    reprStr rt bundle.taskId ++ py " != record task_id " ++ reprStr rt r.taskId))
  raiseIf (bundle.candidateBinding ≠ r.candidateBinding)
    (p09bValidationError (py "verification_bundle candidate_binding != record candidate_binding"))
  bundle.verified.forM fun v => requireMember rt (py "verified") collected v.identity
  bundle.rejected.forM fun rej => requireMember rt (py "rejected") collected rej.identity

/-- `EvidenceRunRecord.__post_init__` -/
def postInit (r : EvidenceRunRecordArgs rt) : Except PyExc Unit := do
  let mismatches := candidateSnapshotMismatches r.candidateBinding r.finalSnapshot
  raiseIf (r.schemaVersion ≠ py "p0-9b.evidence-run-record.v1")
    (p09bValidationError (py "schema_version must be 'p0-9b.evidence-run-record.v1'"))
  let _ ← Canonical.validateTaskId rt (py "task_id") (.str r.taskId)
  let _ ← Canonical.validateGeneratedId rt (py "run_id") (.str r.runId)
  requireCollected r.taskId r.runId r.candidateBinding [] r.collectedEvidence
  raiseIf (mismatches ≠ []) (p09bValidationError
    (py "final_snapshot does not bind to candidate_binding (" ++ joinWith (py ", ") mismatches ++ py ")"))
  match r.verificationBundle with
  | none => .ok ()
  | some bundle => r.requireBundle bundle

end EvidenceRunRecordArgs

variable (rt) in
structure EvidenceRunRecord extends EvidenceRunRecordArgs rt where
  postInit_ok : toEvidenceRunRecordArgs.postInit = .ok ()

/-! ### the links -/

def NamesOne (collected : List (CollectedCommandEvidence rt)) (identity : EvidenceIdentity) : Prop :=
  ∃! c, c ∈ collected ∧ c.identity = identity

structure Linked (r : EvidenceRunRecord rt) : Prop where
  unique : (r.collectedEvidence.map (·.provenance.evidenceId)).Nodup
  task : ∀ c ∈ r.collectedEvidence, c.provenance.taskId = r.taskId
  run : ∀ c ∈ r.collectedEvidence, c.provenance.runId = r.runId
  candidate : ∀ c ∈ r.collectedEvidence,
    ProvenanceBinds r.candidateBinding.toCandidateBindingArgs c.provenance.toEvidenceProvenanceArgs
  snapshot : SnapshotBinds r.candidateBinding.toCandidateBindingArgs r.finalSnapshot.toRepositorySnapshotArgs
  verified : ∀ b ∈ r.verificationBundle, ∀ v ∈ b.verified, NamesOne r.collectedEvidence v.identity
  rejected : ∀ b ∈ r.verificationBundle, ∀ rej ∈ b.rejected, NamesOne r.collectedEvidence rej.identity

/-- A verified entry is of the requirement whose command was run. -/
structure Referential (r : EvidenceRunRecord rt) : Prop extends Linked r where
  requirement : ∀ b ∈ r.verificationBundle, ∀ v ∈ b.verified, ∀ c ∈ r.collectedEvidence,
    c.identity = v.identity → v.requirementId = c.provenance.requirementId

theorem requireCollected_ok {taskId runId : PyStr} {candidate : CandidateBinding rt} {seen : List PyStr}
    {collected : List (CollectedCommandEvidence rt)} :
    EvidenceRunRecordArgs.requireCollected taskId runId candidate seen collected = .ok () ↔
      (collected.map (·.provenance.evidenceId)).Nodup ∧ ∀ c ∈ collected, c.provenance.evidenceId ∉ seen ∧
        c.provenance.taskId = taskId ∧ c.provenance.runId = runId ∧
        ProvenanceBinds candidate.toCandidateBindingArgs c.provenance.toEvidenceProvenanceArgs := by
  induction collected generalizing seen with
  | nil => simp [EvidenceRunRecordArgs.requireCollected]
  | cons c rest ih =>
    rw [List.map_cons, List.nodup_cons, List.forall_mem_cons, EvidenceRunRecordArgs.requireCollected]
    simp only [bind_eq_ok, raiseIf_eq_ok, exists_const, not_not, collectedCandidateMismatches_eq_nil, ih,
      List.mem_map, not_exists, not_and, List.mem_cons, not_or]
    constructor
    · rintro ⟨h1, h2, h3, h4, h5, h6⟩
      exact ⟨⟨fun d hd => (h6 d hd).1.1, h5⟩, ⟨h1, h2, h3, h4⟩,
        fun d hd => ⟨(h6 d hd).1.2, (h6 d hd).2⟩⟩
    · rintro ⟨⟨h1, h2⟩, ⟨h3, h4, h5, h6⟩, h7⟩
      exact ⟨h3, h4, h5, h6, h2, fun d hd => ⟨⟨h1 d hd, (h7 d hd).1⟩, (h7 d hd).2⟩⟩

theorem requireBundle_ok {r : EvidenceRunRecordArgs rt} {b : EvidenceVerificationBundle rt} {u : Unit} :
    r.requireBundle b = .ok u ↔ b.taskId = r.taskId ∧ b.candidateBinding = r.candidateBinding ∧
      (∀ v ∈ b.verified, v.identity ∈ r.collectedEvidence.map (·.identity)) ∧
      ∀ rej ∈ b.rejected, rej.identity ∈ r.collectedEvidence.map (·.identity) := by
  unfold EvidenceRunRecordArgs.requireBundle EvidenceRunRecordArgs.requireMember
  simp only [bind_eq_ok, raiseIf_eq_ok, exists_const, not_not, forM_ok]

namespace EvidenceRunRecord

theorem checked (r : EvidenceRunRecord rt) :
    EvidenceRunRecordArgs.requireCollected r.taskId r.runId r.candidateBinding [] r.collectedEvidence = .ok () ∧
      candidateSnapshotMismatches r.candidateBinding r.finalSnapshot = [] ∧
      ∀ b ∈ r.verificationBundle, r.requireBundle b = .ok () := by
  have h := r.postInit_ok
  unfold EvidenceRunRecordArgs.postInit at h
  simp only [bind_eq_ok, raiseIf_eq_ok, exists_const, not_not] at h
  obtain ⟨_, _, _, _, _, _, hcollected, hsnapshot, hbundle⟩ := h
  refine ⟨hcollected, hsnapshot, fun b hb => ?_⟩
  rw [Option.mem_def.mp hb] at hbundle
  exact hbundle

/-- No two collected items have one evidence id, so an identity that is collected names one item. -/
theorem namesOne (r : EvidenceRunRecord rt) {identity : EvidenceIdentity}
    (h : identity ∈ r.collectedEvidence.map (·.identity)) : NamesOne r.collectedEvidence identity := by
  have hunique := (requireCollected_ok.mp r.checked.1).1
  obtain ⟨c, hc, rfl⟩ := List.mem_map.mp h
  refine ⟨c, ⟨hc, rfl⟩, fun d hd => ?_⟩
  have hid : d.provenance.evidenceId = c.provenance.evidenceId := congrArg EvidenceIdentity.evidenceId hd.2
  exact List.inj_on_of_nodup_map hunique hd.1 hc hid

/-- **The links of a run record**, for every constructed record. -/
theorem linked (r : EvidenceRunRecord rt) : Linked r := by
  obtain ⟨hcollected, hsnapshot, hbundle⟩ := r.checked
  obtain ⟨hunique, hitems⟩ := requireCollected_ok.mp hcollected
  refine ⟨hunique, fun c hc => (hitems c hc).2.1, fun c hc => (hitems c hc).2.2.1, fun c hc => (hitems c hc).2.2.2,
    candidateSnapshotMismatches_eq_nil.mp hsnapshot, fun b hb v hv => ?_, fun b hb rej hrej => ?_⟩
  · obtain ⟨_, _, hverified, _⟩ := requireBundle_ok.mp (hbundle b hb)
    exact r.namesOne (hverified v hv)
  · obtain ⟨_, _, _, hrejected⟩ := requireBundle_ok.mp (hbundle b hb)
    exact r.namesOne (hrejected rej hrej)

end EvidenceRunRecord

/-! ### a record whose verified entry names another requirement -/

def otherId : PyStr := py "b"

theorem otherId_matches : dollar generatedIdRe otherId = true := by
  unfold otherId
  rw [py_ofList]
  rfl

theorem sampleId_ne_otherId : sampleId ≠ otherId := by simp [sampleId, otherId]

def sampleProvenanceArgs (digest : PyStr) : EvidenceProvenanceArgs where
  schemaVersion := py "p0-9b.provenance.v1"
  evidenceId := sampleId
  taskId := sampleId
  runId := sampleId
  collectorId := sampleId
  collectorVersion := sampleId
  requirementId := sampleId
  argv := [sampleId]
  workingDirectory := py "."
  commandDigest := sampleDigest
  exitCode := some 0
  completed := true
  startedAt := Canonical.sampleTime
  completedAt := Canonical.sampleTime
  durationMs := 0
  repositoryId := sampleDigest
  objectFormat := .sha1
  baseCommitSha := sampleSha
  commitSha := sampleSha
  treeSha := sampleSha
  preSnapshotId := sampleId
  postSnapshotId := sampleId
  dirtyState := .clean
  changedFilesDigest := digest
  stdoutDigest := sampleDigest
  stderrDigest := sampleDigest
  artifactDigest := none
  source := .localControlledCollector

theorem sampleArgv_ok : validateArgv (py "argv") [sampleId] = .ok () := by
  unfold validateArgv sampleId
  simp only [bind_eq_ok, raiseIf_eq_ok, exists_unit, Canonical.eachItem, and_true]
  rw [py_ofList]
  exact ⟨List.cons_ne_nil _ _, List.cons_ne_nil _ _, by decide⟩

variable (rt) in
theorem workingDirectory_ok (field : PyStr) : Canonical.validateWorkingDirectory rt field (py ".") = .ok () := by
  unfold Canonical.validateWorkingDirectory
  rw [bind_eq_ok, if_pos rfl]
  refine ⟨(), Canonical.requireText_ok.mpr ?_, rfl⟩
  rw [py_ofList]
  exact List.cons_ne_nil _ _

variable (rt) in
theorem sampleProvenance_ok {digest : PyStr} (h : digestRe digest = true) :
    (sampleProvenanceArgs digest).postInit rt = .ok () := by
  obtain ⟨time, htime⟩ := Canonical.validateRfc3339Utc_sample rt
  unfold EvidenceProvenanceArgs.postInit sampleProvenanceArgs
  simp only [bind_eq_ok, raiseIf_eq_ok, exists_unit, requireSchema_ok, Canonical.validateSha256Digest_eq_ok,
    Canonical.validateGeneratedId_eq_ok, Canonical.validateTaskId_eq_ok, Canonical.validateGitObjectSha_eq_ok,
    Canonical.requireText_ok, exists_and_right, exists_and_left, exists_eq', and_true, true_and, sampleArgv_ok,
    workingDirectory_ok, htime, Except.ok.injEq, exists_eq_left', lt_irrefl, not_false_eq_true,
    Canonical.validateDurationMs_zero]
  obtain ⟨hid, htask⟩ := sampleId_matches
  have hsha := sampleSha_matches
  have hdigest := sampleDigest_matches
  exact ⟨hid, htask, hid, hid, sampleId_ne_nil, hid, hdigest, by simp, hdigest, hsha, hsha, hsha, hid, hid,
    dollar_of h, hdigest, hdigest⟩

def sampleVerifiedPayload (candidate : CandidateBinding rt) : PyVal :=
  verifiedPayload sampleId sampleId sampleId otherId candidate

theorem sampleId_ascii : Ascii sampleId := ascii_lit _ (by decide)

theorem sampleVerifiedPayload_accepted (candidate : CandidateBinding rt) :
    Accepted rt (sampleVerifiedPayload candidate) := by
  have hother : Ascii otherId := ascii_lit _ (by decide)
  have hkind : Ascii (py "p0-9b.verified-evidence-payload.v1") := ascii_lit _ (by decide)
  unfold sampleVerifiedPayload verifiedPayload
  rw [accepted_record]
  · simp only [List.forall_mem_cons, List.not_mem_nil, false_imp_iff, implies_true, and_true, accepted_str]
    exact ⟨hkind.encodable, sampleId_ascii.encodable, sampleId_ascii.encodable, sampleId_ascii.encodable,
      hother.encodable, candidate.accepted⟩
  · simp only [List.map_cons, List.map_nil, List.forall_mem_cons, List.not_mem_nil, false_imp_iff, implies_true,
      and_true]
    and_intros <;> exact ascii_lit _ (by decide)
  · simp

theorem sampleSnapshot_accepted {digest : PyStr} (h : changedFilesDigest rt [] = .ok digest)
    (hre : digestRe digest = true) : Accepted rt (sampleSnapshot h hre).toJsonDict := by
  have hschema : Ascii (py "p0-9b.repository-snapshot.v1") := ascii_lit _ (by decide)
  have htime : Ascii Canonical.sampleTime := ascii_lit _ (by decide)
  have hsha := dollar_sha_ascii sampleSha_matches
  have hdigest := dollar_digest_ascii sampleDigest_matches
  unfold RepositorySnapshot.toJsonDict
  rw [accepted_record]
  · simp only [List.forall_mem_cons, List.not_mem_nil, false_imp_iff, implies_true, and_true, accepted_str,
      accepted_strList, sampleSnapshot, sampleSnapshotArgs, sampleId_ascii.encodable, hsha.encodable,
      hdigest.encodable, true_and, PyVal.optStr]
    exact ⟨hschema.encodable, (StrEnum.value_ascii GitObjectFormat.sha1).encodable, accepted_none rt,
      accepted_bool rt true, (digestRe_ascii hre).encodable, accepted_bool rt true, htime.encodable⟩
  · simp only [List.map_cons, List.map_nil, List.forall_mem_cons, List.not_mem_nil, false_imp_iff, implies_true,
      and_true]
    and_intros <;> exact ascii_lit _ (by decide)
  · simp

/-- A verified entry for the other requirement, of the sample evidence. -/
def sampleVerified (candidate : CandidateBinding rt) {digest : PyStr}
    (h : canonicalDigest rt (sampleVerifiedPayload candidate) = .ok digest) : VerifiedCommandEvidence rt where
  schemaVersion := py "p0-9b.verified-evidence.v1"
  evidenceId := sampleId
  runId := sampleId
  taskId := sampleId
  requirementId := otherId
  candidateBinding := candidate
  verificationDigest := digest
  postInit_ok := by
    obtain ⟨hid, htask⟩ := sampleId_matches
    have hre := dollar_of (accepted_of_digest rt h).2
    unfold sampleVerifiedPayload at h
    unfold VerifiedCommandEvidenceArgs.postInit
    simp only [bind_eq_ok, raiseIf_eq_ok, exists_unit, requireSchema_ok, Canonical.validateSha256Digest_eq_ok,
      Canonical.validateGeneratedId_eq_ok, Canonical.validateTaskId_eq_ok, exists_and_right, exists_and_left,
      exists_eq', and_true, true_and, h, Except.ok.injEq, exists_eq_left']
    exact ⟨hid, hid, htask, otherId_matches, hre, not_not.mpr rfl⟩

theorem sampleBundlePayload_accepted {candidate : CandidateBinding rt} {snapshot : RepositorySnapshot rt}
    {v : VerifiedCommandEvidence rt} (hv : Accepted rt v.toJsonDict) (hs : Accepted rt snapshot.toJsonDict) :
    Accepted rt (bundlePayload sampleId candidate [v] [] snapshot) := by
  have hkind : Ascii (py "p0-9b.verification-bundle-payload.v1") := ascii_lit _ (by decide)
  unfold bundlePayload
  rw [accepted_record]
  · simp only [List.forall_mem_cons, List.not_mem_nil, false_imp_iff, implies_true, and_true, accepted_str,
      accepted_list, List.map_cons, List.map_nil, hv, hs]
    exact ⟨hkind.encodable, sampleId_ascii.encodable, candidate.accepted⟩
  · simp only [List.map_cons, List.map_nil, List.forall_mem_cons, List.not_mem_nil, false_imp_iff, implies_true,
      and_true]
    and_intros <;> exact ascii_lit _ (by decide)
  · simp

theorem sampleVerified_accepted {candidate : CandidateBinding rt} {digest : PyStr}
    (h : canonicalDigest rt (sampleVerifiedPayload candidate) = .ok digest) :
    Accepted rt (sampleVerified candidate h).toJsonDict := by
  have hschema : Ascii (py "p0-9b.verified-evidence.v1") := ascii_lit _ (by decide)
  have hother : Ascii otherId := ascii_lit _ (by decide)
  unfold VerifiedCommandEvidence.toJsonDict
  rw [accepted_record]
  · simp only [List.forall_mem_cons, List.not_mem_nil, false_imp_iff, implies_true, and_true, accepted_str,
      sampleVerified, sampleId_ascii.encodable, true_and]
    exact ⟨hschema.encodable, hother.encodable, candidate.accepted,
      (digestRe_ascii (accepted_of_digest rt h).2).encodable⟩
  · simp only [List.map_cons, List.map_nil, List.forall_mem_cons, List.not_mem_nil, false_imp_iff, implies_true,
      and_true]
    and_intros <;> exact ascii_lit _ (by decide)
  · simp

variable (rt) in
/-- A record of one command for the requirement `a`, with a bundle that verifies the requirement `b` by it. -/
theorem exists_reattributed : ∃ (r : EvidenceRunRecord rt) (b : EvidenceVerificationBundle rt)
    (v : VerifiedCommandEvidence rt) (c : CollectedCommandEvidence rt), r.verificationBundle = some b ∧
      v ∈ b.verified ∧ c ∈ r.collectedEvidence ∧ c.identity = v.identity ∧ v.requirementId = otherId ∧
      c.provenance.requirementId = sampleId := by
  obtain ⟨d, hd, hre⟩ := changedFilesDigest_nil rt
  obtain ⟨hid, htask⟩ := sampleId_matches
  let candidate : CandidateBinding rt := sampleCandidate hre
  let snapshot : RepositorySnapshot rt := sampleSnapshot hd hre
  have hbinds : candidateSnapshotMismatches candidate snapshot = [] :=
    candidateSnapshotMismatches_eq_nil.mpr ⟨rfl, rfl, rfl, rfl, rfl, rfl⟩
  obtain ⟨vd, hvd, -⟩ := digest_of_accepted rt (sampleVerifiedPayload_accepted candidate)
  let v : VerifiedCommandEvidence rt := sampleVerified candidate hvd
  obtain ⟨bd, hbd, hbre⟩ := digest_of_accepted rt (@sampleBundlePayload_accepted rt candidate snapshot v
    (sampleVerified_accepted hvd) (sampleSnapshot_accepted hd hre))
  have hbundle : (⟨py "p0-9b.verification-bundle.v1", sampleId, candidate, [v], [], snapshot, bd⟩ :
      EvidenceVerificationBundleArgs rt).postInit = .ok () := by
    unfold EvidenceVerificationBundleArgs.postInit EvidenceVerificationBundleArgs.requireVerified
      EvidenceVerificationBundleArgs.ids
    simp only [bind_eq_ok, raiseIf_eq_ok, exists_unit, requireSchema_ok, Canonical.validateTaskId_eq_ok,
      Canonical.validateSha256Digest_eq_ok, forM_ok, exists_and_right, exists_and_left, exists_eq', and_true,
      true_and, hbinds, hbd, Except.ok.injEq, exists_eq_left', List.forall_mem_singleton]
    exact ⟨htask, by simp, by simp [distinct], ⟨not_not.mpr rfl, not_not.mpr rfl⟩, by simp, by simp,
      dollar_of hbre, not_not.mpr rfl⟩
  have hcollected : (⟨py "p0-9b.collected-evidence.v1", ⟨sampleProvenanceArgs d, sampleProvenance_ok rt hre⟩,
      snapshot, snapshot⟩ : CollectedCommandEvidenceArgs rt).postInit = .ok () := by
    unfold CollectedCommandEvidenceArgs.postInit CollectedCommandEvidenceArgs.snapshotMatches
      CollectedCommandEvidenceArgs.expectedDirty
    simp only [bind_eq_ok, raiseIf_eq_ok, exists_unit, requireSchema_ok, true_and, not_not]
    exact ⟨rfl, rfl, ⟨rfl, rfl, rfl⟩, ⟨rfl, rfl, rfl⟩, rfl, rfl, rfl⟩
  let b : EvidenceVerificationBundle rt := ⟨_, hbundle⟩
  let c : CollectedCommandEvidence rt := ⟨_, hcollected⟩
  have hrecord : (⟨py "p0-9b.evidence-run-record.v1", sampleId, sampleId, candidate, [c], snapshot, some b⟩ :
      EvidenceRunRecordArgs rt).postInit = .ok () := by
    unfold EvidenceRunRecordArgs.postInit
    simp only [bind_eq_ok, raiseIf_eq_ok, exists_unit, not_not, true_and, Canonical.validateTaskId_eq_ok,
      Canonical.validateGeneratedId_eq_ok, exists_and_right, exists_and_left, exists_eq', and_true,
      requireCollected_ok, requireBundle_ok, hbinds]
    refine ⟨htask, hid, ⟨List.nodup_singleton _, ?_⟩, rfl, rfl, ?_, ?_⟩
    · exact List.forall_mem_singleton.mpr ⟨List.not_mem_nil, rfl, rfl, rfl, rfl, rfl, rfl, rfl⟩
    · exact List.forall_mem_singleton.mpr (List.mem_singleton_self _)
    · exact fun _ hrej => absurd hrej List.not_mem_nil
  exact ⟨⟨_, hrecord⟩, b, v, c, rfl, List.mem_singleton_self v, List.mem_singleton_self c, rfl, rfl, rfl⟩

/-- A constructed record attributes a verification to a requirement whose command was not run. -/
theorem referential_fails : ¬ ∀ r : EvidenceRunRecord (small 4300), Referential r := by
  intro h
  obtain ⟨r, b, v, c, hb, hv, hc, hsame, hother, hrequirement⟩ := exists_reattributed (small 4300)
  have hreq := (h r).requirement b hb v hv c hc hsame
  rw [hother, hrequirement] at hreq
  exact sampleId_ne_otherId hreq.symm

end
end Tomtit
