import TomtitAgent.BuildHarness.EvidencePayloads

/-!
# Rejected results and their context

* `expectedContextMismatchStatus_eq_none`   no context status applies exactly to a clean snapshot that binds;
* `constructible_iff`    when a rejected result with a candidate and a snapshot can be constructed;
* `rejected_context_exclusive`   exactly one of the two families of statuses is representable.
-/

open Py

namespace Tomtit

section
variable {rt : Runtime}

/-! ### the fields besides the context -/

namespace EvidenceVerificationResultArgs

/-- The fields that the status matrix does not read pass their checks. -/
structure OtherFieldsValid (r : EvidenceVerificationResultArgs rt) : Prop where
  schema : requireSchema rt (py "p0-9b.verification.v1") r.schemaVersion = .ok ()
  reasonCodes : Canonical.requireSortedUniqueStrTuple (py "reason_codes") r.reasonCodes = .ok ()
  evidenceId : ∃ t, Canonical.validateGeneratedId rt (py "evidence_id") (.str r.evidenceId) = .ok t
  runId : ∃ t, Canonical.validateGeneratedId rt (py "run_id") (.str r.runId) = .ok t
  taskId : ∃ t, Canonical.validateTaskId rt (py "task_id") (.str r.taskId) = .ok t
  claimDigest : ∃ t, Canonical.validateSha256Digest rt (py "claim_digest") (.str r.claimDigest) = .ok t
  verifiedAt : ∃ t, Canonical.validateRfc3339Utc rt (py "verified_at") r.verifiedAt = .ok t
  verifierVersion : Canonical.requireText (py "verifier_version") r.verifierVersion = .ok ()
  warnings : Canonical.requireSortedUniqueStrTuple (py "warnings") r.warnings = .ok ()
  errors : Canonical.requireSortedUniqueStrTuple (py "errors") r.errors = .ok ()

/-- The result, rejected with a status, a candidate and a snapshot. -/
def rejectedWith (r : EvidenceVerificationResultArgs rt) (status : VerificationStatus)
    (candidate : CandidateBinding rt) (snapshot : RepositorySnapshot rt) : EvidenceVerificationResultArgs rt :=
  { r with
    accepted := false
    status := status
    candidateBinding := some candidate
    repositorySnapshot := some snapshot
    matchedRequirementId := none }

def Constructible (r : EvidenceVerificationResultArgs rt) : Prop :=
  ∃ result : EvidenceVerificationResult rt, result.toEvidenceVerificationResultArgs = r

theorem constructible_iff {r : EvidenceVerificationResultArgs rt} : r.Constructible ↔ r.postInit = .ok () := by
  constructor
  · rintro ⟨result, rfl⟩
    exact result.postInit_ok
  · exact fun h => ⟨⟨r, h⟩, rfl⟩

end EvidenceVerificationResultArgs

/-! ### the matrix -/

variable {candidate : CandidateBinding rt} {snapshot : RepositorySnapshot rt}

theorem expectedContextMismatchStatus_eq_none : expectedContextMismatchStatus candidate snapshot = none ↔
    candidateSnapshotMismatches candidate snapshot = [] ∧ snapshot.isReleaseClean = true := by
  rw [candidateSnapshotMismatches_eq_nil]
  unfold expectedContextMismatchStatus
  constructor
  · intro h
    split_ifs at h with h1 h2 h3 h4 h5 h6
    obtain ⟨hformat, hbase⟩ := not_or.mp h2
    exact ⟨⟨not_not.mp h1, not_not.mp hformat, not_not.mp hbase, not_not.mp h3, not_not.mp h4, not_not.mp h5⟩,
      Bool.not_eq_false _ ▸ h6⟩
  · rintro ⟨⟨h1, h2, h3, h4, h5, h6⟩, h7⟩
    rw [if_neg (not_not.mpr h1), if_neg, if_neg (not_not.mpr h4), if_neg (not_not.mpr h5), if_neg (not_not.mpr h6),
      if_neg (by simp [h7])]
    rw [not_or]
    exact ⟨not_not.mpr h2, not_not.mpr h3⟩

theorem expected_mem {status : VerificationStatus}
    (h : expectedContextMismatchStatus candidate snapshot = some status) : status ∈ contextMismatchStatuses := by
  unfold expectedContextMismatchStatus at h
  split_ifs at h
  all_goals
    obtain rfl := Option.some.inj h
    decide

/-- What the matrix asks of a status beside a candidate and a snapshot. -/
def StatusFits (candidate : CandidateBinding rt) (snapshot : RepositorySnapshot rt) (status : VerificationStatus) :
    Prop :=
  (status ∈ contextMismatchStatuses ∧ expectedContextMismatchStatus candidate snapshot = some status) ∨
    (expectedContextMismatchStatus candidate snapshot = none ∧ status ∈ nonContextRejectionStatuses)

theorem families_disjoint {status : VerificationStatus} (h : status ∈ contextMismatchStatuses) :
    status ∉ nonContextRejectionStatuses := by
  revert status
  decide

theorem validateRejectedContext_ok {status : VerificationStatus} {u : Unit} :
    validateRejectedContext status (some candidate) (some snapshot) = .ok u ↔ StatusFits candidate snapshot status := by
  unfold validateRejectedContext StatusFits
  simp only [bind_eq_ok, raiseIf_eq_ok, Option.isNone_some, Bool.false_eq_true, and_false, not_false_eq_true,
    exists_const, true_and]
  by_cases hc : status ∈ contextMismatchStatuses
  · rw [if_pos hc, raiseIf_eq_ok, not_not]
    simp only [hc, families_disjoint hc, true_and, and_false, or_false]
    exact eq_comm
  · rw [if_neg hc]
    by_cases hn : status ∈ nonContextRejectionStatuses
    · rw [if_pos hn]
      simp only [hc, hn, false_and, and_true, false_or]
      cases expectedContextMismatchStatus candidate snapshot with
      | none => exact iff_of_true rfl rfl
      | some primary => exact iff_of_false (fun h => by cases h) (fun h => by cases h)
    · rw [if_neg hn]
      simp only [hc, hn, false_and, and_false, or_false, iff_false]
      exact fun h => by cases h

theorem rejectedWith_constructible_iff {r : EvidenceVerificationResultArgs rt} {status : VerificationStatus} :
    (r.rejectedWith status candidate snapshot).Constructible ↔
      r.OtherFieldsValid ∧ StatusFits candidate snapshot status := by
  have hcontext : ∀ u, (r.rejectedWith status candidate snapshot).validateContext = .ok u ↔
      StatusFits candidate snapshot status := by
    intro u
    unfold EvidenceVerificationResultArgs.validateContext EvidenceVerificationResultArgs.rejectedWith
    simp only [Bool.false_eq_true, if_false, bind_eq_ok, raiseIf_eq_ok, not_not, exists_const, true_and]
    exact validateRejectedContext_ok
  have hverified : StatusFits candidate snapshot status → status ≠ .verified := by
    rintro (⟨h, -⟩ | ⟨-, h⟩) rfl
    · exact absurd h (by decide)
    · exact absurd h (by decide)
  rw [EvidenceVerificationResultArgs.constructible_iff, EvidenceVerificationResultArgs.postInit]
  simp only [bind_eq_ok, raiseIf_eq_ok, exists_unit, exists_and_right, hcontext]
  constructor
  · rintro ⟨h1, -, h3, h4, h5, h6, -, hfits, h7, h8, h9, h10, h11⟩
    exact ⟨⟨h1, h3, h4, h5, h6, h7, h8, h9, h10, h11⟩, hfits⟩
  · rintro ⟨⟨h1, h3, h4, h5, h6, h7, h8, h9, h10, h11⟩, hfits⟩
    refine ⟨h1, ?_, h3, h4, h5, h6, rfl, hfits, h7, h8, h9, h10, h11⟩
    rw [not_not, eq_comm]
    exact decide_eq_false (hverified hfits)

/-! ### both families -/

variable (rt) in
def sampleResult : EvidenceVerificationResultArgs rt where
  schemaVersion := py "p0-9b.verification.v1"
  accepted := false
  status := .executionFailed
  reasonCodes := []
  evidenceId := sampleId
  runId := sampleId
  taskId := sampleId
  candidateBinding := none
  repositorySnapshot := none
  matchedRequirementId := none
  claimDigest := sampleDigest
  verifiedAt := Canonical.sampleTime
  verifierVersion := sampleId
  warnings := []
  errors := []

variable (rt) in
theorem sampleResult_valid : (sampleResult rt).OtherFieldsValid where
  schema := raiseIf_eq_ok.mpr (not_not.mpr rfl)
  reasonCodes := Canonical.requireSortedUniqueStrTuple_nil
  evidenceId := ⟨_, Canonical.validateGeneratedId_eq_ok.mpr ⟨sampleId_matches.1, rfl⟩⟩
  runId := ⟨_, Canonical.validateGeneratedId_eq_ok.mpr ⟨sampleId_matches.1, rfl⟩⟩
  taskId := ⟨_, Canonical.validateTaskId_eq_ok.mpr ⟨sampleId_matches.2, rfl⟩⟩
  claimDigest := ⟨_, Canonical.validateSha256Digest_eq_ok.mpr ⟨sampleDigest_matches, rfl⟩⟩
  verifiedAt := (Canonical.validateRfc3339Utc_sample rt).imp fun _ h => h _
  verifierVersion := Canonical.requireText_ok.mpr sampleId_ne_nil
  warnings := Canonical.requireSortedUniqueStrTuple_nil
  errors := Canonical.requireSortedUniqueStrTuple_nil

/-- Some rejected result carries the candidate and the snapshot with the status. -/
def Representable (candidate : CandidateBinding rt) (snapshot : RepositorySnapshot rt) (status : VerificationStatus) :
    Prop :=
  ∃ r : EvidenceVerificationResultArgs rt, (r.rejectedWith status candidate snapshot).Constructible

theorem representable_iff {status : VerificationStatus} :
    Representable candidate snapshot status ↔ StatusFits candidate snapshot status :=
  ⟨fun ⟨_, h⟩ => (rejectedWith_constructible_iff.mp h).2,
    fun h => ⟨sampleResult rt, rejectedWith_constructible_iff.mpr ⟨sampleResult_valid rt, h⟩⟩⟩

/-- A clean snapshot that binds leaves the non-context statuses only, any other one context status. -/
theorem one_family (candidate : CandidateBinding rt) (snapshot : RepositorySnapshot rt) :
    Xor (∃ status ∈ contextMismatchStatuses, Representable candidate snapshot status)
      (∃ status ∈ nonContextRejectionStatuses, Representable candidate snapshot status) := by
  simp only [representable_iff]
  cases he : expectedContextMismatchStatus candidate snapshot with
  | none =>
    refine .inr ⟨⟨.commandMismatch, by decide, .inr ⟨he, by decide⟩⟩, ?_⟩
    rintro ⟨status, hc, ⟨-, h⟩ | ⟨-, hn⟩⟩
    · rw [he] at h
      cases h
    · exact families_disjoint hc hn
  | some status =>
    refine .inl ⟨⟨status, expected_mem he, .inl ⟨expected_mem he, he⟩⟩, ?_⟩
    rintro ⟨other, hn, ⟨hc, -⟩ | ⟨h, -⟩⟩
    · exact families_disjoint hc hn
    · rw [he] at h
      cases h

/-- **Rejected results and their context.**  No context status is expected exactly when the mismatch list is
empty and the snapshot is clean; a rejected result with both is constructible exactly with the expected
status, or with a non-context status where none is expected; so each pair admits one family. -/
theorem rejected_context_exclusive (candidate : CandidateBinding rt) (snapshot : RepositorySnapshot rt) :
    (expectedContextMismatchStatus candidate snapshot = none ↔
      candidateSnapshotMismatches candidate snapshot = [] ∧ snapshot.isReleaseClean = true) ∧
    (∀ (r : EvidenceVerificationResultArgs rt) (status : VerificationStatus),
      (r.rejectedWith status candidate snapshot).Constructible ↔ r.OtherFieldsValid ∧
        ((status ∈ contextMismatchStatuses ∧ expectedContextMismatchStatus candidate snapshot = some status) ∨
          (expectedContextMismatchStatus candidate snapshot = none ∧ status ∈ nonContextRejectionStatuses))) ∧
    Xor (∃ status ∈ contextMismatchStatuses, Representable candidate snapshot status)
      (∃ status ∈ nonContextRejectionStatuses, Representable candidate snapshot status) := by
  refine ⟨expectedContextMismatchStatus_eq_none, fun r status => ?_, one_family candidate snapshot⟩
  exact rejectedWith_constructible_iff

end
end Tomtit
