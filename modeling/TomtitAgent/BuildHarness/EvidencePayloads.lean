import TomtitAgent.BuildHarness.Accepted
import TomtitAgent.BuildHarness.MergeEligibility.Values
import TomtitAgent.BuildHarness.Provenance

/-!
# What the evidence models check, and their payloads

* `Canonical.validateGeneratedId_eq_ok`, …   one spec lemma for each validator;
* `CandidateBinding.valid`, `CandidateBinding.accepted`   the checked fields of a candidate, and that its
  payload has a digest;
* `sampleCandidate`, `sampleSnapshot`   a candidate and a clean snapshot of it.
-/

open Py

namespace Tomtit

section
variable {rt : Runtime}

/-! ### the field checks -/

namespace Canonical

theorem requireMatch_eq_ok {field s what t : PyStr} {re : PyStr → Bool} (hnil : re [] = false) :
    requireMatch rt field (.str s) re what = .ok t ↔ dollar re s = true ∧ s = t := by
  have hnone : dollar re [] = false := by
    unfold dollar
    rw [hnil]
    rfl
  unfold requireMatch requireStr
  simp only [bind_eq_ok, raiseIf_eq_ok]
  constructor
  · rintro ⟨text, ⟨_, -, htext⟩, _, hmatch, ht⟩
    obtain rfl := Except.ok.inj htext
    exact ⟨by simpa using hmatch, Except.ok.inj ht⟩
  · rintro ⟨h, rfl⟩
    refine ⟨s, ⟨(), ?_, rfl⟩, (), by simp [h], rfl⟩
    rintro ⟨-, rfl⟩
    exact absurd (hnone.symm.trans h) Bool.false_ne_true

variable {field s t : PyStr}

theorem validateTaskId_eq_ok : validateTaskId rt field (.str s) = .ok t ↔ dollar taskIdRe s = true ∧ s = t :=
  requireMatch_eq_ok rfl

theorem validateGeneratedId_eq_ok :
    validateGeneratedId rt field (.str s) = .ok t ↔ dollar generatedIdRe s = true ∧ s = t := requireMatch_eq_ok rfl

theorem validateSha256Digest_eq_ok :
    validateSha256Digest rt field (.str s) = .ok t ↔ dollar digestRe s = true ∧ s = t := requireMatch_eq_ok rfl

/-- `_RE_SHA1_HEX` or `_RE_SHA256_HEX`, without the anchors. -/
def objectShaRe (format : GitObjectFormat) : PyStr → Bool :=
  exactRe isHex (match format with | .sha1 => 40 | .sha256 => 64)

theorem validateGitObjectSha_eq_ok {format : GitObjectFormat} :
    validateGitObjectSha rt field (.str s) (StrEnum.value format) = .ok t ↔
      dollar (objectShaRe format) s = true ∧ s = t := by
  unfold validateGitObjectSha
  cases format with
  | sha1 =>
    rw [if_pos (show StrEnum.value GitObjectFormat.sha1 = py "sha1" from rfl)]
    exact requireMatch_eq_ok rfl
  | sha256 =>
    rw [if_neg (by simp [StrEnum.value]), if_pos (show StrEnum.value GitObjectFormat.sha256 = py "sha256" from rfl)]
    exact requireMatch_eq_ok rfl

theorem requireText_ok {u : Unit} : requireText field s = .ok u ↔ s ≠ [] := by
  unfold requireText requireStr
  simp only [bind_eq_ok, raiseIf_eq_ok]
  constructor
  · rintro ⟨_, ⟨_, h, -⟩, -⟩ hs
    exact h ⟨trivial, hs⟩
  · exact fun h => ⟨s, ⟨(), fun hs => h hs.2, rfl⟩, rfl⟩

theorem requireSortedUniqueStrTuple_nil : requireSortedUniqueStrTuple field [] = .ok () := rfl

end Canonical

/-! ### candidates -/

theorem dollar_digest_ascii {s : PyStr} (h : dollar digestRe s = true) : Ascii s :=
  dollar_ascii (fun _ => digestRe_ascii) h

theorem dollar_sha_ascii {format : GitObjectFormat} {s : PyStr} (h : dollar (Canonical.objectShaRe format) s = true) :
    Ascii s :=
  dollar_ascii (fun _ ht c hc => isHex_lt (exactRe_all ht c hc)) h

theorem requireSchema_ok {expected value : PyStr} {u : Unit} :
    requireSchema rt expected value = .ok u ↔ value = expected := by
  unfold requireSchema
  rw [raiseIf_eq_ok, not_not]

structure CandidateBindingArgs.Valid (c : CandidateBindingArgs) : Prop where
  schemaVersion : c.schemaVersion = py "p0-9b.candidate-binding.v1"
  repositoryId : dollar digestRe c.repositoryId = true
  baseCommitSha : dollar (Canonical.objectShaRe c.objectFormat) c.baseCommitSha = true
  candidateCommitSha : dollar (Canonical.objectShaRe c.objectFormat) c.candidateCommitSha = true
  candidateTreeSha : dollar (Canonical.objectShaRe c.objectFormat) c.candidateTreeSha = true
  contractDigest : dollar digestRe c.contractDigest = true
  changedFilesDigest : dollar digestRe c.changedFilesDigest = true

theorem CandidateBindingArgs.postInit_ok_iff {c : CandidateBindingArgs} {u : Unit} :
    c.postInit rt = .ok u ↔ c.Valid := by
  unfold CandidateBindingArgs.postInit
  simp only [bind_eq_ok, exists_unit, requireSchema_ok, Canonical.validateSha256Digest_eq_ok,
    Canonical.validateGitObjectSha_eq_ok, exists_and_right, exists_and_left, exists_eq', and_true]
  constructor
  · rintro ⟨h1, h2, h3, h4, h5, h6, h7, -⟩
    exact ⟨h1, h2, h3, h4, h5, h6, h7⟩
  · rintro ⟨h1, h2, h3, h4, h5, h6, h7⟩
    exact ⟨h1, h2, h3, h4, h5, h6, h7, rfl⟩

namespace CandidateBinding

theorem valid (c : CandidateBinding rt) : c.Valid := CandidateBindingArgs.postInit_ok_iff.mp c.postInit_ok

/-- The payload of a candidate has a digest. -/
theorem accepted (c : CandidateBinding rt) : Accepted rt c.toJsonDict := by
  have hv := c.valid
  have hschema : Ascii c.schemaVersion := hv.schemaVersion ▸ ascii_lit _ (by decide)
  unfold toJsonDict
  rw [accepted_record]
  · simp only [List.forall_mem_cons, List.not_mem_nil, false_imp_iff, implies_true, and_true, accepted_str]
    exact ⟨hschema.encodable, (dollar_digest_ascii hv.repositoryId).encodable,
      (StrEnum.value_ascii c.objectFormat).encodable, (dollar_sha_ascii hv.baseCommitSha).encodable,
      (dollar_sha_ascii hv.candidateCommitSha).encodable, (dollar_sha_ascii hv.candidateTreeSha).encodable,
      (dollar_digest_ascii hv.contractDigest).encodable, (dollar_digest_ascii hv.changedFilesDigest).encodable⟩
  · simp only [List.map_cons, List.map_nil, List.forall_mem_cons, List.not_mem_nil, false_imp_iff, implies_true,
      and_true]
    and_intros <;> exact ascii_lit _ (by decide)
  · simp

end CandidateBinding

/-! ### samples -/

def sampleDigest : PyStr := py "sha256:" ++ List.replicate 64 97
def sampleId : PyStr := py "a"

theorem sampleDigest_matches : dollar digestRe sampleDigest = true := by
  unfold sampleDigest
  rw [py_ofList]
  rfl

theorem sampleId_ne_nil : sampleId ≠ [] := by
  unfold sampleId
  rw [py_ofList]
  exact List.cons_ne_nil _ _

theorem sampleId_matches : dollar generatedIdRe sampleId = true ∧ dollar taskIdRe sampleId = true := by
  unfold sampleId
  rw [py_ofList]
  decide

def sampleSha : PyStr := List.replicate 40 97

theorem sampleSha_matches : dollar (Canonical.objectShaRe .sha1) sampleSha = true := by rfl

variable (rt) in
theorem changedFilesDigest_nil : ∃ d, changedFilesDigest rt [] = .ok d ∧ digestRe d = true := by
  refine digest_of_accepted rt ((accepted_record rt ?_ (by simp)).mpr ?_)
  · simp only [List.map_cons, List.map_nil, List.forall_mem_cons, List.not_mem_nil, false_imp_iff, implies_true,
      and_true]
    and_intros <;> exact ascii_lit _ (by decide)
  · simp only [List.forall_mem_cons, List.not_mem_nil, false_imp_iff, implies_true, and_true, accepted_str,
      accepted_strList]
    exact (ascii_lit _ (by decide)).encodable

theorem dollar_of {re : PyStr → Bool} {s : PyStr} (h : re s = true) : dollar re s = true := by
  unfold dollar
  rw [h, Bool.true_or]

/-- A candidate whose changed files have the digest. -/
def sampleCandidate {digest : PyStr} (h : digestRe digest = true) : CandidateBinding rt where
  schemaVersion := py "p0-9b.candidate-binding.v1"
  repositoryId := sampleDigest
  objectFormat := .sha1
  baseCommitSha := sampleSha
  candidateCommitSha := sampleSha
  candidateTreeSha := sampleSha
  contractDigest := sampleDigest
  changedFilesDigest := digest
  postInit_ok := CandidateBindingArgs.postInit_ok_iff.mpr ⟨rfl, sampleDigest_matches, sampleSha_matches,
    sampleSha_matches, sampleSha_matches, sampleDigest_matches, dollar_of h⟩

def sampleSnapshotArgs (digest : PyStr) : RepositorySnapshotArgs where
  schemaVersion := py "p0-9b.repository-snapshot.v1"
  snapshotId := sampleId
  repositoryId := sampleDigest
  repositoryRootHint := sampleId
  objectFormat := .sha1
  headCommitSha := sampleSha
  headTreeSha := sampleSha
  baseCommitSha := sampleSha
  branchName := none
  detachedHead := true
  stagedChanges := []
  unstagedChanges := []
  untrackedFiles := []
  submoduleChanges := []
  changedFiles := []
  changedFilesDigest := digest
  isReleaseClean := true
  capturedAt := Canonical.sampleTime
  inspectorVersion := sampleId

theorem sampleSnapshot_ok {digest : PyStr} (h : changedFilesDigest rt [] = .ok digest) (hre : digestRe digest = true) :
    (sampleSnapshotArgs digest).postInit rt = .ok () := by
  have hhint : Canonical.rejectControlCharacters (py "repository_root_hint") sampleId = .ok () := by
    unfold Canonical.rejectControlCharacters sampleId
    simp only [bind_eq_ok, raiseIf_eq_ok, exists_unit]
    rw [py_ofList]
    decide
  have hpaths (field : PyStr) : validateSortedUniquePaths rt field [] = .ok () := rfl
  obtain ⟨time, htime⟩ := Canonical.validateRfc3339Utc_sample rt
  unfold RepositorySnapshotArgs.postInit Canonical.validateRepositoryRootHint sampleSnapshotArgs
  simp only [bind_eq_ok, raiseIf_eq_ok, exists_unit, requireSchema_ok, Canonical.validateSha256Digest_eq_ok,
    Canonical.validateGeneratedId_eq_ok, Canonical.validateGitObjectSha_eq_ok, Canonical.requireText_ok,
    exists_and_right, exists_and_left, exists_eq', and_true, true_and, hpaths, hhint, h, htime, Except.ok.injEq]
  exact ⟨sampleId_matches.1, sampleDigest_matches, sampleId_ne_nil, sampleSha_matches, sampleSha_matches,
    sampleSha_matches, by simp, by simp, dollar_of hre, digest, rfl, not_not.mpr rfl, not_not.mpr rfl,
    sampleId_ne_nil⟩

/-- A clean snapshot of the candidate. -/
def sampleSnapshot {digest : PyStr} (h : changedFilesDigest rt [] = .ok digest) (hre : digestRe digest = true) :
    RepositorySnapshot rt where
  toRepositorySnapshotArgs := sampleSnapshotArgs digest
  postInit_ok := sampleSnapshot_ok h hre

end
end Tomtit
