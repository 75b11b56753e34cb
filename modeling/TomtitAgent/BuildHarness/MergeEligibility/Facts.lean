import TomtitAgent.BuildHarness.MergeEligibility.Values

/-!
# `merge_eligibility.py`: `EligibilityFacts` and `MergeEligibilityPolicyInput`

* `EligibilityFactsArgs`, `postInit`   the nineteen fields and the checks of `__post_init__`;
* `EligibilityFacts`   the arguments that the constructor accepts, and what that means (`Valid`);
* `MergeEligibilityPolicyInput`   the seventeen fields, in the same way;
* `toCanonicalPayload`, `inputDigest`   the payload that identifies an input.
-/

open Py

namespace Tomtit

/-! ### facts -/

structure EligibilityFactsArgs where
  taskContextCurrent : TaskContextCurrency
  candidateBindingCurrent : CandidateBindingCurrency
  repositorySnapshotCurrent : RepositorySnapshotCurrency
  repositoryReleaseClean : ReleaseCleanliness
  policyContextCurrent : PolicyContextCurrency
  evidenceContextStatus : EvidenceContextStatus
  evidenceContextViolations : List EvidenceContextViolation
  scopeStatus : ScopeStatus
  approvalStatus : ApprovalStatus
  authorityStatus : AuthorityStatus
  verifierIdentityStatus : VerifierIdentityStatus
  verifierIndependenceStatus : VerifierIndependenceStatus
  requiredRequirementIds : List PyStr
  satisfiedRequirementIds : List PyStr
  invalidRequirementIds : List PyStr
  missingRequirementIds : List PyStr
  rejectedEvidenceIds : List PyStr
  invalidProvenanceEvidenceIds : List PyStr
  unexpectedEvidenceIds : List PyStr
deriving DecidableEq

namespace EligibilityFactsArgs

/-- `EligibilityFacts.__post_init__` -/
def postInit (f : EligibilityFactsArgs) : Except PyExc Unit := do
  requireExactSortedUniqueEnumTupleStrict (py "facts.evidence_context_violations")
    f.evidenceContextViolations
  requireExactSortedUniqueStrTupleStrict (py "facts.required_requirement_ids")
    f.requiredRequirementIds
  requireExactSortedUniqueStrTupleStrict (py "facts.satisfied_requirement_ids")
    f.satisfiedRequirementIds
  requireExactSortedUniqueStrTupleStrict (py "facts.invalid_requirement_ids")
    f.invalidRequirementIds
  requireExactSortedUniqueStrTupleStrict (py "facts.missing_requirement_ids")
    f.missingRequirementIds
  requireExactSortedUniqueStrTupleStrict (py "facts.rejected_evidence_ids") f.rejectedEvidenceIds
  requireExactSortedUniqueStrTupleStrict (py "facts.invalid_provenance_evidence_ids")
    f.invalidProvenanceEvidenceIds
  requireExactSortedUniqueStrTupleStrict (py "facts.unexpected_evidence_ids")
    f.unexpectedEvidenceIds
  raiseIf (f.evidenceContextStatus = .incoherent ∧ f.evidenceContextViolations = [])
    (mergeEligibilityInputError (py ("facts.evidence_context_violations must be non-empty when " ++
      "evidence_context_status is INCOHERENT")))
  raiseIf (f.evidenceContextViolations ≠ [] ∧ f.evidenceContextStatus ≠ .incoherent)
    (mergeEligibilityInputError (py ("facts.evidence_context_violations must be empty unless " ++
      "evidence_context_status is INCOHERENT")))
  raiseIf (disjoint f.satisfiedRequirementIds f.invalidRequirementIds = false)
    (mergeEligibilityInputError (py ("facts: satisfied_requirement_ids and " ++
      "invalid_requirement_ids must be disjoint")))
  raiseIf (disjoint f.satisfiedRequirementIds f.missingRequirementIds = false)
    (mergeEligibilityInputError (py ("facts: satisfied_requirement_ids and " ++
      "missing_requirement_ids must be disjoint")))
  raiseIf (disjoint f.invalidRequirementIds f.missingRequirementIds = false)
    (mergeEligibilityInputError (py ("facts: invalid_requirement_ids and " ++
      "missing_requirement_ids must be disjoint")))
  raiseIf (setEq (f.satisfiedRequirementIds ++ f.invalidRequirementIds ++ f.missingRequirementIds)
      f.requiredRequirementIds = false)
    (mergeEligibilityInputError (py ("facts: required_requirement_ids must equal the union of " ++
      "satisfied_requirement_ids, invalid_requirement_ids and missing_requirement_ids")))

/-- What the constructor establishes of the facts. -/
structure Valid (f : EligibilityFactsArgs) : Prop where
  violations : (f.evidenceContextViolations.map StrEnum.value).Pairwise (· < ·)
  required : IdSet f.requiredRequirementIds
  satisfied : IdSet f.satisfiedRequirementIds
  invalid : IdSet f.invalidRequirementIds
  missing : IdSet f.missingRequirementIds
  rejected : IdSet f.rejectedEvidenceIds
  invalidProvenance : IdSet f.invalidProvenanceEvidenceIds
  unexpected : IdSet f.unexpectedEvidenceIds
  coherence : f.evidenceContextStatus = .incoherent ↔ f.evidenceContextViolations ≠ []
  satisfied_invalid : ∀ x ∈ f.satisfiedRequirementIds, x ∉ f.invalidRequirementIds
  satisfied_missing : ∀ x ∈ f.satisfiedRequirementIds, x ∉ f.missingRequirementIds
  invalid_missing : ∀ x ∈ f.invalidRequirementIds, x ∉ f.missingRequirementIds
  partition : ∀ x, x ∈ f.requiredRequirementIds ↔
    x ∈ f.satisfiedRequirementIds ∨ x ∈ f.invalidRequirementIds ∨ x ∈ f.missingRequirementIds

theorem postInit_ok_iff {f : EligibilityFactsArgs} {u : Unit} :
    f.postInit = .ok u ↔ f.Valid := by
  unfold postInit
  simp only [bind_eq_ok, raiseIf_eq_ok, exists_const, requireEnumSet_ok, requireIdSet_ok,
    Bool.not_eq_false, disjoint_eq_true, setEq_iff, List.mem_append, or_assoc]
  constructor
  · rintro ⟨h1, h2, h3, h4, h5, h6, h7, h8, h9, h10, h11, h12, h13, h14⟩
    refine ⟨h1, h2, h3, h4, h5, h6, h7, h8, ⟨fun h h' => h9 ⟨h, h'⟩, fun h => ?_⟩, h11, h12, h13,
      fun x => (h14 x).symm⟩
    by_contra hne
    exact h10 ⟨h, hne⟩
  · rintro ⟨h1, h2, h3, h4, h5, h6, h7, h8, h9, h11, h12, h13, h14⟩
    exact ⟨h1, h2, h3, h4, h5, h6, h7, h8, fun h => h9.mp h.1 h.2, fun h => h.2 (h9.mpr h.1), h11,
      h12, h13, fun x => (h14 x).symm⟩

end EligibilityFactsArgs

/-- Facts that the constructor accepted. -/
@[ext]
structure EligibilityFacts extends EligibilityFactsArgs where
  postInit_ok : toEligibilityFactsArgs.postInit = .ok ()

namespace EligibilityFacts

theorem valid (f : EligibilityFacts) : f.Valid := EligibilityFactsArgs.postInit_ok_iff.mp f.postInit_ok

/-- `_ENUM_FACT_FIELDS`: the nine facts of the enum table, each with the value of the fact. -/
def enumAttrs (f : EligibilityFacts) : List (PyStr × PyStr) :=
  [(py "task_context_current", StrEnum.value f.taskContextCurrent),
   (py "candidate_binding_current", StrEnum.value f.candidateBindingCurrent),
   (py "repository_snapshot_current", StrEnum.value f.repositorySnapshotCurrent),
   (py "repository_release_clean", StrEnum.value f.repositoryReleaseClean),
   (py "policy_context_current", StrEnum.value f.policyContextCurrent),
   (py "evidence_context_status", StrEnum.value f.evidenceContextStatus),
   (py "scope_status", StrEnum.value f.scopeStatus),
   (py "approval_status", StrEnum.value f.approvalStatus),
   (py "authority_status", StrEnum.value f.authorityStatus)]

/-- `_SET_FACT_FIELDS`: the seven identifier sets. -/
def setAttrs (f : EligibilityFacts) : List (PyStr × List PyStr) :=
  [(py "required_requirement_ids", f.requiredRequirementIds),
   (py "satisfied_requirement_ids", f.satisfiedRequirementIds),
   (py "invalid_requirement_ids", f.invalidRequirementIds),
   (py "missing_requirement_ids", f.missingRequirementIds),
   (py "rejected_evidence_ids", f.rejectedEvidenceIds),
   (py "invalid_provenance_evidence_ids", f.invalidProvenanceEvidenceIds),
   (py "unexpected_evidence_ids", f.unexpectedEvidenceIds)]

def toJsonDict (f : EligibilityFacts) : List (PyStr × PyVal) :=
  [(py "task_context_current", .str (StrEnum.value f.taskContextCurrent)),
   (py "candidate_binding_current", .str (StrEnum.value f.candidateBindingCurrent)),
   (py "repository_snapshot_current", .str (StrEnum.value f.repositorySnapshotCurrent)),
   (py "repository_release_clean", .str (StrEnum.value f.repositoryReleaseClean)),
   (py "policy_context_current", .str (StrEnum.value f.policyContextCurrent)),
   (py "evidence_context_status", .str (StrEnum.value f.evidenceContextStatus)),
   (py "evidence_context_violations", .strList (f.evidenceContextViolations.map StrEnum.value)),
   (py "scope_status", .str (StrEnum.value f.scopeStatus)),
   (py "approval_status", .str (StrEnum.value f.approvalStatus)),
   (py "authority_status", .str (StrEnum.value f.authorityStatus)),
   (py "verifier_identity_status", .str (StrEnum.value f.verifierIdentityStatus)),
   (py "verifier_independence_status", .str (StrEnum.value f.verifierIndependenceStatus)),
   (py "required_requirement_ids", .strList f.requiredRequirementIds),
   (py "satisfied_requirement_ids", .strList f.satisfiedRequirementIds),
   (py "invalid_requirement_ids", .strList f.invalidRequirementIds),
   (py "missing_requirement_ids", .strList f.missingRequirementIds),
   (py "rejected_evidence_ids", .strList f.rejectedEvidenceIds),
   (py "invalid_provenance_evidence_ids", .strList f.invalidProvenanceEvidenceIds),
   (py "unexpected_evidence_ids", .strList f.unexpectedEvidenceIds)]

end EligibilityFacts

/-! ### committed contracts -/

/-- An entry of `_TYPED_FIELD_CONTRACT` with a type and one or two more attributes. -/
def fieldContract (type : String) (rest : List (PyStr × PyVal)) : PyVal :=
  .record ((py "type", .str (py type)) :: rest)

def stringField (grammar : String) : PyVal :=
  fieldContract "string" [(py "grammar", .str (py grammar))]

def sortedUniqueList (itemsFrom : String) : PyVal :=
  fieldContract "sorted_unique_list" [(py "items_from", .str (py itemsFrom))]

def typedFieldContract : PyVal := .record
  [(py "schema_version",
      fieldContract "const" [(py "value", .str (py "changegate.policy-evaluation-record.v1"))]),
   (py "task_id", stringField "task_id"),
   (py "task_contract_digest", stringField "canonical_digest"),
   (py "candidate_digest", stringField "canonical_digest"),
   (py "repository_snapshot_digest", stringField "canonical_digest"),
   (py "verification_bundle_digest", stringField "canonical_digest"),
   (py "approval_digest_or_sentinel", fieldContract "string"
      [(py "grammar", .str (py "canonical_digest_or_sentinel")),
       (py "sentinel", .str (py "NO_APPROVAL_SUPPLIED"))]),
   (py "authority_binding_digest", stringField "canonical_digest"),
   (py "verifier_binding_digest", stringField "canonical_digest"),
   (py "policy_digest", stringField "canonical_digest"),
   (py "policy_version", stringField "version"),
   (py "evaluator_version", stringField "version"),
   (py "evaluation_mode",
      fieldContract "enum" [(py "values", .strList [py "ENFORCE", py "SHADOW"])]),
   (py "input_digest", stringField "canonical_digest"),
   (py "disposition", fieldContract "enum" [(py "values",
      .strList [py "ELIGIBLE_TO_MERGE_UNDER_POLICY", py "REVIEW_REQUIRED", py "BLOCK"])]),
   (py "decision_authority",
      fieldContract "enum" [(py "values", .strList [py "AUTHORITATIVE", py "ADVISORY_ONLY"])]),
   (py "primary_reason_code",
      fieldContract "nullable_enum" [(py "values_from", .str (py "reason_taxonomy"))]),
   (py "complete_reason_codes", sortedUniqueList "reason_taxonomy"),
   (py "blocking_reason_codes", sortedUniqueList "reason_taxonomy"),
   (py "review_reason_codes", sortedUniqueList "reason_taxonomy"),
   (py "required_requirement_ids", sortedUniqueList "requirement_id_universe"),
   (py "satisfied_requirement_ids", sortedUniqueList "requirement_id_universe"),
   (py "invalid_requirement_ids", sortedUniqueList "requirement_id_universe"),
   (py "missing_requirement_ids", sortedUniqueList "requirement_id_universe"),
   (py "rejected_evidence_ids", sortedUniqueList "evidence_record_id_universe"),
   (py "invalid_provenance_evidence_ids", sortedUniqueList "evidence_record_id_universe"),
   (py "unexpected_evidence_ids", sortedUniqueList "evidence_record_id_universe"),
   (py "decision_digest", stringField "canonical_digest")]

def canonicalizationContract : PyVal := .record
  [(py "kind", .str (py "changegate.canonicalization-contract.v1")),
   (py "encoding", .str (py "UTF-8")),
   (py "unicode_normalization", .str (py "NFC")),
   (py "object_keys", .str (py ("lexicographically sorted by the serializer; JSON insertion " ++
      "order is NOT semantic"))),
   (py "separators", .str (py "compact (',', ':')")),
   (py "non_finite_numbers", .str (py "rejected (no NaN/Infinity)")),
   (py "digest", .str (py "'sha256:' + 64 lowercase hex over the canonical JSON bytes")),
   (py "implementation",
      .str (py "agent_core.build_harness.canonical.canonical_json_bytes/canonical_digest"))]

section
variable (rt : Runtime)

/-- A module constant that is a digest: the module does not load when the digest raises. -/
def digestConstant (contract : PyVal) : PyStr :=
  match canonicalDigest rt contract with
  | .ok d => d
  | .error _ => []

def policyRecordSchemaDigest : PyStr := digestConstant rt typedFieldContract
def canonicalizationContractDigest : PyStr := digestConstant rt canonicalizationContract

theorem accepted_lit (l : List Char) (h : l.all (fun c => c.toNat < 128) = true) :
    Accepted rt (.str (py (String.ofList l))) :=
  (accepted_str rt _).mpr (ascii_lit l h).encodable

theorem accepted_fieldContract {type : String} {rest : List (PyStr × PyVal)}
    (ht : Ascii (py type)) (hk : ∀ k ∈ rest.map Prod.fst, Ascii k)
    (hnd : (py "type" :: rest.map Prod.fst).Nodup) (hv : ∀ kv ∈ rest, Accepted rt kv.2) :
    Accepted rt (fieldContract type rest) := by
  unfold fieldContract
  refine (@accepted_record rt ((_, _) :: rest) ?_ hnd).mpr
    (List.forall_mem_cons.mpr ⟨(accepted_str rt _).mpr ht.encodable, hv⟩)
  show ∀ k ∈ py "type" :: rest.map Prod.fst, Ascii k
  rw [List.forall_mem_cons]
  exact ⟨ascii_lit _ (by decide), hk⟩

theorem accepted_fieldContract1 {type : String} {k : PyStr} {v : PyVal}
    (ht : Ascii (py type)) (hk : Ascii k) (hne : py "type" ≠ k) (hv : Accepted rt v) :
    Accepted rt (fieldContract type [(k, v)]) :=
  accepted_fieldContract rt ht (List.forall_mem_singleton.mpr hk)
    (List.nodup_cons.mpr ⟨fun h => hne (List.mem_singleton.mp h), List.nodup_singleton _⟩)
    (List.forall_mem_singleton.mpr hv)

theorem accepted_stringField {grammar : String} (h : Ascii (py grammar)) :
    Accepted rt (stringField grammar) :=
  accepted_fieldContract1 rt (ascii_lit _ (by decide)) (ascii_lit _ (by decide)) (by simp)
    ((accepted_str rt _).mpr h.encodable)

theorem accepted_sortedUniqueList {itemsFrom : String} (h : Ascii (py itemsFrom)) :
    Accepted rt (sortedUniqueList itemsFrom) :=
  accepted_fieldContract1 rt (ascii_lit _ (by decide)) (ascii_lit _ (by decide)) (by simp)
    ((accepted_str rt _).mpr h.encodable)

theorem accepted_enumField {values : List PyStr} (h : ∀ v ∈ values, Ascii v) :
    Accepted rt (fieldContract "enum" [(py "values", .strList values)]) :=
  accepted_fieldContract1 rt (ascii_lit _ (by decide)) (ascii_lit _ (by decide)) (by simp)
    ((accepted_strList rt values).mpr fun v hv => (h v hv).encodable)

theorem typedFieldContract_accepted : Accepted rt typedFieldContract := by
  have hconst : ∀ s, Ascii s → Accepted rt (fieldContract "const" [(py "value", .str s)]) :=
    fun s hs => accepted_fieldContract1 rt (ascii_lit _ (by decide)) (ascii_lit _ (by decide))
      (by simp) ((accepted_str rt s).mpr hs.encodable)
  have hnullable : ∀ s, Ascii s →
      Accepted rt (fieldContract "nullable_enum" [(py "values_from", .str s)]) :=
    fun s hs => accepted_fieldContract1 rt (ascii_lit _ (by decide)) (ascii_lit _ (by decide))
      (by simp) ((accepted_str rt s).mpr hs.encodable)
  have happroval : Accepted rt (fieldContract "string"
      [(py "grammar", .str (py "canonical_digest_or_sentinel")),
       (py "sentinel", .str (py "NO_APPROVAL_SUPPLIED"))]) := by
    refine accepted_fieldContract rt (ascii_lit _ (by decide)) ?_ (by simp) ?_
    · simp only [List.map_cons, List.map_nil, List.forall_mem_cons, List.not_mem_nil,
        false_imp_iff, implies_true, and_true]
      exact ⟨ascii_lit _ (by decide), ascii_lit _ (by decide)⟩
    · simp only [List.forall_mem_cons, List.not_mem_nil, false_imp_iff, implies_true, and_true]
      exact ⟨accepted_lit rt _ (by decide), accepted_lit rt _ (by decide)⟩
  unfold typedFieldContract
  rw [accepted_record]
  · simp only [List.forall_mem_cons, List.not_mem_nil, false_imp_iff, implies_true, and_true,
      happroval, true_and]
    refine ⟨hconst _ (ascii_lit _ (by decide)), ?_⟩
    and_intros
    all_goals first
      | with_reducible refine accepted_stringField rt ?_
        exact ascii_lit _ (by decide)
      | with_reducible refine accepted_sortedUniqueList rt ?_
        exact ascii_lit _ (by decide)
      | with_reducible refine hnullable _ ?_
        exact ascii_lit _ (by decide)
      | with_reducible refine accepted_enumField rt ?_
        simp only [List.forall_mem_cons, List.not_mem_nil, false_imp_iff, implies_true, and_true]
        and_intros <;> exact ascii_lit _ (by decide)
  · simp only [List.map_cons, List.map_nil, List.forall_mem_cons, List.not_mem_nil, false_imp_iff,
      implies_true, and_true]
    and_intros <;> exact ascii_lit _ (by decide)
  · simp

theorem canonicalizationContract_accepted : Accepted rt canonicalizationContract := by
  unfold canonicalizationContract
  rw [accepted_record]
  · simp only [List.forall_mem_cons, List.not_mem_nil, false_imp_iff, implies_true, and_true]
    and_intros
    all_goals first
      | rw [accepted_str, py_append]
        exact ((ascii_lit _ (by decide)).append (ascii_lit _ (by decide))).encodable
      | exact accepted_lit rt _ (by decide)
  · simp only [List.map_cons, List.map_nil, List.forall_mem_cons, List.not_mem_nil, false_imp_iff,
      implies_true, and_true]
    and_intros <;> exact ascii_lit _ (by decide)
  · simp

theorem digestConstant_ok {contract : PyVal} (h : Accepted rt contract) :
    canonicalDigest rt contract = .ok (digestConstant rt contract) ∧
      digestRe (digestConstant rt contract) = true := by
  obtain ⟨d, hd, hre⟩ := digest_of_accepted rt h
  unfold digestConstant
  rw [hd]
  exact ⟨rfl, hre⟩

/-! ### policy input -/

@[ext]
structure MergeEligibilityPolicyInputArgs where
  taskId : PyStr
  taskContractDigest : PyStr
  candidateDigest : PyStr
  repositorySnapshotDigest : PyStr
  verificationBundleDigest : PyStr
  approvalDigestOrSentinel : PyStr
  authorityBindingDigest : PyStr
  verifierBindingDigest : PyStr
  policyDigest : PyStr
  policyVersion : PyStr
  evaluatorVersion : PyStr
  evaluationMode : EvaluationMode
  policyRecordSchemaVersion : PyStr
  policyRecordSchemaDigest : PyStr
  canonicalizationVersion : PyStr
  canonicalizationContractDigest : PyStr
  facts : EligibilityFacts

namespace MergeEligibilityPolicyInputArgs

/-- `MergeEligibilityPolicyInput.__post_init__` -/
def postInit (i : MergeEligibilityPolicyInputArgs) : Except PyExc Unit := do
  requireTaskId rt (py "task_id") i.taskId
  requireDigest rt (py "task_contract_digest") i.taskContractDigest
  requireDigest rt (py "candidate_digest") i.candidateDigest
  requireDigest rt (py "repository_snapshot_digest") i.repositorySnapshotDigest
  requireDigest rt (py "verification_bundle_digest") i.verificationBundleDigest
  requireDigestOrSentinel rt (py "approval_digest_or_sentinel") i.approvalDigestOrSentinel
  requireDigest rt (py "authority_binding_digest") i.authorityBindingDigest
  requireDigest rt (py "verifier_binding_digest") i.verifierBindingDigest
  requireDigest rt (py "policy_digest") i.policyDigest
  requireVersion rt (py "policy_version") i.policyVersion
  requireVersion rt (py "evaluator_version") i.evaluatorVersion
  requireStr (py "policy_record_schema_version") i.policyRecordSchemaVersion
  requireDigest rt (py "policy_record_schema_digest") i.policyRecordSchemaDigest
  requireStr (py "canonicalization_version") i.canonicalizationVersion
  requireDigest rt (py "canonicalization_contract_digest") i.canonicalizationContractDigest
  raiseIf (i.policyRecordSchemaVersion ≠ Tomtit.policyRecordSchemaVersion)
    (mergeEligibilityInputError (py ("policy_record_schema_version must equal the committed " ++
      "constant ") ++ reprStr rt Tomtit.policyRecordSchemaVersion ++ py ", got " ++
      reprStr rt i.policyRecordSchemaVersion))
  raiseIf (i.policyRecordSchemaDigest ≠ Tomtit.policyRecordSchemaDigest rt)
    (mergeEligibilityInputError (py ("policy_record_schema_digest must equal " ++
      "canonical_digest(TYPED_FIELD_CONTRACT) (") ++ reprStr rt (Tomtit.policyRecordSchemaDigest rt)
      ++ py "), got " ++ reprStr rt i.policyRecordSchemaDigest))
  raiseIf (i.canonicalizationVersion ≠ Tomtit.canonicalizationVersion)
    (mergeEligibilityInputError (py "canonicalization_version must equal the committed constant "
      ++ reprStr rt Tomtit.canonicalizationVersion ++ py ", got " ++
      reprStr rt i.canonicalizationVersion))
  raiseIf (i.canonicalizationContractDigest ≠ Tomtit.canonicalizationContractDigest rt)
    (mergeEligibilityInputError (py ("canonicalization_contract_digest must equal the " ++
      "recomputed committed constant ") ++ reprStr rt (Tomtit.canonicalizationContractDigest rt) ++
      py ", got " ++ reprStr rt i.canonicalizationContractDigest))

/-- What the constructor establishes of an input. -/
structure Valid (i : MergeEligibilityPolicyInputArgs) : Prop where
  taskId : tokenGrammar i.taskId = true
  taskContractDigest : digestRe i.taskContractDigest = true
  candidateDigest : digestRe i.candidateDigest = true
  repositorySnapshotDigest : digestRe i.repositorySnapshotDigest = true
  verificationBundleDigest : digestRe i.verificationBundleDigest = true
  approvalDigestOrSentinel :
    i.approvalDigestOrSentinel = approvalSentinel ∨ digestRe i.approvalDigestOrSentinel = true
  authorityBindingDigest : digestRe i.authorityBindingDigest = true
  verifierBindingDigest : digestRe i.verifierBindingDigest = true
  policyDigest : digestRe i.policyDigest = true
  policyVersion : tokenGrammar i.policyVersion = true
  evaluatorVersion : tokenGrammar i.evaluatorVersion = true
  schemaVersion : i.policyRecordSchemaVersion = Tomtit.policyRecordSchemaVersion
  schemaDigest : i.policyRecordSchemaDigest = Tomtit.policyRecordSchemaDigest rt
  canonicalizationVersion : i.canonicalizationVersion = Tomtit.canonicalizationVersion
  contractDigest : i.canonicalizationContractDigest = Tomtit.canonicalizationContractDigest rt

theorem constants_printable :
    (strip Tomtit.policyRecordSchemaVersion ≠ [] ∧ Printable Tomtit.policyRecordSchemaVersion) ∧
      strip Tomtit.canonicalizationVersion ≠ [] ∧ Printable Tomtit.canonicalizationVersion := by
  unfold Tomtit.policyRecordSchemaVersion Tomtit.canonicalizationVersion
  rw [py_ofList, py_ofList]
  decide

theorem postInit_ok_iff {i : MergeEligibilityPolicyInputArgs} {u : Unit} :
    i.postInit rt = .ok u ↔ i.Valid rt := by
  unfold postInit requireTaskId requireVersion
  simp only [bind_eq_ok, raiseIf_eq_ok, exists_const, requireToken_ok, requireDigest_ok,
    requireDigestOrSentinel_ok, requireStr_ok, ne_eq, not_not]
  constructor
  · rintro ⟨h1, h2, h3, h4, h5, h6, h7, h8, h9, h10, h11, _, _, _, _, h12, h13, h14, h15⟩
    exact ⟨h1, h2, h3, h4, h5, h6, h7, h8, h9, h10, h11, h12, h13, h14, h15⟩
  · rintro ⟨h1, h2, h3, h4, h5, h6, h7, h8, h9, h10, h11, h12, h13, h14, h15⟩
    refine ⟨h1, h2, h3, h4, h5, h6, h7, h8, h9, h10, h11, ?_, ?_, ?_, ?_, h12, h13, h14, h15⟩
    · rw [h12]
      exact constants_printable.1
    · rw [h13]
      exact (digestConstant_ok rt (typedFieldContract_accepted rt)).2
    · rw [h14]
      exact constants_printable.2
    · rw [h15]
      exact (digestConstant_ok rt (canonicalizationContract_accepted rt)).2

end MergeEligibilityPolicyInputArgs

/-- An input that the constructor accepted. -/
@[ext]
structure MergeEligibilityPolicyInput extends MergeEligibilityPolicyInputArgs where
  postInit_ok : toMergeEligibilityPolicyInputArgs.postInit rt = .ok ()

end

namespace MergeEligibilityPolicyInput
variable {rt : Runtime}

theorem valid (i : MergeEligibilityPolicyInput rt) : i.Valid rt :=
  (MergeEligibilityPolicyInputArgs.postInit_ok_iff rt).mp i.postInit_ok

/-- The items of `to_canonical_payload()`. -/
def canonicalFields (i : MergeEligibilityPolicyInput rt) : List (PyStr × PyVal) :=
  [(py "kind", .str inputPayloadKind),
   (py "task_id", .str i.taskId),
   (py "task_contract_digest", .str i.taskContractDigest),
   (py "candidate_digest", .str i.candidateDigest),
   (py "repository_snapshot_digest", .str i.repositorySnapshotDigest),
   (py "verification_bundle_digest", .str i.verificationBundleDigest),
   (py "approval_digest_or_sentinel", .str i.approvalDigestOrSentinel),
   (py "authority_binding_digest", .str i.authorityBindingDigest),
   (py "verifier_binding_digest", .str i.verifierBindingDigest),
   (py "policy_digest", .str i.policyDigest),
   (py "policy_version", .str i.policyVersion),
   (py "evaluator_version", .str i.evaluatorVersion),
   (py "evaluation_mode", .str (StrEnum.value i.evaluationMode)),
   (py "policy_record_schema_version", .str i.policyRecordSchemaVersion),
   (py "policy_record_schema_digest", .str i.policyRecordSchemaDigest),
   (py "canonicalization_version", .str i.canonicalizationVersion),
   (py "canonicalization_contract_digest", .str i.canonicalizationContractDigest),
   (py "facts", .record (sortItems i.facts.toJsonDict))]

def toCanonicalPayload (i : MergeEligibilityPolicyInput rt) : PyVal := .record i.canonicalFields

def inputDigest (i : MergeEligibilityPolicyInput rt) : Except PyExc PyStr :=
  canonicalDigest rt i.toCanonicalPayload

end MergeEligibilityPolicyInput

end Tomtit
