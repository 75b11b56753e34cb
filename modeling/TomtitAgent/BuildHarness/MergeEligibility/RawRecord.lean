import TomtitAgent.BuildHarness.MergeEligibility.Facade

/-!
# Raw records

A stored record is a dictionary of JSON shape; a record in the process is a `PolicyEvaluationRecord`.

* `Converts raw r`   `r` has the fields of `raw`, lists turned into tuples and enum strings into
  their members;
* `PolicyEvaluationRecordArgs.ofRaw`   the only arguments that `raw` can convert to;
* `PolicyEvaluationRecordArgs.Sound`   the checks of the constructor but for the grammar of the
  identifiers, `TokenAccounting` that grammar;
* `structuralErrors_nil`   the raw validator asks for `Sound` fields;
* `raw_typed_agree_iff`   so it agrees with the constructor where the identifiers are tokens.
-/

open Py

namespace Tomtit

/-! ### from a raw record to the arguments of the constructor -/

/-- A digest that is there as an exact string, or the sentinel (compared by `==`). -/
def IsApproval (v : PyVal) (approval : PyStr) : Prop :=
  v = .str approval ∨ v.asStr = some approvalSentinel ∧ approval = approvalSentinel

/-- `r` has the fields of `raw`. -/
structure Converts (raw : List (PyStr × PyVal)) (r : PolicyEvaluationRecordArgs) : Prop where
  schemaVersion : (rawField raw (py "schema_version")).asStr = some r.schemaVersion
  taskId : rawField raw (py "task_id") = .str r.taskId
  taskContractDigest : rawField raw (py "task_contract_digest") = .str r.taskContractDigest
  candidateDigest : rawField raw (py "candidate_digest") = .str r.candidateDigest
  repositorySnapshotDigest :
    rawField raw (py "repository_snapshot_digest") = .str r.repositorySnapshotDigest
  verificationBundleDigest :
    rawField raw (py "verification_bundle_digest") = .str r.verificationBundleDigest
  approvalDigestOrSentinel :
    IsApproval (rawField raw (py "approval_digest_or_sentinel")) r.approvalDigestOrSentinel
  authorityBindingDigest :
    rawField raw (py "authority_binding_digest") = .str r.authorityBindingDigest
  verifierBindingDigest : rawField raw (py "verifier_binding_digest") = .str r.verifierBindingDigest
  policyDigest : rawField raw (py "policy_digest") = .str r.policyDigest
  policyVersion : rawField raw (py "policy_version") = .str r.policyVersion
  evaluatorVersion : rawField raw (py "evaluator_version") = .str r.evaluatorVersion
  evaluationMode : rawField raw (py "evaluation_mode") = .str (StrEnum.value r.evaluationMode)
  inputDigest : rawField raw (py "input_digest") = .str r.inputDigest
  disposition : rawField raw (py "disposition") = .str (StrEnum.value r.disposition)
  decisionAuthority :
    rawField raw (py "decision_authority") = .str (StrEnum.value r.decisionAuthority)
  primaryReasonCode : rawField raw (py "primary_reason_code") = .optStr r.primaryReasonCode
  completeReasonCodes : rawField raw (py "complete_reason_codes") = .strList r.completeReasonCodes
  blockingReasonCodes : rawField raw (py "blocking_reason_codes") = .strList r.blockingReasonCodes
  reviewReasonCodes : rawField raw (py "review_reason_codes") = .strList r.reviewReasonCodes
  requiredRequirementIds :
    rawField raw (py "required_requirement_ids") = .strList r.requiredRequirementIds
  satisfiedRequirementIds :
    rawField raw (py "satisfied_requirement_ids") = .strList r.satisfiedRequirementIds
  invalidRequirementIds :
    rawField raw (py "invalid_requirement_ids") = .strList r.invalidRequirementIds
  missingRequirementIds :
    rawField raw (py "missing_requirement_ids") = .strList r.missingRequirementIds
  rejectedEvidenceIds : rawField raw (py "rejected_evidence_ids") = .strList r.rejectedEvidenceIds
  invalidProvenanceEvidenceIds :
    rawField raw (py "invalid_provenance_evidence_ids") = .strList r.invalidProvenanceEvidenceIds
  unexpectedEvidenceIds :
    rawField raw (py "unexpected_evidence_ids") = .strList r.unexpectedEvidenceIds
  decisionDigest : rawField raw (py "decision_digest") = .str r.decisionDigest
  policyRecordDigest : rawField raw (py "policy_record_digest") = .str r.policyRecordDigest

def rawText (raw : List (PyStr × PyVal)) (name : String) : PyStr :=
  (rawField raw (py name)).asStr.getD []

def rawTexts (raw : List (PyStr × PyVal)) (name : String) : List PyStr :=
  (rawStrings (rawField raw (py name))).getD []

/-- The arguments that `raw` converts to, if to any. -/
def PolicyEvaluationRecordArgs.ofRaw (raw : List (PyStr × PyVal)) : PolicyEvaluationRecordArgs where
  schemaVersion := rawText raw "schema_version"
  taskId := rawText raw "task_id"
  taskContractDigest := rawText raw "task_contract_digest"
  candidateDigest := rawText raw "candidate_digest"
  repositorySnapshotDigest := rawText raw "repository_snapshot_digest"
  verificationBundleDigest := rawText raw "verification_bundle_digest"
  approvalDigestOrSentinel := rawText raw "approval_digest_or_sentinel"
  authorityBindingDigest := rawText raw "authority_binding_digest"
  verifierBindingDigest := rawText raw "verifier_binding_digest"
  policyDigest := rawText raw "policy_digest"
  policyVersion := rawText raw "policy_version"
  evaluatorVersion := rawText raw "evaluator_version"
  evaluationMode := (StrEnum.ofValue? (rawText raw "evaluation_mode")).getD .enforce
  inputDigest := rawText raw "input_digest"
  disposition := (StrEnum.ofValue? (rawText raw "disposition")).getD .block
  decisionAuthority := (StrEnum.ofValue? (rawText raw "decision_authority")).getD .advisoryOnly
  primaryReasonCode := (rawField raw (py "primary_reason_code")).asStr
  completeReasonCodes := rawTexts raw "complete_reason_codes"
  blockingReasonCodes := rawTexts raw "blocking_reason_codes"
  reviewReasonCodes := rawTexts raw "review_reason_codes"
  requiredRequirementIds := rawTexts raw "required_requirement_ids"
  satisfiedRequirementIds := rawTexts raw "satisfied_requirement_ids"
  invalidRequirementIds := rawTexts raw "invalid_requirement_ids"
  missingRequirementIds := rawTexts raw "missing_requirement_ids"
  rejectedEvidenceIds := rawTexts raw "rejected_evidence_ids"
  invalidProvenanceEvidenceIds := rawTexts raw "invalid_provenance_evidence_ids"
  unexpectedEvidenceIds := rawTexts raw "unexpected_evidence_ids"
  decisionDigest := rawText raw "decision_digest"
  policyRecordDigest := rawText raw "policy_record_digest"

theorem ofValue?_value {α : Type} [StrEnum α] (a : α) : StrEnum.ofValue? (StrEnum.value a) = some a :=
  StrEnum.ofValue?_eq_some.mpr rfl

theorem asStr_optStr (s : Option PyStr) : (PyVal.optStr s).asStr = s := by
  cases s <;> rfl

theorem Converts.eq_ofRaw {raw : List (PyStr × PyVal)} {r : PolicyEvaluationRecordArgs}
    (h : Converts raw r) : r = .ofRaw raw := by
  have happroval : rawText raw "approval_digest_or_sentinel" = r.approvalDigestOrSentinel := by
    unfold rawText
    rcases h.approvalDigestOrSentinel with h | ⟨h, e⟩
    · rw [h]
      rfl
    · rw [h, e]
      rfl
  unfold PolicyEvaluationRecordArgs.ofRaw
  rw [happroval]
  unfold rawText rawTexts
  rw [h.schemaVersion, h.taskId, h.taskContractDigest, h.candidateDigest,
    h.repositorySnapshotDigest, h.verificationBundleDigest, h.authorityBindingDigest,
    h.verifierBindingDigest, h.policyDigest, h.policyVersion, h.evaluatorVersion, h.evaluationMode,
    h.inputDigest, h.disposition, h.decisionAuthority, h.primaryReasonCode, h.completeReasonCodes,
    h.blockingReasonCodes, h.reviewReasonCodes, h.requiredRequirementIds,
    h.satisfiedRequirementIds, h.invalidRequirementIds, h.missingRequirementIds,
    h.rejectedEvidenceIds, h.invalidProvenanceEvidenceIds, h.unexpectedEvidenceIds,
    h.decisionDigest, h.policyRecordDigest]
  simp only [asStr_str, Option.getD_some, ofValue?_value, rawStrings_strList, asStr_optStr]

/-! ### what the raw validator asks of the fields -/

/-- The checks of the accounting and of the reasons, with any strings for identifiers. -/
structure DecisionCoreArgs.Accountable (c : DecisionCoreArgs) : Prop where
  complete : ReasonSet c.completeReasonCodes
  blocking : ReasonSet c.blockingReasonCodes
  review : ReasonSet c.reviewReasonCodes
  required : c.requiredRequirementIds.Pairwise (· < ·)
  satisfied : c.satisfiedRequirementIds.Pairwise (· < ·)
  invalid : c.invalidRequirementIds.Pairwise (· < ·)
  missing : c.missingRequirementIds.Pairwise (· < ·)
  rejected : c.rejectedEvidenceIds.Pairwise (· < ·)
  invalidProvenance : c.invalidProvenanceEvidenceIds.Pairwise (· < ·)
  unexpected : c.unexpectedEvidenceIds.Pairwise (· < ·)
  disjoint : ∀ code ∈ c.blockingReasonCodes, code ∉ c.reviewReasonCodes
  covers : ∀ code, code ∈ c.completeReasonCodes ↔
    code ∈ c.blockingReasonCodes ∨ code ∈ c.reviewReasonCodes
  primary_none : c.primaryReasonCode = none ↔ c.completeReasonCodes = []
  primary_mem : ∀ code, c.primaryReasonCode = some code → code ∈ c.completeReasonCodes
  disposition : c.disposition = c.expectedDisposition
  partition : ∀ x, x ∈ c.requiredRequirementIds ↔ x ∈ c.satisfiedRequirementIds ∨
    x ∈ c.invalidRequirementIds ∨ x ∈ c.missingRequirementIds
  satisfied_invalid : ∀ x ∈ c.satisfiedRequirementIds, x ∉ c.invalidRequirementIds
  satisfied_missing : ∀ x ∈ c.satisfiedRequirementIds, x ∉ c.missingRequirementIds
  invalid_missing : ∀ x ∈ c.invalidRequirementIds, x ∉ c.missingRequirementIds

/-- Every identifier of the accounting is a token. -/
def DecisionCoreArgs.TokenAccounting (c : DecisionCoreArgs) : Prop :=
  ∀ ids ∈ [c.requiredRequirementIds, c.satisfiedRequirementIds, c.invalidRequirementIds,
    c.missingRequirementIds, c.rejectedEvidenceIds, c.invalidProvenanceEvidenceIds,
    c.unexpectedEvidenceIds], ∀ x ∈ ids, tokenGrammar x = true

theorem recordable_iff {c : DecisionCoreArgs} :
    c.Recordable ↔ c.Accountable ∧ c.TokenAccounting := by
  unfold DecisionCoreArgs.TokenAccounting
  simp only [List.forall_mem_cons, List.not_mem_nil, false_imp_iff, implies_true, and_true]
  constructor
  · intro h
    exact ⟨⟨h.complete, h.blocking, h.review, h.required.strict, h.satisfied.strict,
      h.invalid.strict, h.missing.strict, h.rejected.strict, h.invalidProvenance.strict,
      h.unexpected.strict, h.disjoint, h.covers, h.primary_none, h.primary_mem, h.disposition,
      h.partition, h.satisfied_invalid, h.satisfied_missing, h.invalid_missing⟩, h.required.token,
      h.satisfied.token, h.invalid.token, h.missing.token, h.rejected.token,
      h.invalidProvenance.token, h.unexpected.token⟩
  · intro ⟨h, t1, t2, t3, t4, t5, t6, t7⟩
    exact ⟨h.complete, h.blocking, h.review, ⟨t1, h.required⟩, ⟨t2, h.satisfied⟩, ⟨t3, h.invalid⟩,
      ⟨t4, h.missing⟩, ⟨t5, h.rejected⟩, ⟨t6, h.invalidProvenance⟩, ⟨t7, h.unexpected⟩, h.disjoint,
      h.covers, h.primary_none, h.primary_mem, h.disposition, h.partition, h.satisfied_invalid,
      h.satisfied_missing, h.invalid_missing⟩

/-- The fields are well formed and agree with one another; the digests are only digests. -/
structure PolicyEvaluationRecordArgs.FieldsSound (r : PolicyEvaluationRecordArgs) : Prop where
  schemaVersion : r.schemaVersion = policyRecordSchemaVersion
  echoes : r.toInputEchoes.Valid
  inputDigest : digestRe r.inputDigest = true
  core : r.toDecisionCoreArgs.Accountable
  decisionDigest : digestRe r.decisionDigest = true
  policyRecordDigest : digestRe r.policyRecordDigest = true

theorem exactStr_iff {re : PyStr → Bool} {v : PyVal} :
    exactStr re v = true ↔ v = .str (v.asStr.getD []) ∧ re (v.asStr.getD []) = true := by
  cases v with
  | str s => exact (and_iff_right rfl).symm
  | _ => exact iff_of_false (by simp [exactStr]) (by simp)

theorem exactEnum_iff {α : Type} [StrEnum α] {v : PyVal} {default : α} :
    exactStr (fun s => decide (s ∈ StrEnum.values α)) v = true ↔
      v = .str (StrEnum.value ((StrEnum.ofValue? (v.asStr.getD [])).getD default)) := by
  rw [exactStr_iff, decide_eq_true_eq]
  constructor
  · intro ⟨hv, hmem⟩
    obtain ⟨a, _, ha⟩ := List.mem_map.mp hmem
    rw [← ha, ofValue?_value, Option.getD_some, ha]
    exact hv
  · intro hv
    have hs : v.asStr = some (StrEnum.value
        ((StrEnum.ofValue? (v.asStr.getD []) : Option α).getD default)) := by
      conv_lhs => rw [hv]
      rfl
    refine ⟨?_, ?_⟩
    · conv_lhs => rw [hv]
      rw [hs, Option.getD_some, ofValue?_value, Option.getD_some]
    · rw [hs, Option.getD_some]
      exact StrEnum.value_mem _

theorem approval_iff {v : PyVal} :
    ¬ (¬ v.asStr = some approvalSentinel ∧ exactStr digestRe v = false) ↔
      IsApproval v (v.asStr.getD []) ∧
        (v.asStr.getD [] = approvalSentinel ∨ digestRe (v.asStr.getD []) = true) := by
  rw [not_and_or, not_not, Bool.not_eq_false, exactStr_iff]
  unfold IsApproval
  constructor
  · rintro (h | ⟨h, hre⟩)
    · rw [h]
      exact ⟨Or.inr ⟨rfl, rfl⟩, Or.inl rfl⟩
    · exact ⟨Or.inl h, Or.inr hre⟩
  · rintro ⟨h | ⟨h, _⟩, hs⟩
    · rcases hs with hs | hs
      · left
        rw [h, hs]
        rfl
      · exact Or.inr ⟨h, hs⟩
    · exact Or.inl h

theorem rawStrings_eq_some {v : PyVal} {xs : List PyStr} :
    rawStrings v = some xs ↔ v = .strList xs := by
  refine ⟨fun h => ?_, fun h => by rw [h, rawStrings_strList]⟩
  cases v with
  | list vs =>
    unfold PyVal.strList
    refine congrArg PyVal.list ?_
    rw [rawStrings] at h
    induction vs generalizing xs with
    | nil => rw [← Option.some.inj h]; rfl
    | cons v vs ih =>
      rw [List.mapM_cons] at h
      cases v with
      | str s =>
        obtain ⟨_, hs, h⟩ := Option.bind_eq_some_iff.mp h
        obtain ⟨ys, hys, h⟩ := Option.bind_eq_some_iff.mp h
        rw [← Option.some.inj h, ← Option.some.inj hs, ih hys]
        rfl
      | _ => exact absurd h (by simp)
  | _ => exact absurd h (by simp [rawStrings])

theorem normalizedList_iff {v : PyVal} :
    (match rawStrings v with
      | none => [recordTypeInvalid]
      | some value => errorIf (value ≠ sorted value ∨ distinct value = false) recordNotNormalized)
        = [] ↔
      v = .strList ((rawStrings v).getD []) ∧ ((rawStrings v).getD []).Pairwise (· < ·) := by
  cases h : rawStrings v with
  | none =>
    refine iff_of_false (by simp) fun hv => ?_
    rw [hv.1, rawStrings_strList] at h
    cases h
  | some xs =>
    rw [Option.getD_some, and_iff_right (rawStrings_eq_some.mp h), ← strict_iff]
    show errorIf _ _ = [] ↔ _
    rw [errorIf_eq_nil, not_or, ne_eq, not_not, Bool.not_eq_false]

theorem knownList_iff {v : PyVal} :
    (match rawStrings v with
      | none => []
      | some value => errorIf (∃ item ∈ value, item ∉ knownReasonCodes) recordTypeInvalid) = [] ↔
      ∀ x ∈ (rawStrings v).getD [], x ∈ knownReasonCodes := by
  cases h : rawStrings v with
  | none => exact iff_of_true rfl fun x hx => absurd hx List.not_mem_nil
  | some xs =>
    show errorIf _ _ = [] ↔ _
    rw [errorIf_eq_nil, Option.getD_some]
    simp only [not_exists, not_and, not_not]

theorem primary_iff {v : PyVal} :
    ¬ (¬ (v matches .none) = true ∧ exactStr (fun x => decide (x ∈ knownReasonCodes)) v = false) ↔
      v = .optStr v.asStr ∧ ∀ code, v.asStr = some code → code ∈ knownReasonCodes := by
  cases v with
  | none => exact iff_of_true (fun h => h.1 rfl) ⟨rfl, fun code h => by cases h⟩
  | str s =>
    rw [exactStr_str]
    simp [PyVal.optStr, asStr_str]
  | enum cls name isStr value =>
    refine iff_of_false (fun h => h ⟨by simp, rfl⟩) fun h => ?_
    cases hs : (PyVal.enum cls name isStr value).asStr with
    | none =>
      rw [hs] at h
      cases h.1
    | some s =>
      rw [hs] at h
      cases h.1
  | _ => exact iff_of_false (fun h => h ⟨by simp, rfl⟩) fun h => by cases h.1

structure PolicyEvaluationRecordArgs.FieldsTyped (r : PolicyEvaluationRecordArgs) : Prop where
  schemaVersion : r.schemaVersion = policyRecordSchemaVersion
  echoes : r.toInputEchoes.Valid
  inputDigest : digestRe r.inputDigest = true
  decisionDigest : digestRe r.decisionDigest = true
  policyRecordDigest : digestRe r.policyRecordDigest = true
  complete : ReasonSet r.completeReasonCodes
  blocking : ReasonSet r.blockingReasonCodes
  review : ReasonSet r.reviewReasonCodes
  primary : ∀ code, r.primaryReasonCode = some code → code ∈ knownReasonCodes
  required : r.requiredRequirementIds.Pairwise (· < ·)
  satisfied : r.satisfiedRequirementIds.Pairwise (· < ·)
  invalid : r.invalidRequirementIds.Pairwise (· < ·)
  missing : r.missingRequirementIds.Pairwise (· < ·)
  rejected : r.rejectedEvidenceIds.Pairwise (· < ·)
  invalidProvenance : r.invalidProvenanceEvidenceIds.Pairwise (· < ·)
  unexpected : r.unexpectedEvidenceIds.Pairwise (· < ·)

theorem schemaVersion_iff {v : PyVal} :
    v.asStr = some policyRecordSchemaVersion ↔
      v.asStr = some (v.asStr.getD []) ∧ v.asStr.getD [] = policyRecordSchemaVersion := by
  cases v.asStr with
  | none => simp
  | some s => simp

/-- The raw validator reports nothing exactly when the fields convert, are typed, and the two
partitions are in order. -/
theorem validateRawFields_nil {raw : List (PyStr × PyVal)} :
    validateRawFields raw = .ok [] ↔ (Converts raw (.ofRaw raw) ∧
      (PolicyEvaluationRecordArgs.ofRaw raw).FieldsTyped) ∧ reasonPartitionErrors raw = .ok [] ∧
      requirementPartitionErrors raw = [] := by
  unfold validateRawFields
  simp only [bind_eq_ok, pure, Except.pure, Except.ok.injEq, List.append_eq_nil_iff,
    List.flatMap_eq_nil_iff, reasonFields, accountingFields, sourceBindingFields, List.cons_append,
    List.nil_append, List.forall_mem_cons, List.not_mem_nil, false_imp_iff, implies_true, and_true,
    errorIf_eq_nil, py_inj, String.reduceEq, false_and, not_false_eq_true, true_and, ne_eq,
    not_not, Bool.not_eq_false]
  constructor
  · rintro ⟨_, hreason, ⟨⟨⟨⟨⟨⟨⟨⟨⟨h1, h2, h3, h4⟩, d1, d2, d3, d4, d5, d6, d7, d8, d9, d10, d11⟩, m⟩, m'⟩,
      m''⟩, l1, l2, l3, l4, l5, l6, l7, l8, l9, l10⟩, hp⟩, k1, k2, k3⟩, rfl⟩, hreq⟩
    obtain ⟨v1, s1⟩ := schemaVersion_iff.mp h1
    obtain ⟨v2, s2⟩ := exactStr_iff.mp h2
    obtain ⟨v3, s3⟩ := exactStr_iff.mp h3
    obtain ⟨v4, s4⟩ := exactStr_iff.mp h4
    obtain ⟨w1, t1⟩ := exactStr_iff.mp d1
    obtain ⟨w2, t2⟩ := exactStr_iff.mp d2
    obtain ⟨w3, t3⟩ := exactStr_iff.mp d3
    obtain ⟨w4, t4⟩ := exactStr_iff.mp d4
    obtain ⟨w5, t5⟩ := approval_iff.mp d5
    obtain ⟨w6, t6⟩ := exactStr_iff.mp d6
    obtain ⟨w7, t7⟩ := exactStr_iff.mp d7
    obtain ⟨w8, t8⟩ := exactStr_iff.mp d8
    obtain ⟨w9, t9⟩ := exactStr_iff.mp d9
    obtain ⟨w10, t10⟩ := exactStr_iff.mp d10
    obtain ⟨w11, t11⟩ := exactStr_iff.mp d11
    obtain ⟨x1, y1⟩ := normalizedList_iff.mp l1
    obtain ⟨x2, y2⟩ := normalizedList_iff.mp l2
    obtain ⟨x3, y3⟩ := normalizedList_iff.mp l3
    obtain ⟨x4, y4⟩ := normalizedList_iff.mp l4
    obtain ⟨x5, y5⟩ := normalizedList_iff.mp l5
    obtain ⟨x6, y6⟩ := normalizedList_iff.mp l6
    obtain ⟨x7, y7⟩ := normalizedList_iff.mp l7
    obtain ⟨x8, y8⟩ := normalizedList_iff.mp l8
    obtain ⟨x9, y9⟩ := normalizedList_iff.mp l9
    obtain ⟨x10, y10⟩ := normalizedList_iff.mp l10
    obtain ⟨hv, hknown⟩ := primary_iff.mp hp
    exact ⟨⟨⟨v1, v2, w1, w2, w3, w4, w5, w6, w7, w8, v3, v4, exactEnum_iff.mp m, w9,
      exactEnum_iff.mp m', exactEnum_iff.mp m'', hv, x1, x2, x3, x4, x5, x6, x7, x8, x9, x10, w10,
      w11⟩, s1, ⟨s2, t1, t2, t3, t4, t5, t6, t7, t8, s3, s4⟩, t9, t10, t11,
      ⟨knownList_iff.mp k1, y1⟩, ⟨knownList_iff.mp k2, y2⟩, ⟨knownList_iff.mp k3, y3⟩, hknown, y4, y5,
      y6, y7, y8, y9, y10⟩, hreason, hreq⟩
  · rintro ⟨⟨hc, ht⟩, hreason, hreq⟩
    have he := ht.echoes
    refine ⟨[], hreason, ⟨⟨⟨⟨⟨⟨⟨⟨⟨schemaVersion_iff.mpr ⟨hc.schemaVersion, ht.schemaVersion⟩,
      exactStr_iff.mpr ⟨hc.taskId, he.taskId⟩, exactStr_iff.mpr ⟨hc.policyVersion, he.policyVersion⟩,
      exactStr_iff.mpr ⟨hc.evaluatorVersion, he.evaluatorVersion⟩⟩,
      exactStr_iff.mpr ⟨hc.taskContractDigest, he.taskContractDigest⟩,
      exactStr_iff.mpr ⟨hc.candidateDigest, he.candidateDigest⟩,
      exactStr_iff.mpr ⟨hc.repositorySnapshotDigest, he.repositorySnapshotDigest⟩,
      exactStr_iff.mpr ⟨hc.verificationBundleDigest, he.verificationBundleDigest⟩,
      approval_iff.mpr ⟨hc.approvalDigestOrSentinel, he.approvalDigestOrSentinel⟩,
      exactStr_iff.mpr ⟨hc.authorityBindingDigest, he.authorityBindingDigest⟩,
      exactStr_iff.mpr ⟨hc.verifierBindingDigest, he.verifierBindingDigest⟩,
      exactStr_iff.mpr ⟨hc.policyDigest, he.policyDigest⟩,
      exactStr_iff.mpr ⟨hc.inputDigest, ht.inputDigest⟩,
      exactStr_iff.mpr ⟨hc.decisionDigest, ht.decisionDigest⟩,
      exactStr_iff.mpr ⟨hc.policyRecordDigest, ht.policyRecordDigest⟩⟩,
      exactEnum_iff.mpr hc.evaluationMode⟩, exactEnum_iff.mpr hc.disposition⟩,
      exactEnum_iff.mpr hc.decisionAuthority⟩,
      normalizedList_iff.mpr ⟨hc.completeReasonCodes, ht.complete.strict⟩,
      normalizedList_iff.mpr ⟨hc.blockingReasonCodes, ht.blocking.strict⟩,
      normalizedList_iff.mpr ⟨hc.reviewReasonCodes, ht.review.strict⟩,
      normalizedList_iff.mpr ⟨hc.requiredRequirementIds, ht.required⟩,
      normalizedList_iff.mpr ⟨hc.satisfiedRequirementIds, ht.satisfied⟩,
      normalizedList_iff.mpr ⟨hc.invalidRequirementIds, ht.invalid⟩,
      normalizedList_iff.mpr ⟨hc.missingRequirementIds, ht.missing⟩,
      normalizedList_iff.mpr ⟨hc.rejectedEvidenceIds, ht.rejected⟩,
      normalizedList_iff.mpr ⟨hc.invalidProvenanceEvidenceIds, ht.invalidProvenance⟩,
      normalizedList_iff.mpr ⟨hc.unexpectedEvidenceIds, ht.unexpected⟩⟩,
      primary_iff.mpr ⟨hc.primaryReasonCode, ht.primary⟩⟩, knownList_iff.mpr ht.complete.known,
      knownList_iff.mpr ht.blocking.known, knownList_iff.mpr ht.review.known⟩, rfl⟩, hreq⟩

/-! ### the partitions of converted fields -/

theorem primaryDisagrees_false {primary : Option PyStr} {complete : List PyStr} :
    primaryDisagrees (.optStr primary) complete = .ok false ↔
      (primary = none ↔ complete = []) ∧ ∀ code, primary = some code → code ∈ complete := by
  cases primary with
  | none =>
    show Except.ok (decide (complete ≠ [])) = .ok false ↔ _
    simp
  | some code =>
    show (if complete = [] then Except.ok true
      else .ok (decide (code ∉ complete))) = .ok false ↔ _
    by_cases h : complete = []
    · rw [if_pos h]
      simp [h]
    · rw [if_neg h]
      simp [h]

theorem reasonPartition_nil {raw : List (PyStr × PyVal)} {r : PolicyEvaluationRecordArgs}
    (h : Converts raw r) : reasonPartitionErrors raw = .ok [] ↔
      (∀ code ∈ r.blockingReasonCodes, code ∉ r.reviewReasonCodes) ∧
      (∀ code, code ∈ r.completeReasonCodes ↔
        code ∈ r.blockingReasonCodes ∨ code ∈ r.reviewReasonCodes) ∧
      (r.primaryReasonCode = none ↔ r.completeReasonCodes = []) ∧
      (∀ code, r.primaryReasonCode = some code → code ∈ r.completeReasonCodes) ∧
      r.disposition = r.expectedDisposition := by
  unfold reasonPartitionErrors
  rw [h.completeReasonCodes, h.blockingReasonCodes, h.reviewReasonCodes, h.primaryReasonCode,
    h.disposition]
  simp only [rawStrings_strList]
  rw [bind_eq_ok]
  simp only [pure, Except.pure, Except.ok.injEq, List.append_eq_nil_iff, errorIf_eq_nil, not_or,
    Bool.not_eq_false, Bool.not_eq_true, disjoint_eq_true, setEq_iff, List.mem_append, ne_eq, not_not,
    asStr_str, Option.some.injEq, StrEnum.value_inj.eq_iff]
  constructor
  · rintro ⟨disagrees, hd, ⟨⟨h1, h2⟩, h3⟩, h4⟩
    rw [h3] at hd
    obtain ⟨h5, h6⟩ := primaryDisagrees_false.mp hd
    exact ⟨h1, fun code => (h2 code).symm, h5, h6, h4⟩
  · rintro ⟨h1, h2, h3, h4, h5⟩
    exact ⟨false, primaryDisagrees_false.mpr ⟨h3, h4⟩, ⟨⟨h1, fun code => (h2 code).symm⟩, rfl⟩, h5⟩

theorem requirementPartition_nil {raw : List (PyStr × PyVal)} {r : PolicyEvaluationRecordArgs}
    (h : Converts raw r) : requirementPartitionErrors raw = [] ↔
      (∀ x, x ∈ r.requiredRequirementIds ↔ x ∈ r.satisfiedRequirementIds ∨
        x ∈ r.invalidRequirementIds ∨ x ∈ r.missingRequirementIds) ∧
      (∀ x ∈ r.satisfiedRequirementIds, x ∉ r.invalidRequirementIds) ∧
      (∀ x ∈ r.satisfiedRequirementIds, x ∉ r.missingRequirementIds) ∧
      ∀ x ∈ r.invalidRequirementIds, x ∉ r.missingRequirementIds := by
  unfold requirementPartitionErrors
  rw [h.requiredRequirementIds, h.satisfiedRequirementIds, h.invalidRequirementIds,
    h.missingRequirementIds]
  simp only [rawStrings_strList, errorIf_eq_nil, not_or, Bool.not_eq_false, disjoint_eq_true,
    setEq_iff, List.mem_append, or_assoc]
  exact and_congr (forall_congr' fun x => iff_comm) Iff.rfl

/-- **The fields.**  The raw validator reports nothing about them exactly when they convert to sound
ones. -/
theorem validateRawFields_sound {raw : List (PyStr × PyVal)} :
    validateRawFields raw = .ok [] ↔
      Converts raw (.ofRaw raw) ∧ (PolicyEvaluationRecordArgs.ofRaw raw).FieldsSound := by
  rw [validateRawFields_nil]
  constructor
  · intro ⟨⟨hc, ht⟩, hreason, hreq⟩
    obtain ⟨h1, h2, h3, h4, h5⟩ := (reasonPartition_nil hc).mp hreason
    obtain ⟨h6, h7, h8, h9⟩ := (requirementPartition_nil hc).mp hreq
    exact ⟨hc, ht.schemaVersion, ht.echoes, ht.inputDigest,
      ⟨ht.complete, ht.blocking, ht.review, ht.required, ht.satisfied, ht.invalid, ht.missing,
        ht.rejected, ht.invalidProvenance, ht.unexpected, h1, h2, h3, h4, h5, h6, h7, h8, h9⟩,
      ht.decisionDigest, ht.policyRecordDigest⟩
  · intro ⟨hc, hs⟩
    have hcore := hs.core
    refine ⟨⟨hc, hs.schemaVersion, hs.echoes, hs.inputDigest, hs.decisionDigest,
      hs.policyRecordDigest, hcore.complete, hcore.blocking, hcore.review,
      fun code h => hcore.complete.known code (hcore.primary_mem code h), hcore.required,
      hcore.satisfied, hcore.invalid, hcore.missing, hcore.rejected, hcore.invalidProvenance,
      hcore.unexpected⟩, ?_, ?_⟩
    · exact (reasonPartition_nil hc).mpr ⟨hcore.disjoint, hcore.covers, hcore.primary_none,
        hcore.primary_mem, hcore.disposition⟩
    · exact (requirementPartition_nil hc).mpr ⟨hcore.partition, hcore.satisfied_invalid,
        hcore.satisfied_missing, hcore.invalid_missing⟩

/-! ### the digests -/

section
variable {rt : Runtime}

variable (rt) in
/-- The checks of the constructor, but for the grammar of the identifiers. -/
structure PolicyEvaluationRecordArgs.Sound (r : PolicyEvaluationRecordArgs) : Prop where
  fields : r.FieldsSound
  decisionDigest :
    canonicalDigest rt (decisionPayload (r.toDecisionIdentity.items .strList)) = .ok r.decisionDigest
  policyRecordDigest : canonicalDigest rt
    (recordPayload .strList r.schemaVersion r.toMergeEligibilityDecisionArgs) =
      .ok r.policyRecordDigest

theorem PolicyEvaluationRecordArgs.valid_iff {r : PolicyEvaluationRecordArgs} :
    r.Valid rt ↔ r.Sound rt ∧ r.toDecisionCoreArgs.TokenAccounting := by
  constructor
  · intro h
    obtain ⟨hcore, htoken⟩ := recordable_iff.mp h.decision.core
    exact ⟨⟨⟨h.schemaVersion, h.decision.echoes, h.decision.inputDigest, hcore,
      (accepted_of_digest rt h.decision.decisionDigest).2,
      (accepted_of_digest rt h.policyRecordDigest).2⟩, h.decision.decisionDigest,
      h.policyRecordDigest⟩, htoken⟩
  · intro ⟨h, htoken⟩
    exact ⟨h.fields.schemaVersion, ⟨h.fields.echoes, h.fields.inputDigest,
      recordable_iff.mpr ⟨h.fields.core, htoken⟩, h.decisionDigest⟩, h.policyRecordDigest⟩

theorem catching_eq_ok {α : Type} {classes : List String} {x : Except PyExc α} {handler a : α}
    (h : handler ≠ a) : catching classes x handler = .ok a ↔ x = .ok a := by
  cases x with
  | ok b => exact Iff.rfl
  | error e =>
    show (if _ then Except.ok handler else .error e) = .ok a ↔ _
    split_ifs
    · exact iff_of_false (fun e => h (Except.ok.inj e)) (by simp)
    · exact iff_of_false (by simp) (by simp)

theorem norm_asStr {v : PyVal} {s : PyStr} (h : v.asStr = some s) :
    norm rt v = norm rt (.str s) := by
  cases v with
  | str t => rw [Option.some.inj h]
  | enum cls name isStr value =>
    cases isStr with
    | false => exact absurd h (by simp [PyVal.asStr])
    | true =>
      cases value with
      | str t => rw [← Option.some.inj h]; rfl
      | _ => exact absurd h (by simp [PyVal.asStr])
  | _ => exact absurd h (by simp [PyVal.asStr])

theorem IsApproval.asStr {v : PyVal} {approval : PyStr} (h : IsApproval v approval) :
    v.asStr = some approval := by
  rcases h with rfl | ⟨h, rfl⟩
  · rfl
  · exact h

theorem Converts.norm_identity {raw : List (PyStr × PyVal)} {r : PolicyEvaluationRecordArgs}
    (h : Converts raw r) : (identityFields.map fun name => norm rt (rawField raw name)) =
      (r.toDecisionIdentity.items .strList).map fun kv => norm rt kv.2 := by
  have happroval := @norm_asStr rt _ _ h.approvalDigestOrSentinel.asStr
  simp only [identityFields, DecisionIdentity.items, InputEchoes.items, DecisionCoreArgs.items,
    List.cons_append, List.nil_append, List.map_cons, List.map_nil, h.taskId, h.taskContractDigest,
    h.candidateDigest, h.repositorySnapshotDigest, h.verificationBundleDigest, happroval,
    h.authorityBindingDigest, h.verifierBindingDigest, h.policyDigest, h.policyVersion,
    h.evaluatorVersion, h.evaluationMode, h.inputDigest, h.disposition, h.decisionAuthority,
    h.primaryReasonCode, h.completeReasonCodes, h.blockingReasonCodes, h.reviewReasonCodes,
    h.requiredRequirementIds, h.satisfiedRequirementIds, h.invalidRequirementIds,
    h.missingRequirementIds, h.rejectedEvidenceIds, h.invalidProvenanceEvidenceIds,
    h.unexpectedEvidenceIds]

theorem namedFields_keys (raw : List (PyStr × PyVal)) (names : List PyStr) :
    (names.map fun name => (name, rawField raw name)).map Prod.fst = names := by
  rw [List.map_map]
  exact List.map_id _

theorem decisionDigestFor_raw {raw : List (PyStr × PyVal)} {r : PolicyEvaluationRecordArgs}
    (h : Converts raw r) (digest : PyStr) :
    decisionDigestFor rt (identityFields.map fun name => (name, rawField raw name)) = .ok digest ↔
      canonicalDigest rt (decisionPayload (r.toDecisionIdentity.items .strList)) = .ok digest := by
  have hkeys := namedFields_keys raw identityFields
  have hset : setEq identityFields identityFields = true := setEq_iff.mpr fun _ => Iff.rfl
  unfold decisionDigestFor
  rw [hkeys, raiseIf, if_neg (by rw [hset]; simp)]
  refine canonicalDigest_congr rt (norm_record_congr rt ?_ ?_) digest
  · rw [List.map_cons, List.map_cons, hkeys, r.toDecisionIdentity.items_keys]
  · rw [List.map_cons, List.map_cons, List.map_map, ← h.norm_identity]
    rfl

theorem fields_perm {raw : List (PyStr × PyVal)} {names : List PyStr} (hnames : names.Nodup)
    (hnd : (raw.map Prod.fst).Nodup) (hset : setEq (raw.map Prod.fst) names = true) :
    raw.Perm (names.map fun name => (name, rawField raw name)) := by
  have hfields : (names.map fun name => (name, rawField raw name)).Nodup :=
    hnames.map fun a b e => (Prod.mk.inj e).1
  refine (List.perm_ext_iff_of_nodup (List.Nodup.of_map _ hnd) hfields).mpr fun kv => ?_
  have hfield : ∀ kv ∈ raw, rawField raw kv.1 = kv.2 := by
    intro kv hkv
    unfold rawField
    rw [assoc_of_mem hnd hkv]
    rfl
  rw [List.mem_map]
  constructor
  · intro h
    exact ⟨kv.1, (setEq_iff.mp hset kv.1).mp (List.mem_map_of_mem h), by rw [hfield kv h]⟩
  · rintro ⟨name, hname, rfl⟩
    obtain ⟨kv, hkv, rfl⟩ := List.mem_map.mp ((setEq_iff.mp hset name).mpr hname)
    rw [hfield kv hkv]
    exact hkv

theorem rawRecordFields_filter : rawRecordFields.filter (fun name => name ≠ py "policy_record_digest") =
    py "schema_version" :: (identityFields ++ [py "decision_digest"]) := by
  simp [rawRecordFields, identityFields]

theorem recordDigest_raw {raw : List (PyStr × PyVal)} {r : PolicyEvaluationRecordArgs}
    (hnd : (raw.map Prod.fst).Nodup) (hset : setEq (raw.map Prod.fst) rawRecordFields = true)
    (h : Converts raw r) (digest : PyStr) :
    canonicalDigest rt (.record (raw.filter fun kv => kv.1 ≠ py "policy_record_digest")) =
        .ok digest ↔
      canonicalDigest rt (recordPayload .strList r.schemaVersion r.toMergeEligibilityDecisionArgs) =
        .ok digest := by
  have hperm := (fields_perm rawRecordFields_nodup hnd hset).filter fun kv => decide (kv.1 ≠ py "policy_record_digest")
  have hfilter : ((rawRecordFields.map fun name => (name, rawField raw name)).filter
      fun kv => kv.1 ≠ py "policy_record_digest") =
      (py "schema_version" :: (identityFields ++ [py "decision_digest"])).map
        fun name => (name, rawField raw name) := by
    rw [List.filter_map, ← rawRecordFields_filter]
    rfl
  rw [hfilter] at hperm
  have hcongr : norm rt (.record ((py "schema_version" ::
      (identityFields ++ [py "decision_digest"])).map fun name => (name, rawField raw name))) =
      norm rt (recordPayload .strList r.schemaVersion r.toMergeEligibilityDecisionArgs) := by
    refine norm_record_congr rt ?_ ?_
    · rw [namedFields_keys, List.map_cons, List.map_append, r.toDecisionIdentity.items_keys]
      rfl
    · rw [List.map_map, List.map_cons, List.map_cons, List.map_append, List.map_append,
        ← h.norm_identity, ← norm_asStr h.schemaVersion, List.map_singleton, List.map_singleton,
        ← h.decisionDigest]
      rfl
  exact canonicalDigest_congr rt ((norm_perm rt (hperm.map _)).trans hcongr) digest

/-- **The raw validator.**  It reports nothing exactly when the fields convert to sound ones. -/
theorem structuralErrors_nil {raw : List (PyStr × PyVal)} (hnd : (raw.map Prod.fst).Nodup)
    (hset : setEq (raw.map Prod.fst) rawRecordFields = true) :
    structuralErrors rt raw = .ok [] ↔
      Converts raw (.ofRaw raw) ∧ (PolicyEvaluationRecordArgs.ofRaw raw).Sound rt := by
  unfold structuralErrors
  rw [catching_eq_ok (by simp), bind_eq_ok]
  constructor
  · rintro ⟨errors, hfields, h⟩
    by_cases he : errors ≠ []
    · rw [if_pos he] at h
      exact absurd (Except.ok.inj h) he
    rw [not_not.mp he] at hfields
    rw [if_neg he] at h
    obtain ⟨hc, hs⟩ := validateRawFields_sound.mp hfields
    obtain ⟨decisionDigest, hd, h⟩ := bind_eq_ok.mp h
    by_cases hdd : (rawField raw (py "decision_digest")).asStr ≠ some decisionDigest
    · rw [if_pos hdd] at h
      exact absurd (Except.ok.inj h) (by simp)
    rw [if_neg hdd] at h
    obtain ⟨recordDigest, hr, h⟩ := bind_eq_ok.mp h
    have hrr := not_not.mp (errorIf_eq_nil.mp (Except.ok.inj h))
    rw [hc.decisionDigest, asStr_str, ne_eq, not_not, Option.some.injEq] at hdd
    rw [hc.policyRecordDigest, asStr_str, Option.some.injEq] at hrr
    refine ⟨hc, hs, ?_, ?_⟩
    · rw [hdd]
      exact (decisionDigestFor_raw hc _).mp hd
    · rw [hrr]
      exact (recordDigest_raw hnd hset hc _).mp hr
  · rintro ⟨hc, hs⟩
    refine ⟨[], validateRawFields_sound.mpr ⟨hc, hs.fields⟩, ?_⟩
    rw [if_neg (not_not.mpr rfl)]
    refine bind_eq_ok.mpr ⟨_, (decisionDigestFor_raw hc _).mpr hs.decisionDigest, ?_⟩
    rw [hc.decisionDigest, asStr_str, if_neg (not_not.mpr rfl)]
    refine bind_eq_ok.mpr ⟨_, (recordDigest_raw hnd hset hc _).mpr hs.policyRecordDigest, ?_⟩
    rw [hc.policyRecordDigest]
    exact congrArg Except.ok (errorIf_of_not (not_not.mpr rfl))

end

end Tomtit
