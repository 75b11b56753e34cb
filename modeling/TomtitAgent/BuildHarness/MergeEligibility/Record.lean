import TomtitAgent.BuildHarness.MergeEligibility.InputDigest

/-!
# `merge_eligibility_record.py`: decisions and records

* `DecisionIdentity`   the 26 identity fields: the echoes of the input, the decision core and the
  input digest;
* `MergeEligibilityDecision`, `PolicyEvaluationRecord`   the arguments that the constructors accept;
* `finalizeDecision`, `buildPolicyEvaluationRecord`   from an input and a core to a record;
* `finalizeDecision_ok_iff`, `buildPolicyEvaluationRecord_ok_iff`   when they return, and what.
-/

open Py

namespace Tomtit

def recordConstructionError (msg : PyStr) : PyExc := ⟨["RecordConstructionError", "ValueError"], msg⟩

def decisionKind : PyStr := py "changegate.merge-eligibility-decision.test-oracle.v1"

/-- `_REASON_CODES` -/
def knownReasonCodes : List PyStr :=
  [py "AUTHORITY_INVALID", py "REQUIRED_CONTEXT_INCOMPLETE", py "EVIDENCE_TASK_MISMATCH",
   py "EVIDENCE_RUN_MISMATCH", py "EVIDENCE_CANDIDATE_MISMATCH", py "REPOSITORY_CONTEXT_MISMATCH",
   py "EVIDENCE_PROVENANCE_INVALID", py "EVIDENCE_DUPLICATE_IDENTITY",
   py "REQUIRED_EVIDENCE_INVALID", py "TASK_CONTEXT_STALE", py "CANDIDATE_STALE",
   py "POLICY_CONTEXT_STALE", py "REQUIRED_EVIDENCE_MISSING", py "RELEASE_STATE_NOT_CLEAN",
   py "SCOPE_VIOLATION", py "APPROVAL_MISSING", py "APPROVAL_STALE",
   py "VERIFIER_NOT_INDEPENDENT", py "SCOPE_UNCERTAIN", py "VERIFIER_INDEPENDENCE_UNKNOWN"]

/-! ### identity -/

/-- The fields of an input that a decision and a record repeat. -/
@[ext] structure InputEchoes where
  taskId : PyStr
  taskContractDigest : PyStr
  candidateDigest : PyStr
  repositorySnapshotDigest : PyStr
  verificationBundleDigest : PyStr
  approvalDigestOrSentinel : PyStr
  authorityBindingDigest : PyStr
  verifierBindingDigest : PyStr
  policyDigest : PyStr
  policyVersion : PyStr
  evaluatorVersion : PyStr
  evaluationMode : EvaluationMode
deriving DecidableEq

structure DecisionIdentity extends InputEchoes, DecisionCoreArgs where
  inputDigest : PyStr

def MergeEligibilityPolicyInputArgs.echoes (i : MergeEligibilityPolicyInputArgs) : InputEchoes :=
  { i with }

namespace InputEchoes

/-- The echoes in the order of `_IDENTITY_FIELDS`. -/
def items (e : InputEchoes) : List (PyStr × PyVal) :=
  [(py "task_id", .str e.taskId),
   (py "task_contract_digest", .str e.taskContractDigest),
   (py "candidate_digest", .str e.candidateDigest),
   (py "repository_snapshot_digest", .str e.repositorySnapshotDigest),
   (py "verification_bundle_digest", .str e.verificationBundleDigest),
   (py "approval_digest_or_sentinel", .str e.approvalDigestOrSentinel),
   (py "authority_binding_digest", .str e.authorityBindingDigest),
   (py "verifier_binding_digest", .str e.verifierBindingDigest),
   (py "policy_digest", .str e.policyDigest),
   (py "policy_version", .str e.policyVersion),
   (py "evaluator_version", .str e.evaluatorVersion),
   (py "evaluation_mode", .str (StrEnum.value e.evaluationMode))]

end InputEchoes

/-- The core fields in the order of `_CORE_FIELDS`; `tuple` is how a tuple of strings is written:
as a tuple, or as a list in a payload of JSON shape. -/
def DecisionCoreArgs.items (tuple : List PyStr → PyVal) (c : DecisionCoreArgs) :
    List (PyStr × PyVal) :=
  [(py "disposition", .str (StrEnum.value c.disposition)),
   (py "decision_authority", .str (StrEnum.value c.decisionAuthority)),
   (py "primary_reason_code", .optStr c.primaryReasonCode),
   (py "complete_reason_codes", tuple c.completeReasonCodes),
   (py "blocking_reason_codes", tuple c.blockingReasonCodes),
   (py "review_reason_codes", tuple c.reviewReasonCodes),
   (py "required_requirement_ids", tuple c.requiredRequirementIds),
   (py "satisfied_requirement_ids", tuple c.satisfiedRequirementIds),
   (py "invalid_requirement_ids", tuple c.invalidRequirementIds),
   (py "missing_requirement_ids", tuple c.missingRequirementIds),
   (py "rejected_evidence_ids", tuple c.rejectedEvidenceIds),
   (py "invalid_provenance_evidence_ids", tuple c.invalidProvenanceEvidenceIds),
   (py "unexpected_evidence_ids", tuple c.unexpectedEvidenceIds)]

/-- `_identity_payload(source)` -/
def DecisionIdentity.items (tuple : List PyStr → PyVal) (d : DecisionIdentity) :
    List (PyStr × PyVal) :=
  d.toInputEchoes.items ++ (py "input_digest", .str d.inputDigest) ::
    d.toDecisionCoreArgs.items tuple

/-- `_IDENTITY_FIELDS` -/
def identityFields : List PyStr :=
  [py "task_id", py "task_contract_digest", py "candidate_digest",
   py "repository_snapshot_digest", py "verification_bundle_digest",
   py "approval_digest_or_sentinel", py "authority_binding_digest", py "verifier_binding_digest",
   py "policy_digest", py "policy_version", py "evaluator_version", py "evaluation_mode",
   py "input_digest", py "disposition", py "decision_authority", py "primary_reason_code",
   py "complete_reason_codes", py "blocking_reason_codes", py "review_reason_codes",
   py "required_requirement_ids", py "satisfied_requirement_ids", py "invalid_requirement_ids",
   py "missing_requirement_ids", py "rejected_evidence_ids",
   py "invalid_provenance_evidence_ids", py "unexpected_evidence_ids"]

/-- What `decision_digest_for` hashes. -/
def decisionPayload (identity : List (PyStr × PyVal)) : PyVal :=
  .record ((py "kind", .str decisionKind) :: identity)

/-- `decision_digest_for(identity)`; the callers hand it the fields in the committed order. -/
def decisionDigestFor (rt : Runtime) (identity : List (PyStr × PyVal)) : Except PyExc PyStr := do
  raiseIf (setEq (identity.map Prod.fst) identityFields = false)
    (recordConstructionError (py "decision identity payload has an invalid field set"))
  canonicalDigest rt (decisionPayload identity)

/-! ### field checks -/

namespace Record

def requireDigest (field value : PyStr) : Except PyExc Unit :=
  raiseIf (digestRe value = false) (recordConstructionError (field ++ py " must be a canonical digest"))

def requireDigestOrSentinel (field value : PyStr) : Except PyExc Unit :=
  if value = approvalSentinel then .ok () else requireDigest field value

def requireToken (field value : PyStr) : Except PyExc Unit :=
  raiseIf (tokenGrammar value = false)
    (recordConstructionError (field ++ py " must match the committed token grammar"))

/-- `_require_tuple(value, field, reason=reason)` -/
def requireTuple (reason : Bool) (field : PyStr) (value : List PyStr) : Except PyExc Unit := do
  raiseIf (∃ item ∈ value, item = [] ∨ (if reason then machineCodeRe else tokenGrammar) item = false)
    (recordConstructionError (field ++ py " must contain valid identifiers"))
  raiseIf (value ≠ sorted value ∨ distinct value = false)
    (recordConstructionError (field ++ py " must be sorted and duplicate-free"))
  raiseIf (reason = true ∧ ∃ item ∈ value, item ∉ knownReasonCodes)
    (recordConstructionError (field ++ py " contains an unknown reason code"))

/-- `_validate_decision_fields` -/
def validateDecisionFields (c : DecisionCoreArgs) : Except PyExc Unit := do
  raiseIf (∃ code ∈ c.primaryReasonCode, code ∉ knownReasonCodes) (recordConstructionError
    (py "primary_reason_code must be a known reason code or None"))
  requireTuple true (py "complete_reason_codes") c.completeReasonCodes
  requireTuple true (py "blocking_reason_codes") c.blockingReasonCodes
  requireTuple true (py "review_reason_codes") c.reviewReasonCodes
  requireTuple false (py "required_requirement_ids") c.requiredRequirementIds
  requireTuple false (py "satisfied_requirement_ids") c.satisfiedRequirementIds
  requireTuple false (py "invalid_requirement_ids") c.invalidRequirementIds
  requireTuple false (py "missing_requirement_ids") c.missingRequirementIds
  requireTuple false (py "rejected_evidence_ids") c.rejectedEvidenceIds
  requireTuple false (py "invalid_provenance_evidence_ids") c.invalidProvenanceEvidenceIds
  requireTuple false (py "unexpected_evidence_ids") c.unexpectedEvidenceIds
  raiseIf (disjoint c.blockingReasonCodes c.reviewReasonCodes = false ∨
      setEq (c.blockingReasonCodes ++ c.reviewReasonCodes) c.completeReasonCodes = false)
    (recordConstructionError (py "reason partitions must be disjoint and exhaustive"))
  raiseIf (¬ (c.primaryReasonCode = none ↔ c.completeReasonCodes = []) ∨
      ∃ code ∈ c.primaryReasonCode, code ∉ c.completeReasonCodes)
    (recordConstructionError (py "primary reason must agree with complete reasons"))
  raiseIf (c.disposition ≠ c.expectedDisposition)
    (recordConstructionError (py "disposition must be derived from reason partitions"))
  raiseIf (setEq (c.satisfiedRequirementIds ++ c.invalidRequirementIds ++ c.missingRequirementIds)
        c.requiredRequirementIds = false ∨
      disjoint c.satisfiedRequirementIds c.invalidRequirementIds = false ∨
      disjoint c.satisfiedRequirementIds c.missingRequirementIds = false ∨
      disjoint c.invalidRequirementIds c.missingRequirementIds = false)
    (recordConstructionError
      (py "requirement accounting partitions must be disjoint and exhaustive"))

/-- `_validate_identity_fields(source, include_digest=True)` -/
def validateIdentityFields (d : DecisionIdentity) (decisionDigest : PyStr) : Except PyExc Unit := do
  requireToken (py "task_id") d.taskId
  requireDigest (py "task_contract_digest") d.taskContractDigest
  requireDigest (py "candidate_digest") d.candidateDigest
  requireDigest (py "repository_snapshot_digest") d.repositorySnapshotDigest
  requireDigest (py "verification_bundle_digest") d.verificationBundleDigest
  requireDigestOrSentinel (py "approval_digest_or_sentinel") d.approvalDigestOrSentinel
  requireDigest (py "authority_binding_digest") d.authorityBindingDigest
  requireDigest (py "verifier_binding_digest") d.verifierBindingDigest
  requireDigest (py "policy_digest") d.policyDigest
  requireToken (py "policy_version") d.policyVersion
  requireToken (py "evaluator_version") d.evaluatorVersion
  requireDigest (py "input_digest") d.inputDigest
  validateDecisionFields d.toDecisionCoreArgs
  requireDigest (py "decision_digest") decisionDigest

end Record

/-! ### decision and record -/

structure MergeEligibilityDecisionArgs extends DecisionIdentity where
  decisionDigest : PyStr

section
variable (rt : Runtime)

/-- `MergeEligibilityDecision.__post_init__` -/
def MergeEligibilityDecisionArgs.postInit (d : MergeEligibilityDecisionArgs) : Except PyExc Unit := do
  Record.validateIdentityFields d.toDecisionIdentity d.decisionDigest
  let digest ← decisionDigestFor rt (d.toDecisionIdentity.items .strTuple)
  raiseIf (d.decisionDigest ≠ digest)
    (recordConstructionError (py "decision_digest is inconsistent with decision identity"))

structure MergeEligibilityDecision extends MergeEligibilityDecisionArgs where
  postInit_ok : toMergeEligibilityDecisionArgs.postInit rt = .ok ()

structure PolicyEvaluationRecordArgs extends MergeEligibilityDecisionArgs where
  schemaVersion : PyStr
  policyRecordDigest : PyStr

/-- `_record_payload(source)` -/
def recordPayload (tuple : List PyStr → PyVal) (schemaVersion : PyStr)
    (d : MergeEligibilityDecisionArgs) : PyVal :=
  .record ((py "schema_version", .str schemaVersion) ::
    (d.toDecisionIdentity.items tuple ++ [(py "decision_digest", .str d.decisionDigest)]))

/-- `PolicyEvaluationRecord.__post_init__` -/
def PolicyEvaluationRecordArgs.postInit (r : PolicyEvaluationRecordArgs) : Except PyExc Unit := do
  raiseIf (r.schemaVersion ≠ policyRecordSchemaVersion)
    (recordConstructionError (py "schema_version is not the committed record schema"))
  Record.validateIdentityFields r.toDecisionIdentity r.decisionDigest
  Record.requireDigest (py "policy_record_digest") r.policyRecordDigest
  let decisionDigest ← decisionDigestFor rt (r.toDecisionIdentity.items .strTuple)
  raiseIf (r.decisionDigest ≠ decisionDigest)
    (recordConstructionError (py "decision_digest is inconsistent with record identity"))
  let recordDigest ← canonicalDigest rt
    (recordPayload .strTuple r.schemaVersion r.toMergeEligibilityDecisionArgs)
  raiseIf (r.policyRecordDigest ≠ recordDigest)
    (recordConstructionError (py "policy_record_digest is inconsistent with record payload"))

structure PolicyEvaluationRecord extends PolicyEvaluationRecordArgs where
  postInit_ok : toPolicyEvaluationRecordArgs.postInit rt = .ok ()

def MergeEligibilityDecision.construct (d : MergeEligibilityDecisionArgs) :
    Except PyExc (MergeEligibilityDecision rt) :=
  match h : d.postInit rt with
  | .ok () => .ok ⟨d, h⟩
  | .error e => .error e

def PolicyEvaluationRecord.construct (r : PolicyEvaluationRecordArgs) :
    Except PyExc (PolicyEvaluationRecord rt) :=
  match h : r.postInit rt with
  | .ok () => .ok ⟨r, h⟩
  | .error e => .error e

variable {rt}

/-- `_core_matches_input` -/
def coreMatchesInput (i : MergeEligibilityPolicyInput rt) (c : DecisionCoreArgs) : Prop :=
  i.facts.requiredRequirementIds = c.requiredRequirementIds ∧
  i.facts.satisfiedRequirementIds = c.satisfiedRequirementIds ∧
  i.facts.invalidRequirementIds = c.invalidRequirementIds ∧
  i.facts.missingRequirementIds = c.missingRequirementIds ∧
  i.facts.rejectedEvidenceIds = c.rejectedEvidenceIds ∧
  i.facts.invalidProvenanceEvidenceIds = c.invalidProvenanceEvidenceIds ∧
  i.facts.unexpectedEvidenceIds = c.unexpectedEvidenceIds

instance (i : MergeEligibilityPolicyInput rt) (c : DecisionCoreArgs) :
    Decidable (coreMatchesInput i c) := inferInstanceAs (Decidable (_ ∧ _))

def finalizeDecision (policyInput : MergeEligibilityPolicyInput rt) (core : DecisionCore) :
    Except PyExc (MergeEligibilityDecision rt) := do
  raiseIf (¬ coreMatchesInput policyInput core.toDecisionCoreArgs)
    (recordConstructionError (py "DecisionCore accounting does not match policy input facts"))
  let inputDigest ← policyInput.inputDigest
  let identity : DecisionIdentity :=
    { policyInput.echoes, core.toDecisionCoreArgs with inputDigest := inputDigest }
  let digest ← decisionDigestFor rt (identity.items .strTuple)
  MergeEligibilityDecision.construct rt { identity with decisionDigest := digest }

def buildPolicyEvaluationRecord (policyInput : MergeEligibilityPolicyInput rt)
    (decision : MergeEligibilityDecision rt) : Except PyExc (PolicyEvaluationRecord rt) := do
  let inputDigest ← policyInput.inputDigest
  raiseIf (inputDigest ≠ decision.inputDigest)
    (recordConstructionError (py "decision input_digest is inconsistent with policy input"))
  raiseIf (policyInput.echoes ≠ decision.toInputEchoes)
    (recordConstructionError (py "decision input echoes are inconsistent with policy input"))
  let decisionDigest ← decisionDigestFor rt (decision.toDecisionIdentity.items .strTuple)
  raiseIf (decisionDigest ≠ decision.decisionDigest)
    (recordConstructionError (py "decision_digest is inconsistent with decision identity"))
  let recordDigest ← canonicalDigest rt
    (recordPayload .strTuple policyRecordSchemaVersion decision.toMergeEligibilityDecisionArgs)
  PolicyEvaluationRecord.construct rt
    { decision.toMergeEligibilityDecisionArgs with
      schemaVersion := policyRecordSchemaVersion, policyRecordDigest := recordDigest }

end

/-! ### what the checks establish -/

structure ReasonSet (xs : List PyStr) : Prop where
  known : ∀ x ∈ xs, x ∈ knownReasonCodes
  strict : xs.Pairwise (· < ·)

structure TokenSet (xs : List PyStr) : Prop where
  token : ∀ x ∈ xs, tokenGrammar x = true
  strict : xs.Pairwise (· < ·)

structure InputEchoes.Valid (e : InputEchoes) : Prop where
  taskId : tokenGrammar e.taskId = true
  taskContractDigest : digestRe e.taskContractDigest = true
  candidateDigest : digestRe e.candidateDigest = true
  repositorySnapshotDigest : digestRe e.repositorySnapshotDigest = true
  verificationBundleDigest : digestRe e.verificationBundleDigest = true
  approvalDigestOrSentinel :
    e.approvalDigestOrSentinel = approvalSentinel ∨ digestRe e.approvalDigestOrSentinel = true
  authorityBindingDigest : digestRe e.authorityBindingDigest = true
  verifierBindingDigest : digestRe e.verifierBindingDigest = true
  policyDigest : digestRe e.policyDigest = true
  policyVersion : tokenGrammar e.policyVersion = true
  evaluatorVersion : tokenGrammar e.evaluatorVersion = true

/-- What the record model asks of a core, beyond what the core's own constructor does: known codes
and token identifiers. -/
structure DecisionCoreArgs.Recordable (c : DecisionCoreArgs) : Prop where
  complete : ReasonSet c.completeReasonCodes
  blocking : ReasonSet c.blockingReasonCodes
  review : ReasonSet c.reviewReasonCodes
  required : TokenSet c.requiredRequirementIds
  satisfied : TokenSet c.satisfiedRequirementIds
  invalid : TokenSet c.invalidRequirementIds
  missing : TokenSet c.missingRequirementIds
  rejected : TokenSet c.rejectedEvidenceIds
  invalidProvenance : TokenSet c.invalidProvenanceEvidenceIds
  unexpected : TokenSet c.unexpectedEvidenceIds
  disjoint : ∀ code ∈ c.blockingReasonCodes, code ∉ c.reviewReasonCodes
  covers : ∀ code, code ∈ c.completeReasonCodes ↔
    code ∈ c.blockingReasonCodes ∨ code ∈ c.reviewReasonCodes
  primary_none : c.primaryReasonCode = none ↔ c.completeReasonCodes = []
  primary_mem : ∀ code, c.primaryReasonCode = some code → code ∈ c.completeReasonCodes
  disposition : c.disposition = c.expectedDisposition
  partition : ∀ x, x ∈ c.requiredRequirementIds ↔ x ∈ c.satisfiedRequirementIds ∨
    x ∈ c.invalidRequirementIds ∨ x ∈ c.missingRequirementIds
  satisfied_invalid : ∀ x ∈ c.satisfiedRequirementIds, x ∉ c.invalidRequirementIds
  satisfied_missing : ∀ x ∈ c.satisfiedRequirementIds, x ∉ c.missingRequirementIds
  invalid_missing : ∀ x ∈ c.invalidRequirementIds, x ∉ c.missingRequirementIds

theorem knownReasonCodes_grammar : ∀ c ∈ knownReasonCodes, machineCodeRe c = true := by
  have lit : ∀ l : List Char, machineCodeRe (l.map CodePoint.ofChar) = true →
      machineCodeRe (py (String.ofList l)) = true := fun l h => by rw [py_ofList, h]
  simp only [knownReasonCodes, List.forall_mem_cons, List.not_mem_nil, false_imp_iff, implies_true,
    and_true]
  and_intros <;> exact lit _ (by decide)

theorem knownReasonCodes_ascii : ∀ c ∈ knownReasonCodes, Ascii c := by
  simp only [knownReasonCodes, List.forall_mem_cons, List.not_mem_nil, false_imp_iff, implies_true,
    and_true]
  and_intros <;> exact ascii_lit _ (by decide)

namespace Record

theorem requireDigest_ok {field value : PyStr} {u : Unit} :
    requireDigest field value = .ok u ↔ digestRe value = true := by
  unfold requireDigest
  rw [raiseIf_eq_ok, Bool.not_eq_false]

theorem requireDigestOrSentinel_ok {field value : PyStr} {u : Unit} :
    requireDigestOrSentinel field value = .ok u ↔
      value = approvalSentinel ∨ digestRe value = true := by
  unfold requireDigestOrSentinel
  split
  · next h => exact iff_of_true rfl (Or.inl h)
  · next h => rw [requireDigest_ok, or_iff_right h]

theorem requireToken_ok {field value : PyStr} {u : Unit} :
    requireToken field value = .ok u ↔ tokenGrammar value = true := by
  unfold requireToken
  rw [raiseIf_eq_ok, Bool.not_eq_false]

theorem requireTuple_reason_ok {field : PyStr} {xs : List PyStr} {u : Unit} :
    requireTuple true field xs = .ok u ↔ ReasonSet xs := by
  unfold requireTuple
  simp only [bind_eq_ok, raiseIf_eq_ok, exists_const, if_true, true_and, not_or, ne_eq, not_not,
    Bool.not_eq_false, not_exists, not_and, strict_iff]
  constructor
  · rintro ⟨_, hs, hk⟩
    exact ⟨hk, hs⟩
  · rintro ⟨hk, hs⟩
    refine ⟨fun x hx => ⟨?_, knownReasonCodes_grammar x (hk x hx)⟩, hs, hk⟩
    rintro rfl
    exact absurd (knownReasonCodes_grammar _ (hk _ hx)) (by decide)

theorem requireTuple_token_ok {field : PyStr} {xs : List PyStr} {u : Unit} :
    requireTuple false field xs = .ok u ↔ TokenSet xs := by
  unfold requireTuple
  simp only [bind_eq_ok, raiseIf_eq_ok, exists_const, Bool.false_eq_true, if_false, false_and,
    not_false_eq_true, and_true, not_or, ne_eq, not_not, Bool.not_eq_false, not_exists, not_and,
    strict_iff]
  constructor
  · rintro ⟨hk, hs⟩
    exact ⟨fun x hx => (hk x hx).2, hs⟩
  · rintro ⟨hk, hs⟩
    exact ⟨fun x hx => ⟨tokenRe_ne_nil (hk x hx), hk x hx⟩, hs⟩

theorem validateDecisionFields_ok {c : DecisionCoreArgs} {u : Unit} :
    validateDecisionFields c = .ok u ↔ c.Recordable := by
  unfold validateDecisionFields
  simp only [bind_eq_ok, exists_const, requireTuple_reason_ok, requireTuple_token_ok,
    raiseIf_eq_ok, Bool.not_eq_false, disjoint_eq_true, setEq_iff, List.mem_append, not_or, not_not,
    ne_eq, not_exists, not_and, Option.mem_def, or_assoc]
  constructor
  · rintro ⟨_, h1, h2, h3, h4, h5, h6, h7, h8, h9, h10, ⟨h11, h12⟩, ⟨h13, h14⟩, h15, h16, h17, h18,
      h19⟩
    exact ⟨h1, h2, h3, h4, h5, h6, h7, h8, h9, h10, h11, fun x => (h12 x).symm, h13, h14, h15,
      fun x => (h16 x).symm, h17, h18, h19⟩
  · rintro ⟨h1, h2, h3, h4, h5, h6, h7, h8, h9, h10, h11, h12, h13, h14, h15, h16, h17, h18, h19⟩
    exact ⟨fun x hx => h1.known x (h14 x hx), h1, h2, h3, h4, h5, h6, h7, h8, h9, h10,
      ⟨h11, fun x => (h12 x).symm⟩, ⟨h13, h14⟩, h15, fun x => (h16 x).symm, h17, h18, h19⟩

theorem validateIdentityFields_ok {d : DecisionIdentity} {digest : PyStr} {u : Unit} :
    validateIdentityFields d digest = .ok u ↔ d.toInputEchoes.Valid ∧
      digestRe d.inputDigest = true ∧ d.toDecisionCoreArgs.Recordable ∧ digestRe digest = true := by
  unfold validateIdentityFields
  simp only [bind_eq_ok, exists_const, requireToken_ok, requireDigest_ok,
    requireDigestOrSentinel_ok, validateDecisionFields_ok]
  constructor
  · rintro ⟨h1, h2, h3, h4, h5, h6, h7, h8, h9, h10, h11, h12, h13, h14⟩
    exact ⟨⟨h1, h2, h3, h4, h5, h6, h7, h8, h9, h10, h11⟩, h12, h13, h14⟩
  · rintro ⟨⟨h1, h2, h3, h4, h5, h6, h7, h8, h9, h10, h11⟩, h12, h13, h14⟩
    exact ⟨h1, h2, h3, h4, h5, h6, h7, h8, h9, h10, h11, h12, h13, h14⟩

end Record

/-! ### digests of decisions and records -/

section
variable {rt : Runtime}

theorem DecisionIdentity.items_keys (tuple : List PyStr → PyVal) (d : DecisionIdentity) :
    (d.items tuple).map Prod.fst = identityFields := by
  simp only [items, InputEchoes.items, DecisionCoreArgs.items, identityFields, List.cons_append,
    List.nil_append, List.map_cons, List.map_nil]

theorem identityFields_ascii : ∀ k ∈ identityFields, Ascii k := by
  simp only [identityFields, List.forall_mem_cons, List.not_mem_nil, false_imp_iff, implies_true,
    and_true]
  and_intros <;> exact ascii_lit _ (by decide)

theorem identityFields_nodup : (py "kind" :: py "schema_version" :: py "decision_digest" ::
    py "policy_record_digest" :: identityFields).Nodup := by
  simp [identityFields]

theorem decisionDigestFor_items (tuple : List PyStr → PyVal) (d : DecisionIdentity) :
    decisionDigestFor rt (d.items tuple) =
      canonicalDigest rt (decisionPayload (d.items tuple)) := by
  have h : setEq identityFields identityFields = true := setEq_iff.mpr fun _ => Iff.rfl
  unfold decisionDigestFor
  rw [d.items_keys, raiseIf, if_neg (by rw [h]; simp)]
  rfl

theorem norm_items (d : DecisionIdentity) :
    ((d.items .strTuple).map fun kv => norm rt kv.2) =
      (d.items .strList).map fun kv => norm rt kv.2 := by
  have h : ∀ xs, norm rt (.strTuple xs) = norm rt (.strList xs) := fun _ => rfl
  simp only [DecisionIdentity.items, DecisionCoreArgs.items, List.map_append, List.map_cons,
    List.map_nil, h]

theorem norm_decisionPayload (d : DecisionIdentity) :
    norm rt (decisionPayload (d.items .strTuple)) = norm rt (decisionPayload (d.items .strList)) := by
  refine norm_record_congr rt ?_ ?_
  · rw [List.map_cons, List.map_cons, d.items_keys, d.items_keys]
  · rw [List.map_cons, List.map_cons, norm_items]

theorem norm_recordPayload (schemaVersion : PyStr) (d : MergeEligibilityDecisionArgs) :
    norm rt (recordPayload .strTuple schemaVersion d) =
      norm rt (recordPayload .strList schemaVersion d) := by
  refine norm_record_congr rt ?_ ?_
  · rw [List.map_cons, List.map_cons, List.map_append, List.map_append,
      d.toDecisionIdentity.items_keys, d.toDecisionIdentity.items_keys]
  · rw [List.map_cons, List.map_cons, List.map_append, List.map_append, norm_items]

theorem TokenSet.encodable {xs : List PyStr} (h : TokenSet xs) : ∀ x ∈ xs, Py.Encodable x :=
  fun x hx => (tokenGrammar_ascii (h.token x hx)).encodable

theorem ReasonSet.encodable {xs : List PyStr} (h : ReasonSet xs) : ∀ x ∈ xs, Py.Encodable x :=
  fun x hx => (knownReasonCodes_ascii x (h.known x hx)).encodable

theorem DecisionCoreArgs.Recordable.accepted {c : DecisionCoreArgs} (hc : c.Recordable) :
    ∀ kv ∈ c.items .strList, Accepted rt kv.2 := by
  have hprimary : Accepted rt (.optStr c.primaryReasonCode) := by
    cases hp : c.primaryReasonCode with
    | none => exact ⟨.null, rfl, rfl, rfl⟩
    | some code => exact (accepted_str rt code).mpr (hc.complete.encodable code (hc.primary_mem code hp))
  simp only [DecisionCoreArgs.items, List.forall_mem_cons, List.not_mem_nil, false_imp_iff,
    implies_true, and_true, accepted_str, accepted_strList]
  exact ⟨(StrEnum.value_ascii _).encodable, (StrEnum.value_ascii _).encodable, hprimary,
    hc.complete.encodable, hc.blocking.encodable, hc.review.encodable, hc.required.encodable,
    hc.satisfied.encodable, hc.invalid.encodable, hc.missing.encodable, hc.rejected.encodable,
    hc.invalidProvenance.encodable, hc.unexpected.encodable⟩

theorem items_accepted {d : DecisionIdentity} (he : d.toInputEchoes.Valid)
    (hi : digestRe d.inputDigest = true)
    (hc : ∀ kv ∈ d.toDecisionCoreArgs.items .strList, Accepted rt kv.2) :
    ∀ kv ∈ d.items .strList, Accepted rt kv.2 := by
  have happroval : Py.Encodable d.approvalDigestOrSentinel := by
    rcases he.approvalDigestOrSentinel with h | h
    · rw [h]
      exact (ascii_lit _ (by decide)).encodable
    · exact (digestRe_ascii h).encodable
  have hechoes : ∀ kv ∈ d.toInputEchoes.items, Accepted rt kv.2 := by
    simp only [InputEchoes.items, List.forall_mem_cons, List.not_mem_nil, false_imp_iff,
      implies_true, and_true, accepted_str]
    exact ⟨(tokenGrammar_ascii he.taskId).encodable, (digestRe_ascii he.taskContractDigest).encodable,
      (digestRe_ascii he.candidateDigest).encodable,
      (digestRe_ascii he.repositorySnapshotDigest).encodable,
      (digestRe_ascii he.verificationBundleDigest).encodable, happroval,
      (digestRe_ascii he.authorityBindingDigest).encodable,
      (digestRe_ascii he.verifierBindingDigest).encodable, (digestRe_ascii he.policyDigest).encodable,
      (tokenGrammar_ascii he.policyVersion).encodable,
      (tokenGrammar_ascii he.evaluatorVersion).encodable, (StrEnum.value_ascii _).encodable⟩
  unfold DecisionIdentity.items
  rw [List.forall_mem_append, List.forall_mem_cons]
  exact ⟨hechoes, (accepted_str rt _).mpr (digestRe_ascii hi).encodable, hc⟩

theorem decisionPayload_accepted {d : DecisionIdentity} (he : d.toInputEchoes.Valid)
    (hi : digestRe d.inputDigest = true)
    (hc : ∀ kv ∈ d.toDecisionCoreArgs.items .strList, Accepted rt kv.2) :
    Accepted rt (decisionPayload (d.items .strList)) := by
  have hnd := identityFields_nodup
  simp only [List.nodup_cons, List.mem_cons, not_or] at hnd
  unfold decisionPayload
  rw [accepted_record]
  · rw [List.forall_mem_cons]
    exact ⟨(accepted_str rt _).mpr (ascii_lit _ (by decide)).encodable, items_accepted he hi hc⟩
  · rw [List.map_cons, d.items_keys, List.forall_mem_cons]
    exact ⟨ascii_lit _ (by decide), identityFields_ascii⟩
  · rw [List.map_cons, d.items_keys, List.nodup_cons]
    exact ⟨hnd.1.2.2.2, hnd.2.2.2.2⟩

theorem recordPayload_accepted {d : MergeEligibilityDecisionArgs} (he : d.toInputEchoes.Valid)
    (hi : digestRe d.inputDigest = true)
    (hc : ∀ kv ∈ d.toDecisionCoreArgs.items .strList, Accepted rt kv.2)
    (hd : digestRe d.decisionDigest = true) :
    Accepted rt (recordPayload .strList policyRecordSchemaVersion d) := by
  have hnd := identityFields_nodup
  simp only [List.nodup_cons, List.mem_cons, not_or] at hnd
  unfold recordPayload
  rw [accepted_record]
  · rw [List.forall_mem_cons, List.forall_mem_append, List.forall_mem_singleton]
    exact ⟨(accepted_str rt _).mpr (ascii_lit _ (by decide)).encodable, items_accepted he hi hc,
      (accepted_str rt _).mpr (digestRe_ascii hd).encodable⟩
  · rw [List.map_cons, List.map_append, d.items_keys, List.forall_mem_cons, List.forall_mem_append,
      List.map_singleton, List.forall_mem_singleton]
    exact ⟨ascii_lit _ (by decide), identityFields_ascii, ascii_lit _ (by decide)⟩
  · rw [List.map_cons, List.map_append, d.items_keys, List.map_singleton, List.nodup_cons,
      List.mem_append, List.mem_singleton, List.nodup_append]
    refine ⟨not_or.mpr ⟨hnd.2.1.2.2, hnd.2.1.1⟩, hnd.2.2.2.2, List.nodup_singleton _, ?_⟩
    intro a ha b hb e
    have e : a = py "decision_digest" := e.trans (List.mem_singleton.mp hb)
    exact hnd.2.2.1.2 (e ▸ ha)

/-! ### constructed decisions and records -/

variable (rt) in
structure MergeEligibilityDecisionArgs.Valid (d : MergeEligibilityDecisionArgs) : Prop where
  echoes : d.toInputEchoes.Valid
  inputDigest : digestRe d.inputDigest = true
  core : d.toDecisionCoreArgs.Recordable
  decisionDigest :
    canonicalDigest rt (decisionPayload (d.toDecisionIdentity.items .strList)) = .ok d.decisionDigest

theorem MergeEligibilityDecisionArgs.postInit_ok_iff {d : MergeEligibilityDecisionArgs} {u : Unit} :
    d.postInit rt = .ok u ↔ d.Valid rt := by
  unfold postInit
  simp only [bind_eq_ok, exists_const, Record.validateIdentityFields_ok, decisionDigestFor_items,
    raiseIf_eq_ok, ne_eq, not_not]
  constructor
  · rintro ⟨⟨h1, h2, h3, _⟩, digest, h5, rfl⟩
    exact ⟨h1, h2, h3, (canonicalDigest_congr rt (norm_decisionPayload _) _).mp h5⟩
  · rintro ⟨h1, h2, h3, h4⟩
    exact ⟨⟨h1, h2, h3, (accepted_of_digest rt h4).2⟩, _,
      (canonicalDigest_congr rt (norm_decisionPayload _) _).mpr h4, rfl⟩

theorem MergeEligibilityDecision.valid (d : MergeEligibilityDecision rt) : d.Valid rt :=
  MergeEligibilityDecisionArgs.postInit_ok_iff.mp d.postInit_ok

variable (rt) in
structure PolicyEvaluationRecordArgs.Valid (r : PolicyEvaluationRecordArgs) : Prop where
  schemaVersion : r.schemaVersion = policyRecordSchemaVersion
  decision : r.toMergeEligibilityDecisionArgs.Valid rt
  policyRecordDigest : canonicalDigest rt
    (recordPayload .strList r.schemaVersion r.toMergeEligibilityDecisionArgs) =
      .ok r.policyRecordDigest

theorem PolicyEvaluationRecordArgs.postInit_ok_iff {r : PolicyEvaluationRecordArgs} {u : Unit} :
    r.postInit rt = .ok u ↔ r.Valid rt := by
  unfold postInit
  simp only [bind_eq_ok, exists_const, Record.validateIdentityFields_ok, Record.requireDigest_ok,
    decisionDigestFor_items, raiseIf_eq_ok, ne_eq, not_not]
  constructor
  · rintro ⟨h0, ⟨h1, h2, h3, _⟩, _, digest, h5, h6, digest', h7, h8⟩
    refine ⟨h0, ⟨h1, h2, h3, ?_⟩, ?_⟩
    · rw [h6]
      exact (canonicalDigest_congr rt (norm_decisionPayload _) _).mp h5
    · rw [h8]
      exact (canonicalDigest_congr rt (norm_recordPayload _ _) _).mp h7
  · rintro ⟨h0, ⟨h1, h2, h3, h4⟩, h5⟩
    exact ⟨h0, ⟨h1, h2, h3, (accepted_of_digest rt h4).2⟩, (accepted_of_digest rt h5).2, _,
      (canonicalDigest_congr rt (norm_decisionPayload _) _).mpr h4, rfl, _,
      (canonicalDigest_congr rt (norm_recordPayload _ _) _).mpr h5, rfl⟩

theorem PolicyEvaluationRecord.valid (r : PolicyEvaluationRecord rt) : r.Valid rt :=
  PolicyEvaluationRecordArgs.postInit_ok_iff.mp r.postInit_ok

theorem MergeEligibilityDecision.construct_eq_ok {a : MergeEligibilityDecisionArgs}
    {d : MergeEligibilityDecision rt} :
    MergeEligibilityDecision.construct rt a = .ok d ↔ d.toMergeEligibilityDecisionArgs = a := by
  unfold construct
  constructor
  · intro h
    split at h
    · rw [← Except.ok.inj h]
    · exact absurd h (by simp)
  · rintro rfl
    split
    · rfl
    · next e he =>
      rw [d.postInit_ok] at he
      exact absurd he (by simp)

theorem PolicyEvaluationRecord.construct_eq_ok {a : PolicyEvaluationRecordArgs}
    {r : PolicyEvaluationRecord rt} :
    PolicyEvaluationRecord.construct rt a = .ok r ↔ r.toPolicyEvaluationRecordArgs = a := by
  unfold construct
  constructor
  · intro h
    split at h
    · rw [← Except.ok.inj h]
    · exact absurd h (by simp)
  · rintro rfl
    split
    · rfl
    · next e he =>
      rw [r.postInit_ok] at he
      exact absurd he (by simp)

/-- **Spec of `finalize_decision`**: the decision it returns, if any. -/
theorem finalizeDecision_ok_iff {i : MergeEligibilityPolicyInput rt} {core : DecisionCore}
    {d : MergeEligibilityDecision rt} :
    finalizeDecision i core = .ok d ↔ coreMatchesInput i core.toDecisionCoreArgs ∧
      i.inputDigest = .ok d.inputDigest ∧ d.toInputEchoes = i.echoes ∧
      d.toDecisionCoreArgs = core.toDecisionCoreArgs := by
  unfold finalizeDecision
  simp only [bind_eq_ok, exists_const, raiseIf_eq_ok, not_not,
    MergeEligibilityDecision.construct_eq_ok, decisionDigestFor_items]
  refine and_congr_right fun _ => ?_
  constructor
  · rintro ⟨inputDigest, hi, digest, _, hd⟩
    rw [hd]
    exact ⟨hi, rfl, rfl⟩
  · rintro ⟨hi, he, hc⟩
    refine ⟨_, hi, d.decisionDigest, ?_, ?_⟩
    · rw [← he, ← hc]
      exact (canonicalDigest_congr rt (norm_decisionPayload _) _).mpr d.valid.decisionDigest
    · rw [← he, ← hc]

/-- **Spec of `build_policy_evaluation_record`.** -/
theorem buildPolicyEvaluationRecord_ok_iff {i : MergeEligibilityPolicyInput rt}
    {d : MergeEligibilityDecision rt} {r : PolicyEvaluationRecord rt} :
    buildPolicyEvaluationRecord i d = .ok r ↔ i.inputDigest = .ok d.inputDigest ∧
      d.toInputEchoes = i.echoes ∧
      r.toMergeEligibilityDecisionArgs = d.toMergeEligibilityDecisionArgs := by
  unfold buildPolicyEvaluationRecord
  simp only [bind_eq_ok, exists_const, raiseIf_eq_ok, ne_eq, not_not,
    PolicyEvaluationRecord.construct_eq_ok, decisionDigestFor_items]
  constructor
  · rintro ⟨inputDigest, hi, rfl, he, _, _, _, recordDigest, _, hr⟩
    rw [hr]
    exact ⟨hi, he.symm, rfl⟩
  · rintro ⟨hi, he, hd⟩
    have hr := r.valid
    refine ⟨_, hi, rfl, he.symm, d.decisionDigest, ?_, rfl, r.policyRecordDigest, ?_, ?_⟩
    · exact (canonicalDigest_congr rt (norm_decisionPayload _) _).mpr d.valid.decisionDigest
    · rw [← hd, ← hr.schemaVersion]
      exact (canonicalDigest_congr rt (norm_recordPayload _ _) _).mpr hr.policyRecordDigest
    · rw [← hd, ← hr.schemaVersion]

/-! ### from an input and a core to a record -/

theorem echoes_valid (i : MergeEligibilityPolicyInput rt) : i.echoes.Valid := by
  have h := i.valid
  exact ⟨h.taskId, h.taskContractDigest, h.candidateDigest, h.repositorySnapshotDigest,
    h.verificationBundleDigest, h.approvalDigestOrSentinel, h.authorityBindingDigest,
    h.verifierBindingDigest, h.policyDigest, h.policyVersion, h.evaluatorVersion⟩

/-- `build_policy_evaluation_record(i, finalize_decision(i, core))` -/
def recordOf (i : MergeEligibilityPolicyInput rt) (core : DecisionCore) :
    Except PyExc (PolicyEvaluationRecord rt) := do
  let decision ← finalizeDecision i core
  buildPolicyEvaluationRecord i decision

theorem recordOf_ok_iff {i : MergeEligibilityPolicyInput rt} {core : DecisionCore}
    {r : PolicyEvaluationRecord rt} :
    recordOf i core = .ok r ↔ coreMatchesInput i core.toDecisionCoreArgs ∧
      i.inputDigest = .ok r.inputDigest ∧ r.toInputEchoes = i.echoes ∧
      r.toDecisionCoreArgs = core.toDecisionCoreArgs := by
  unfold recordOf
  simp only [bind_eq_ok, finalizeDecision_ok_iff, buildPolicyEvaluationRecord_ok_iff]
  constructor
  · rintro ⟨d, ⟨hm, hi, he, hc⟩, _, _, hr⟩
    rw [hr]
    exact ⟨hm, hi, he, hc⟩
  · rintro ⟨hm, hi, he, hc⟩
    exact ⟨⟨r.toMergeEligibilityDecisionArgs,
      MergeEligibilityDecisionArgs.postInit_ok_iff.mpr r.valid.decision⟩, ⟨hm, hi, he, hc⟩, hi, he,
      rfl⟩

/-- A decision exists exactly when the identifiers of the input can be encoded and the core is
recordable. -/
theorem exists_finalizeDecision_iff {i : MergeEligibilityPolicyInput rt} {core : DecisionCore} :
    (∃ d, finalizeDecision i core = .ok d) ↔ coreMatchesInput i core.toDecisionCoreArgs ∧
      EncodableIds i.facts ∧ core.Recordable := by
  simp only [finalizeDecision_ok_iff]
  constructor
  · rintro ⟨d, hm, hi, _, hc⟩
    have hv := d.valid.core
    rw [hc] at hv
    exact ⟨hm, (inputDigest_ok_iff i).mp ⟨_, hi⟩, hv⟩
  · rintro ⟨hm, he, hc⟩
    obtain ⟨inputDigest, hi⟩ := (inputDigest_ok_iff i).mpr he
    have hre := (accepted_of_digest rt hi).2
    let identity : DecisionIdentity :=
      { i.echoes, core.toDecisionCoreArgs with inputDigest := inputDigest }
    obtain ⟨digest, hd, _⟩ := digest_of_accepted rt
      (@decisionPayload_accepted rt identity (echoes_valid i) hre hc.accepted)
    exact ⟨⟨{ identity with decisionDigest := digest },
      MergeEligibilityDecisionArgs.postInit_ok_iff.mpr ⟨echoes_valid i, hre, hc, hd⟩⟩, hm, hi, rfl,
      rfl⟩

theorem exists_buildPolicyEvaluationRecord {i : MergeEligibilityPolicyInput rt}
    {d : MergeEligibilityDecision rt} (hi : i.inputDigest = .ok d.inputDigest)
    (he : d.toInputEchoes = i.echoes) : ∃ r, buildPolicyEvaluationRecord i d = .ok r := by
  simp only [buildPolicyEvaluationRecord_ok_iff]
  have hv := d.valid
  have hdigest := (accepted_of_digest rt hv.decisionDigest).2
  obtain ⟨digest, hd, _⟩ := digest_of_accepted rt
    (recordPayload_accepted hv.echoes hv.inputDigest hv.core.accepted hdigest)
  exact ⟨⟨{ d.toMergeEligibilityDecisionArgs with
      schemaVersion := policyRecordSchemaVersion, policyRecordDigest := digest },
    PolicyEvaluationRecordArgs.postInit_ok_iff.mpr ⟨rfl, hv, hd⟩⟩, hi, he, rfl⟩

end

end Tomtit
