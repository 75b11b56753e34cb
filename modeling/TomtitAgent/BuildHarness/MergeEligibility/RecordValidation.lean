import TomtitAgent.BuildHarness.MergeEligibility.Record

/-!
# `merge_eligibility_record.py`: the structural validator

* `RecordObject`, `InputObject`   what the validator is handed: a constructed value or any other;
* `validateRawFields`, `validateInputBinding`, `validatePolicyEvaluationRecord`   as in the source;
* `validateRecord_typed`, `validateRecord_input`   a constructed record has no structural error; with
  an input the comparison of the echoes and of the input digest decides.
-/

open Py

namespace Tomtit

inductive RecordObject (rt : Runtime)
  | typed (r : PolicyEvaluationRecord rt)
  | other (v : PyVal)

/-- `other .none` is the default argument: no input. -/
inductive InputObject (rt : Runtime)
  | typed (i : MergeEligibilityPolicyInput rt)
  | other (v : PyVal)

structure ValidationResult where
  errors : List PyStr
  classifications : List PyStr
deriving DecidableEq

/-- `_result(errors)` -/
def validationResult (errors : List PyStr) : ValidationResult where
  errors := sortedSet errors
  classifications := if errors = [] then
      [py "STRUCTURALLY_VALIDATED", py "IDENTITY_RECOMPUTED", py "SEMANTIC_REPLAY_NOT_PERFORMED"]
    else []

/-- `except classes: handler` -/
def catching {α : Type} (classes : List String) (x : Except PyExc α) (handler : α) :
    Except PyExc α :=
  match x with
  | .ok a => .ok a
  | .error e => if classes.any e.isA then .ok handler else .error e

/-! ### raw values -/

/-- The value can be an element of a set: an unhashable class has `__hash__ = None`. -/
def hashable : PyVal → Bool
  | .list _ => false
  | .dict _ => false
  | .tuple xs => hashableAll xs
  | .obj _ _ attrs => match attrs.lookup (py "__hash__") with
    | some .none => false
    | _ => true
  | _ => true
where
  hashableAll : List PyVal → Bool
    | [] => true
    | x :: xs => hashable x && hashableAll xs

def rawStrings : PyVal → Option (List PyStr)
  | .list xs => xs.mapM fun
    | .str s => some s
    | _ => none
  | _ => none

/-- `is_exact_str(value) and re.fullmatch(value)` -/
def exactStr (re : PyStr → Bool) : PyVal → Bool
  | .str s => re s
  | _ => false

/-- The items of a dictionary whose keys are exact strings. -/
def strKeyItems (kvs : List (PyVal × PyVal)) : Option (List (PyStr × PyVal)) :=
  kvs.mapM fun
    | (.str k, v) => some (k, v)
    | _ => none

/-- `_CORE_FIELDS[3:6]` -/
def reasonFields : List PyStr :=
  [py "complete_reason_codes", py "blocking_reason_codes", py "review_reason_codes"]

/-- `_ACCOUNTING_FIELDS` -/
def accountingFields : List PyStr :=
  [py "required_requirement_ids", py "satisfied_requirement_ids", py "invalid_requirement_ids",
   py "missing_requirement_ids", py "rejected_evidence_ids",
   py "invalid_provenance_evidence_ids", py "unexpected_evidence_ids"]

/-- `_SOURCE_BINDING_FIELDS` -/
def sourceBindingFields : List PyStr :=
  [py "task_contract_digest", py "candidate_digest", py "repository_snapshot_digest",
   py "verification_bundle_digest", py "approval_digest_or_sentinel",
   py "authority_binding_digest", py "verifier_binding_digest", py "policy_digest"]

/-- `_RAW_RECORD_FIELD_ORDER` -/
def rawRecordFields : List PyStr :=
  py "schema_version" :: (identityFields ++ [py "decision_digest", py "policy_record_digest"])

/-- `_RAW_INPUT_FIELDS` -/
def rawInputFields : List PyStr :=
  [py "kind", py "task_id"] ++ sourceBindingFields ++
  [py "policy_version", py "evaluator_version", py "evaluation_mode",
   py "policy_record_schema_version", py "policy_record_schema_digest",
   py "canonicalization_version", py "canonicalization_contract_digest", py "facts"]

/-- `record[name]`; the validator has compared the key set before it looks a field up. -/
def rawField (raw : List (PyStr × PyVal)) (name : PyStr) : PyVal := (assoc raw name).getD .none

/-- `[error] if cond else []` -/
def errorIf (cond : Prop) [Decidable cond] (error : PyStr) : List PyStr :=
  if cond then [error] else []

def recordTypeInvalid : PyStr := py "RECORD_TYPE_INVALID"
def recordNotNormalized : PyStr := py "RECORD_NOT_NORMALIZED"

/-- `primary not in complete`, which raises when the primary reason cannot be hashed. -/
def notInSet (primary : PyVal) (complete : List PyStr) : Except PyExc Bool :=
  if hashable primary then .ok (primary.asStr.all fun s => s ∉ complete)
  else .error ⟨["TypeError"], py "unhashable type: '" ++ primary.typeName ++ py "'"⟩

/-- `(primary is None) != (not complete) or primary is not None and primary not in complete` -/
def primaryDisagrees (primary : PyVal) (complete : List PyStr) : Except PyExc Bool :=
  match primary with
  | .none => .ok (decide (complete ≠ []))
  | primary => if complete = [] then .ok true else notInSet primary complete

/-- The checks of the reason partitions, made when all three fields are lists of strings. -/
def reasonPartitionErrors (raw : List (PyStr × PyVal)) : Except PyExc (List PyStr) :=
  match rawStrings (rawField raw (py "complete_reason_codes")),
    rawStrings (rawField raw (py "blocking_reason_codes")),
    rawStrings (rawField raw (py "review_reason_codes")) with
  | some complete, some blocking, some review => do
    let disagrees ← primaryDisagrees (rawField raw (py "primary_reason_code")) complete
    return errorIf (disjoint blocking review = false ∨ setEq (blocking ++ review) complete = false)
        recordNotNormalized ++
      errorIf (disagrees = true) recordNotNormalized ++
      errorIf ((rawField raw (py "disposition")).asStr ≠
        some (StrEnum.value (partitionDisposition blocking review))) recordNotNormalized
  | _, _, _ => .ok []

def requirementPartitionErrors (raw : List (PyStr × PyVal)) : List PyStr :=
  match rawStrings (rawField raw (py "required_requirement_ids")),
    rawStrings (rawField raw (py "satisfied_requirement_ids")),
    rawStrings (rawField raw (py "invalid_requirement_ids")),
    rawStrings (rawField raw (py "missing_requirement_ids")) with
  | some required, some satisfied, some invalid, some missing =>
    errorIf (setEq (satisfied ++ invalid ++ missing) required = false ∨
      disjoint satisfied invalid = false ∨ disjoint satisfied missing = false ∨
      disjoint invalid missing = false) recordNotNormalized
  | _, _, _, _ => []

/-- `_validate_raw_fields` -/
def validateRawFields (raw : List (PyStr × PyVal)) : Except PyExc (List PyStr) := do
  let field := rawField raw
  let primary := field (py "primary_reason_code")
  let partitionErrors ← reasonPartitionErrors raw
  return errorIf ((field (py "schema_version")).asStr ≠ some policyRecordSchemaVersion)
      recordTypeInvalid ++
    ([py "task_id", py "policy_version", py "evaluator_version"].flatMap fun name =>
      errorIf (exactStr tokenGrammar (field name) = false) recordTypeInvalid) ++
    ((sourceBindingFields ++ [py "input_digest", py "decision_digest",
      py "policy_record_digest"]).flatMap fun name =>
      errorIf (¬ (name = py "approval_digest_or_sentinel" ∧
        (field name).asStr = some approvalSentinel) ∧ exactStr digestRe (field name) = false)
        recordTypeInvalid) ++
    errorIf (exactStr (· ∈ StrEnum.values EvaluationMode) (field (py "evaluation_mode")) = false)
      recordTypeInvalid ++
    errorIf (exactStr (· ∈ StrEnum.values Disposition) (field (py "disposition")) = false)
      recordTypeInvalid ++
    errorIf (exactStr (· ∈ StrEnum.values DecisionAuthority)
      (field (py "decision_authority")) = false) recordTypeInvalid ++
    ((reasonFields ++ accountingFields).flatMap fun name => match rawStrings (field name) with
      | none => [recordTypeInvalid]
      | some value => errorIf (value ≠ sorted value ∨ distinct value = false) recordNotNormalized) ++
    errorIf (¬ (primary matches .none) ∧ exactStr (· ∈ knownReasonCodes) primary = false)
      recordTypeInvalid ++
    (reasonFields.flatMap fun name => match rawStrings (field name) with
      | none => []
      | some value => errorIf (∃ item ∈ value, item ∉ knownReasonCodes) recordTypeInvalid) ++
    partitionErrors ++
    requirementPartitionErrors raw

/-! ### the validator -/

section
variable {rt : Runtime}

def PolicyEvaluationRecordArgs.rawItems (r : PolicyEvaluationRecordArgs) : List (PyStr × PyVal) :=
  (py "schema_version", .str r.schemaVersion) ::
    (r.toDecisionIdentity.items .strList ++
      [(py "decision_digest", .str r.decisionDigest),
       (py "policy_record_digest", .str r.policyRecordDigest)])

/-- `_raw_record_payload` with the test that every key is an exact string. -/
def rawRecordPayload : RecordObject rt → Option (List (PyStr × PyVal))
  | .typed r => some r.rawItems
  | .other (.dict kvs) => strKeyItems kvs
  | .other _ => none

/-- The echo fields of an input and of a record, under their names. -/
def echoFields : List PyStr :=
  py "task_id" :: (sourceBindingFields ++
    [py "policy_version", py "evaluator_version", py "evaluation_mode"])

/-- `_validate_input_binding` -/
def validateInputBinding (raw : List (PyStr × PyVal)) :
    InputObject rt → Except PyExc (List PyStr)
  | .typed i =>
    if ∃ kv ∈ i.echoes.items, kv.2.asStr ≠ (rawField raw kv.1).asStr then
      .ok [py "SOURCE_BINDING_MISMATCH"]
    else do
      let inputDigest ← i.inputDigest
      return errorIf (some inputDigest ≠ (rawField raw (py "input_digest")).asStr)
        (py "INPUT_DIGEST_MISMATCH")
  | .other (.dict kvs) => match strKeyItems kvs with
    | none => .ok [py "INPUT_NOT_AN_OBJECT"]
    | some candidate => do
      let get := rawField candidate
      let errors :=
        errorIf (∃ key ∈ echoFields, (get key).asStr ≠ (rawField raw key).asStr)
          (py "SOURCE_BINDING_MISMATCH") ++
        errorIf ((get (py "policy_record_schema_version")).asStr ≠
            (rawField raw (py "schema_version")).asStr ∨
          (get (py "policy_record_schema_digest")).asStr ≠ some (policyRecordSchemaDigest rt))
          (py "SCHEMA_BINDING_MISMATCH") ++
        errorIf ((get (py "canonicalization_version")).asStr ≠ some canonicalizationVersion ∨
          (get (py "canonicalization_contract_digest")).asStr ≠
            some (canonicalizationContractDigest rt)) (py "CANONICALIZATION_BINDING_MISMATCH")
      catching ["TypeError", "ValueError"]
        (do
          let inputDigest ← canonicalDigest rt (.dict kvs)
          return errors ++ errorIf (setEq (candidate.map Prod.fst) rawInputFields = false ∨
            some inputDigest ≠ (rawField raw (py "input_digest")).asStr)
            (py "INPUT_DIGEST_MISMATCH"))
        (errors ++ [py "INPUT_NOT_CANONICALIZABLE"])
  | .other _ => .ok [py "INPUT_NOT_AN_OBJECT"]

/-- The strings of an exact tuple or list of exact strings. -/
def universeStrings : PyVal → Option (List PyStr)
  | .tuple xs => rawStrings (.list xs)
  | v => rawStrings v

/-- The check of the identifiers against the universes of the caller. -/
def universeErrors (raw : List (PyStr × PyVal)) : PyVal → List PyStr
  | .none => []
  | .dict kvs =>
    let named (key : PyStr) : PyVal := ((kvs.find? fun kv => kv.1.asStr = some key).map
      Prod.snd).getD .none
    let check (fields : List PyStr) (key : PyStr) : List PyStr :=
      match universeStrings (named key) with
      | none => [py "IDENTIFIER_UNIVERSES_INVALID"]
      | some allowed => errorIf (∃ name ∈ fields,
          ∃ item ∈ (rawStrings (rawField raw name)).getD [], item ∉ allowed)
          (py "IDENTIFIER_UNIVERSE_MISMATCH")
    check (accountingFields.take 4) (py "requirement_id_universe") ++
      check (accountingFields.drop 4) (py "evidence_record_id_universe")
  | _ => [py "IDENTIFIER_UNIVERSES_INVALID"]

/-- The part in the `try`: field checks, then the two digests. -/
def structuralErrors (rt : Runtime) (raw : List (PyStr × PyVal)) : Except PyExc (List PyStr) :=
  catching ["KeyError", "TypeError", "ValueError", "RecordConstructionError"]
    (do
      let errors ← validateRawFields raw
      if errors ≠ [] then .ok errors
      else do
        let identity := identityFields.map fun name => (name, rawField raw name)
        let decisionDigest ← decisionDigestFor rt identity
        if (rawField raw (py "decision_digest")).asStr ≠ some decisionDigest then
          .ok [py "DECISION_DIGEST_NOT_DERIVED"]
        else do
          let payload := raw.filter fun kv => kv.1 ≠ py "policy_record_digest"
          let recordDigest ← canonicalDigest rt (.record payload)
          return errorIf ((rawField raw (py "policy_record_digest")).asStr ≠ some recordDigest)
            (py "RECORD_DIGEST_MISMATCH"))
    [recordTypeInvalid]

/-- `if canonical_input is not None: ...` -/
def bindingErrorsOf (raw : List (PyStr × PyVal)) :
    InputObject rt → Except PyExc (List PyStr)
  | .other .none => .ok []
  | candidate => validateInputBinding raw candidate

def validatePolicyEvaluationRecord (record : RecordObject rt)
    (canonicalInput : InputObject rt) (identifierUniverses : PyVal) :
    Except PyExc ValidationResult :=
  match rawRecordPayload record with
  | none => .ok (validationResult [py "RECORD_NOT_AN_OBJECT"])
  | some raw =>
    if setEq (raw.map Prod.fst) rawRecordFields = false then
      .ok (validationResult [py "RECORD_FIELD_SET_DRIFT"])
    else do
      let errors ← structuralErrors rt raw
      if errors ≠ [] then .ok (validationResult errors)
      else do
        let bindingErrors ← bindingErrorsOf raw canonicalInput
        return validationResult (universeErrors raw identifierUniverses ++ bindingErrors)

/-! ### a constructed record passes -/

theorem errorIf_eq_nil {cond : Prop} [Decidable cond] {error : PyStr} :
    errorIf cond error = [] ↔ ¬ cond := by
  unfold errorIf
  split
  · next h => exact iff_of_false (by simp) (not_not.mpr h)
  · next h => exact iff_of_true rfl h

theorem rawStrings_strList (xs : List PyStr) : rawStrings (.strList xs) = some xs := by
  unfold rawStrings PyVal.strList
  induction xs with
  | nil => rfl
  | cons x xs ih =>
    simp only [List.map_cons, List.mapM_cons] at ih ⊢
    rw [ih]
    rfl

theorem rawItems_keys (r : PolicyEvaluationRecordArgs) :
    r.rawItems.map Prod.fst = rawRecordFields := by
  unfold PolicyEvaluationRecordArgs.rawItems rawRecordFields
  rw [List.map_cons, List.map_append, r.toDecisionIdentity.items_keys]
  rfl

theorem rawRecordFields_nodup : rawRecordFields.Nodup := by
  simp [rawRecordFields, identityFields]

theorem rawField_rawItems (r : PolicyEvaluationRecordArgs) :
    ∀ kv ∈ r.rawItems, rawField r.rawItems kv.1 = kv.2 := by
  intro kv hkv
  unfold rawField
  rw [assoc_of_mem (by rw [rawItems_keys]; exact rawRecordFields_nodup) hkv]
  rfl

/-- The field of a constructed record under each of the 29 names. -/
structure RawFields (raw : List (PyStr × PyVal)) (r : PolicyEvaluationRecordArgs) : Prop where
  schemaVersion : rawField raw (py "schema_version") = .str r.schemaVersion
  echoes : ∀ kv ∈ r.toInputEchoes.items, rawField raw kv.1 = kv.2
  inputDigest : rawField raw (py "input_digest") = .str r.inputDigest
  core : ∀ kv ∈ r.toDecisionCoreArgs.items .strList, rawField raw kv.1 = kv.2
  decisionDigest : rawField raw (py "decision_digest") = .str r.decisionDigest
  policyRecordDigest : rawField raw (py "policy_record_digest") = .str r.policyRecordDigest

theorem rawFields_rawItems (r : PolicyEvaluationRecordArgs) : RawFields r.rawItems r := by
  have h := rawField_rawItems r
  unfold PolicyEvaluationRecordArgs.rawItems DecisionIdentity.items at h
  simp only [List.forall_mem_cons, List.forall_mem_append, List.not_mem_nil, false_imp_iff,
    implies_true, and_true] at h
  obtain ⟨h1, ⟨h2, h3, h4⟩, h5, h6⟩ := h
  exact ⟨h1, h2, h3, h4, h5, h6⟩

theorem errorIf_of_not {cond : Prop} [Decidable cond] {error : PyStr} (h : ¬ cond) :
    errorIf cond error = [] := errorIf_eq_nil.mpr h

theorem requirementPartition_valid {raw : List (PyStr × PyVal)} {r : PolicyEvaluationRecordArgs}
    (h : RawFields raw r) (hc : r.toDecisionCoreArgs.Recordable) :
    requirementPartitionErrors raw = [] := by
  have hcore := h.core
  simp only [DecisionCoreArgs.items, List.forall_mem_cons, List.not_mem_nil, false_imp_iff,
    implies_true, and_true] at hcore
  obtain ⟨_, _, _, _, _, _, h1, h2, h3, h4, _⟩ := hcore
  unfold requirementPartitionErrors
  rw [h1, h2, h3, h4]
  simp only [rawStrings_strList]
  refine errorIf_of_not ?_
  simp only [not_or, Bool.not_eq_false, setEq_iff, disjoint_eq_true, List.mem_append, or_assoc]
  exact ⟨fun x => (hc.partition x).symm, hc.satisfied_invalid, hc.satisfied_missing,
    hc.invalid_missing⟩

theorem primaryDisagrees_valid {c : DecisionCoreArgs} (hc : c.Recordable) :
    primaryDisagrees (.optStr c.primaryReasonCode) c.completeReasonCodes = .ok false := by
  cases hp : c.primaryReasonCode with
  | none =>
    rw [hc.primary_none.mp hp]
    rfl
  | some code =>
    have hmem := hc.primary_mem code hp
    show (if c.completeReasonCodes = [] then Except.ok true
      else .ok (decide (code ∉ c.completeReasonCodes))) = _
    rw [if_neg (List.ne_nil_of_mem hmem), decide_eq_false (not_not.mpr hmem)]

theorem reasonPartition_valid {raw : List (PyStr × PyVal)} {r : PolicyEvaluationRecordArgs}
    (h : RawFields raw r) (hc : r.toDecisionCoreArgs.Recordable) :
    reasonPartitionErrors raw = .ok [] := by
  have hcore := h.core
  simp only [DecisionCoreArgs.items, List.forall_mem_cons, List.not_mem_nil, false_imp_iff,
    implies_true, and_true] at hcore
  obtain ⟨h1, _, h2, h3, h4, h5, _⟩ := hcore
  have hpart : errorIf (disjoint r.blockingReasonCodes r.reviewReasonCodes = false ∨
      setEq (r.blockingReasonCodes ++ r.reviewReasonCodes) r.completeReasonCodes = false)
      recordNotNormalized = [] := by
    refine errorIf_of_not ?_
    simp only [not_or, Bool.not_eq_false, setEq_iff, disjoint_eq_true, List.mem_append]
    exact ⟨hc.disjoint, fun x => (hc.covers x).symm⟩
  have hdisp : errorIf ((PyVal.str (StrEnum.value r.disposition)).asStr ≠
      some (StrEnum.value (partitionDisposition r.blockingReasonCodes r.reviewReasonCodes)))
      recordNotNormalized = [] := by
    refine errorIf_of_not (not_not.mpr ?_)
    rw [hc.disposition]
    rfl
  unfold reasonPartitionErrors
  rw [h1, h2, h3, h4, h5]
  simp only [rawStrings_strList]
  rw [primaryDisagrees_valid hc]
  show Except.ok (_ ++ _ ++ _) = _
  rw [hpart, hdisp]
  rfl

theorem normalized_of_strict {xs : List PyStr} (h : xs.Pairwise (· < ·)) :
    ¬ (xs ≠ sorted xs ∨ distinct xs = false) := by
  rw [not_or, ne_eq, not_not, Bool.not_eq_false]
  exact strict_iff.mpr h

theorem ReasonSet.all_known {xs : List PyStr} (h : ReasonSet xs) :
    ¬ ∃ item ∈ xs, item ∉ knownReasonCodes := fun ⟨x, hx, hne⟩ => hne (h.known x hx)

theorem exactStr_str (re : PyStr → Bool) (s : PyStr) : exactStr re (.str s) = re s := rfl

theorem asStr_str (s : PyStr) : (PyVal.str s).asStr = some s := rfl

theorem validateRawFields_valid {raw : List (PyStr × PyVal)} {r : PolicyEvaluationRecordArgs}
    (h : RawFields raw r) (hv : r.Valid rt) : validateRawFields raw = .ok [] := by
  have hc := hv.decision.core
  have he := hv.decision.echoes
  have hcore := h.core
  simp only [DecisionCoreArgs.items, List.forall_mem_cons, List.not_mem_nil, false_imp_iff,
    implies_true, and_true] at hcore
  obtain ⟨c1, c2, c3, c4, c5, c6, c7, c8, c9, c10, c11, c12, c13⟩ := hcore
  have hechoes := h.echoes
  simp only [InputEchoes.items, List.forall_mem_cons, List.not_mem_nil, false_imp_iff,
    implies_true, and_true] at hechoes
  obtain ⟨e1, e2, e3, e4, e5, e6, e7, e8, e9, e10, e11, e12⟩ := hechoes
  unfold validateRawFields
  rw [reasonPartition_valid h hc, requirementPartition_valid h hc]
  refine congrArg Except.ok ?_
  simp only [List.append_eq_nil_iff, List.flatMap_eq_nil_iff, reasonFields, accountingFields,
    sourceBindingFields, List.cons_append, List.nil_append, List.forall_mem_cons, List.not_mem_nil,
    false_imp_iff, implies_true, and_true, h.schemaVersion, h.inputDigest, h.decisionDigest,
    h.policyRecordDigest, c1, c2, c3, c4, c5, c6, c7, c8, c9, c10, c11, c12, c13, e1, e2, e3, e4, e5,
    e6, e7, e8, e9, e10, e11, e12, rawStrings_strList, errorIf_eq_nil]
  have happroval : ¬ (¬ some r.approvalDigestOrSentinel = some approvalSentinel ∧
      digestRe r.approvalDigestOrSentinel = false) := by
    rintro ⟨hne, hre⟩
    rcases he.approvalDigestOrSentinel with h | h
    · exact hne (congrArg some h)
    · rw [h] at hre
      exact Bool.noConfusion hre
  have hprimary : ¬ (¬ (PyVal.optStr r.primaryReasonCode matches .none) = true ∧
      exactStr (fun x => decide (x ∈ knownReasonCodes)) (.optStr r.primaryReasonCode) = false) := by
    cases hp : r.primaryReasonCode with
    | none => exact fun h => h.1 rfl
    | some code =>
      have hk := hc.complete.known code (hc.primary_mem code hp)
      rw [PyVal.optStr, exactStr_str, decide_eq_true hk]
      exact fun h => absurd h.2 (by simp)
  simp only [asStr_str, exactStr_str, hv.schemaVersion, he.taskId, he.policyVersion,
    he.evaluatorVersion, he.taskContractDigest, he.candidateDigest, he.repositorySnapshotDigest,
    he.verificationBundleDigest, he.authorityBindingDigest, he.verifierBindingDigest,
    he.policyDigest, hv.decision.inputDigest, (accepted_of_digest rt hv.decision.decisionDigest).2,
    (accepted_of_digest rt hv.policyRecordDigest).2, StrEnum.value_mem, decide_true,
    Bool.true_eq_false, and_false, not_false_eq_true, ne_eq, not_true_eq_false, and_true,
    true_and]
  exact ⟨⟨⟨happroval, normalized_of_strict hc.complete.strict, normalized_of_strict hc.blocking.strict,
    normalized_of_strict hc.review.strict, normalized_of_strict hc.required.strict,
    normalized_of_strict hc.satisfied.strict, normalized_of_strict hc.invalid.strict,
    normalized_of_strict hc.missing.strict, normalized_of_strict hc.rejected.strict,
    normalized_of_strict hc.invalidProvenance.strict, normalized_of_strict hc.unexpected.strict⟩,
    hprimary⟩, hc.complete.all_known, hc.blocking.all_known, hc.review.all_known⟩

theorem rawIdentity (r : PolicyEvaluationRecordArgs) :
    (identityFields.map fun name => (name, rawField r.rawItems name)) =
      r.toDecisionIdentity.items .strList := by
  rw [← r.toDecisionIdentity.items_keys .strList, List.map_map]
  refine (List.map_congr_left fun kv hkv => ?_).trans (List.map_id _)
  have hmem : kv ∈ r.rawItems := List.mem_cons_of_mem _ (List.mem_append_left _ hkv)
  rw [Function.comp_apply, rawField_rawItems r kv hmem, id]

theorem rawItems_filter (r : PolicyEvaluationRecordArgs) :
    (r.rawItems.filter fun kv => kv.1 ≠ py "policy_record_digest") =
      (py "schema_version", .str r.schemaVersion) ::
        (r.toDecisionIdentity.items .strList ++ [(py "decision_digest", .str r.decisionDigest)]) := by
  have hnd := identityFields_nodup
  simp only [List.nodup_cons, List.mem_cons, not_or] at hnd
  have hitems : ∀ kv ∈ r.toDecisionIdentity.items .strList,
      decide (kv.1 ≠ py "policy_record_digest") = true := by
    intro kv hkv
    refine decide_eq_true fun e => hnd.2.2.2.1 ?_
    rw [← e, ← r.toDecisionIdentity.items_keys .strList]
    exact List.mem_map_of_mem hkv
  have hlast : [((py "decision_digest" : PyStr), PyVal.str r.decisionDigest),
      (py "policy_record_digest", .str r.policyRecordDigest)].filter
        (fun kv => kv.1 ≠ py "policy_record_digest") =
      [(py "decision_digest", .str r.decisionDigest)] := by
    simp
  unfold PolicyEvaluationRecordArgs.rawItems
  rw [List.filter_cons, if_pos (decide_eq_true hnd.2.1.2.1), List.filter_append,
    List.filter_eq_self.mpr hitems, hlast]

theorem structuralErrors_valid {r : PolicyEvaluationRecordArgs} (hv : r.Valid rt) :
    structuralErrors rt r.rawItems = .ok [] := by
  have h := rawFields_rawItems r
  unfold structuralErrors
  rw [validateRawFields_valid h hv, rawIdentity, rawItems_filter, h.decisionDigest,
    h.policyRecordDigest]
  dsimp only
  rw [decisionDigestFor_items, hv.decision.decisionDigest]
  have hrecord := hv.policyRecordDigest
  unfold recordPayload at hrecord
  rw [hrecord]
  show catching _ (if ¬ ([] : List PyStr) = [] then Except.ok [] else
    if ¬ some r.decisionDigest = some r.decisionDigest then .ok [py "DECISION_DIGEST_NOT_DERIVED"]
    else .ok (errorIf (¬ some r.policyRecordDigest = some r.policyRecordDigest)
      (py "RECORD_DIGEST_MISMATCH"))) [recordTypeInvalid] = _
  rw [if_neg (not_not.mpr rfl), if_neg (not_not.mpr rfl), errorIf_of_not (not_not.mpr rfl)]
  rfl

theorem rawItems_setEq (r : PolicyEvaluationRecordArgs) :
    setEq (r.rawItems.map Prod.fst) rawRecordFields = true := by
  rw [rawItems_keys]
  exact setEq_iff.mpr fun _ => Iff.rfl

/-- A constructed record has no structural error: only what the caller hands over is left to
compare. -/
theorem validateRecord_typed (r : PolicyEvaluationRecord rt) (c : InputObject rt) (u : PyVal) :
    validatePolicyEvaluationRecord (.typed r) c u = (bindingErrorsOf r.rawItems c).map
      fun errors => validationResult (universeErrors r.rawItems u ++ errors) := by
  unfold validatePolicyEvaluationRecord
  show (if setEq (r.rawItems.map Prod.fst) rawRecordFields = false then
      Except.ok (validationResult [py "RECORD_FIELD_SET_DRIFT"])
    else structuralErrors rt r.rawItems >>= _) = _
  rw [rawItems_setEq, if_neg (by simp), structuralErrors_valid r.valid]
  show (if ¬ ([] : List PyStr) = [] then Except.ok (validationResult [])
    else bindingErrorsOf r.rawItems c >>= _) = _
  rw [if_neg (not_not.mpr rfl)]
  cases bindingErrorsOf r.rawItems c <;> rfl

theorem validateRecord_alone (r : PolicyEvaluationRecord rt) :
    validatePolicyEvaluationRecord (.typed r) (.other .none) .none = .ok (validationResult []) :=
  validateRecord_typed r (.other .none) .none

theorem echoes_items_iff {e : InputEchoes} {r : PolicyEvaluationRecordArgs} :
    (∀ kv ∈ e.items, kv.2.asStr = (rawField r.rawItems kv.1).asStr) ↔ r.toInputEchoes = e := by
  have hr := (rawFields_rawItems r).echoes
  simp only [InputEchoes.items, List.forall_mem_cons, List.not_mem_nil, false_imp_iff,
    implies_true, and_true] at hr ⊢
  obtain ⟨h1, h2, h3, h4, h5, h6, h7, h8, h9, h10, h11, h12⟩ := hr
  rw [h1, h2, h3, h4, h5, h6, h7, h8, h9, h10, h11, h12]
  simp only [asStr_str, Option.some.injEq, StrEnum.value_inj.eq_iff]
  constructor
  · rintro ⟨e1, e2, e3, e4, e5, e6, e7, e8, e9, e10, e11, e12⟩
    exact (InputEchoes.ext e1 e2 e3 e4 e5 e6 e7 e8 e9 e10 e11 e12).symm
  · rintro rfl
    exact ⟨rfl, rfl, rfl, rfl, rfl, rfl, rfl, rfl, rfl, rfl, rfl, rfl⟩

theorem validateInputBinding_typed (r : PolicyEvaluationRecordArgs)
    (i : MergeEligibilityPolicyInput rt) :
    validateInputBinding r.rawItems (.typed i) = .ok [] ↔
      r.toInputEchoes = i.echoes ∧ i.inputDigest = .ok r.inputDigest := by
  rw [validateInputBinding, ← echoes_items_iff, (rawFields_rawItems r).inputDigest]
  split
  · next h =>
    obtain ⟨kv, hkv, hne⟩ := h
    exact iff_of_false (by simp) fun h => hne (h.1 kv hkv)
  · next h =>
    rw [and_iff_right fun kv hkv => not_not.mp fun hne => h ⟨kv, hkv, hne⟩]
    cases i.inputDigest with
    | error e => exact iff_of_false (by simp [bind, Except.bind]) (by simp)
    | ok digest =>
      show Except.ok (errorIf (¬ some digest = some r.inputDigest) _) = _ ↔ _
      rw [Except.ok.injEq, Except.ok.injEq, errorIf_eq_nil, not_not, Option.some.injEq]

theorem validationResult_errors_nil {errors : List PyStr} :
    (validationResult errors).errors = [] ↔ errors = [] := by
  show sortedSet errors = [] ↔ _
  rw [List.eq_nil_iff_forall_not_mem, List.eq_nil_iff_forall_not_mem]
  simp only [mem_sortedSet]

/-- The validator accepts a constructed record for an input exactly when the record repeats the
input's fields and its digest. -/
theorem validateRecord_input (r : PolicyEvaluationRecord rt) (i : MergeEligibilityPolicyInput rt) :
    (∃ v, validatePolicyEvaluationRecord (.typed r) (.typed i) .none = .ok v ∧ v.errors = []) ↔
      r.toInputEchoes = i.echoes ∧ i.inputDigest = .ok r.inputDigest := by
  rw [validateRecord_typed, ← validateInputBinding_typed]
  show (∃ v, (validateInputBinding r.rawItems (.typed i)).map validationResult = .ok v ∧ _) ↔ _
  cases validateInputBinding r.rawItems (.typed i) with
  | error e => exact iff_of_false (by simp [Except.map]) (by simp)
  | ok errors =>
    simp only [Except.map, Except.ok.injEq, exists_eq_left', validationResult_errors_nil]

end

end Tomtit
