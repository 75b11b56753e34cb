import TomtitAgent.BuildHarness.MergeEligibility.RawRecord

/-!
# The raw and the typed validator

`validate_policy_evaluation_record` takes a record in the process or a stored dictionary.

* `Constructs raw r`   the constructor, called with the fields of `raw`, returns `r`;
* `RawTypedAgree raw`   the validator accepts `raw` exactly when that is so, with the same result;
* `raw_typed_agree_iff`   it is so exactly when no identifier that is not a token is all that is
  wrong with `raw`.
-/

open Py

namespace Tomtit

section
variable {rt : Runtime}

/-- `raw` has the committed fields, and `r` is what the constructor makes of them. -/
structure Constructs (raw : Dict PyStr PyVal) (r : PolicyEvaluationRecord rt) : Prop where
  fieldSet : setEq raw.keys rawRecordFields = true
  constructed : ∃ args, Converts raw.items args ∧ PolicyEvaluationRecord.construct rt args = .ok r

/-- `validate_policy_evaluation_record(raw)` -/
def validateRaw (rt : Runtime) (raw : Dict PyStr PyVal) : Except PyExc ValidationResult :=
  @validatePolicyEvaluationRecord rt (.other (.record raw.items)) (.other .none) .none

variable (rt) in
/-- Both validators say the same about `raw`. -/
structure RawTypedAgree (raw : Dict PyStr PyVal) : Prop where
  accepts : (∃ v, validateRaw rt raw = .ok v ∧ v.errors = []) ↔
    ∃ r : PolicyEvaluationRecord rt, Constructs raw r
  same : ∀ r : PolicyEvaluationRecord rt, Constructs raw r →
    validateRaw rt raw = validatePolicyEvaluationRecord (.typed r) (.other .none) .none

theorem constructs_iff {raw : Dict PyStr PyVal} {r : PolicyEvaluationRecord rt} :
    Constructs raw r ↔ setEq raw.keys rawRecordFields = true ∧
      Converts raw.items r.toPolicyEvaluationRecordArgs := by
  constructor
  · intro ⟨hset, args, hc, hr⟩
    rw [PolicyEvaluationRecord.construct_eq_ok.mp hr]
    exact ⟨hset, hc⟩
  · intro ⟨hset, hc⟩
    exact ⟨hset, _, hc, PolicyEvaluationRecord.construct_eq_ok.mpr rfl⟩

/-- A record can be constructed exactly when the fields are sound and the identifiers are tokens. -/
theorem exists_constructs_iff {raw : Dict PyStr PyVal} :
    (∃ r : PolicyEvaluationRecord rt, Constructs raw r) ↔ setEq raw.keys rawRecordFields = true ∧
      ∃ r, Converts raw.items r ∧ r.Sound rt ∧ r.toDecisionCoreArgs.TokenAccounting := by
  simp only [constructs_iff]
  constructor
  · rintro ⟨r, hset, hc⟩
    exact ⟨hset, _, hc, PolicyEvaluationRecordArgs.valid_iff.mp r.valid⟩
  · rintro ⟨hset, r, hc, hv⟩
    exact ⟨⟨r, PolicyEvaluationRecordArgs.postInit_ok_iff.mpr
      (PolicyEvaluationRecordArgs.valid_iff.mpr hv)⟩, hset, hc⟩

theorem strKeyItems_record (fs : List (PyStr × PyVal)) :
    strKeyItems (fs.map fun kv => (.str kv.1, kv.2)) = some fs := by
  unfold strKeyItems
  induction fs with
  | nil => rfl
  | cons kv fs ih =>
    rw [List.map_cons, List.mapM_cons, ih]
    rfl

/-- A record that passes the structural checks has only what the caller hands over left to
compare. -/
theorem validateRecord_sound {record : RecordObject rt} {raw : List (PyStr × PyVal)}
    (hraw : rawRecordPayload record = some raw)
    (hset : setEq (raw.map Prod.fst) rawRecordFields = true) (h : structuralErrors rt raw = .ok [])
    (c : InputObject rt) (u : PyVal) :
    validatePolicyEvaluationRecord record c u = (bindingErrorsOf raw c).map
      fun errors => validationResult (universeErrors raw u ++ errors) := by
  unfold validatePolicyEvaluationRecord
  rw [hraw]
  show (if setEq (raw.map Prod.fst) rawRecordFields = false then
      Except.ok (validationResult [py "RECORD_FIELD_SET_DRIFT"])
    else structuralErrors rt raw >>= _) = _
  rw [hset, if_neg (by simp), h]
  show (if ¬ ([] : List PyStr) = [] then Except.ok (validationResult [])
    else bindingErrorsOf raw c >>= _) = _
  rw [if_neg (not_not.mpr rfl)]
  cases bindingErrorsOf raw c <;> rfl

theorem validateRaw_accepts {raw : Dict PyStr PyVal} :
    (∃ v, validateRaw rt raw = .ok v ∧ v.errors = []) ↔
      setEq raw.keys rawRecordFields = true ∧ structuralErrors rt raw.items = .ok [] := by
  have hraw : @rawRecordPayload rt (.other (.record raw.items)) = some raw.items :=
    strKeyItems_record raw.items
  constructor
  · rintro ⟨v, h, hv⟩
    unfold validateRaw validatePolicyEvaluationRecord at h
    rw [hraw] at h
    by_cases hset : setEq (raw.items.map Prod.fst) rawRecordFields = false
    · dsimp only at h
      rw [if_pos hset] at h
      rw [← Except.ok.inj h, validationResult_errors_nil] at hv
      exact absurd hv (by simp)
    dsimp only at h
    rw [if_neg hset] at h
    obtain ⟨errors, herrors, h⟩ := bind_eq_ok.mp h
    by_cases he : errors ≠ []
    · rw [if_pos he] at h
      rw [← Except.ok.inj h, validationResult_errors_nil] at hv
      exact absurd hv he
    rw [not_not.mp he] at herrors
    exact ⟨Bool.eq_true_of_not_eq_false hset, herrors⟩
  · intro ⟨hset, h⟩
    exact ⟨_, validateRecord_sound hraw hset h _ _, rfl⟩

theorem validateRaw_accepts_iff {raw : Dict PyStr PyVal} :
    (∃ v, validateRaw rt raw = .ok v ∧ v.errors = []) ↔ setEq raw.keys rawRecordFields = true ∧
      ∃ r, Converts raw.items r ∧ r.Sound rt := by
  rw [validateRaw_accepts]
  refine and_congr_right fun hset => (structuralErrors_nil raw.nodup hset).trans ?_
  constructor
  · intro h
    exact ⟨_, h⟩
  · intro ⟨r, hc, hs⟩
    obtain rfl := hc.eq_ofRaw
    exact ⟨hc, hs⟩

theorem RawTypedAgree.token {raw : Dict PyStr PyVal} (h : RawTypedAgree rt raw)
    (hset : setEq raw.keys rawRecordFields = true) {r : PolicyEvaluationRecordArgs}
    (hc : Converts raw.items r) (hs : r.Sound rt) : r.toDecisionCoreArgs.TokenAccounting := by
  have haccepts := h.accepts.mp (validateRaw_accepts_iff.mpr ⟨hset, r, hc, hs⟩)
  obtain ⟨_, r', hc', _, htoken⟩ := exists_constructs_iff.mp haccepts
  rw [hc.eq_ofRaw, ← hc'.eq_ofRaw]
  exact htoken

/-- **The raw and the typed validator.**  They agree on a dictionary with string keys exactly when
its identifiers are tokens, unless the dictionary is not sound anyway. -/
theorem raw_typed_agree_iff (raw : Dict PyStr PyVal) : RawTypedAgree rt raw ↔
    (setEq raw.keys rawRecordFields = true → ∀ r, Converts raw.items r → r.Sound rt →
      r.toDecisionCoreArgs.TokenAccounting) := by
  constructor
  · intro h hset r hc hs
    exact h.token hset hc hs
  · intro htoken
    constructor
    · rw [validateRaw_accepts_iff, exists_constructs_iff]
      constructor
      · intro ⟨hset, r, hc, hs⟩
        exact ⟨hset, r, hc, hs, htoken hset r hc hs⟩
      · intro ⟨hset, r, hc, hs, _⟩
        exact ⟨hset, r, hc, hs⟩
    · intro r hr
      obtain ⟨hset, hc⟩ := constructs_iff.mp hr
      have hs := (PolicyEvaluationRecordArgs.valid_iff.mp r.valid).1
      have herrors : structuralErrors rt raw.items = .ok [] :=
        (structuralErrors_nil raw.nodup hset).mpr (hc.eq_ofRaw ▸ ⟨hc, hs⟩)
      rw [validateRecord_alone]
      exact @validateRecord_sound rt (.other (.record raw.items)) _
        (strKeyItems_record raw.items) hset herrors _ _

/-! ### a record with derived digests -/

variable (rt) in
/-- The record with this identity whose digests are the derived ones. -/
def derivedRecord (d : DecisionIdentity) : PolicyEvaluationRecordArgs :=
  let decision : MergeEligibilityDecisionArgs :=
    { d with decisionDigest := digestConstant rt (decisionPayload (d.items .strList)) }
  { decision with
    schemaVersion := policyRecordSchemaVersion
    policyRecordDigest :=
      digestConstant rt (recordPayload .strList policyRecordSchemaVersion decision) }

theorem derivedRecord_sound {d : DecisionIdentity} (he : d.toInputEchoes.Valid)
    (hi : digestRe d.inputDigest = true) (hc : d.toDecisionCoreArgs.Accountable)
    (ha : ∀ kv ∈ d.toDecisionCoreArgs.items .strList, Accepted rt kv.2) :
    (derivedRecord rt d).Sound rt := by
  obtain ⟨hdecision, hre⟩ := digestConstant_ok rt (decisionPayload_accepted he hi ha)
  obtain ⟨hrecord, hre'⟩ := digestConstant_ok rt (recordPayload_accepted (d := { d with
    decisionDigest := digestConstant rt (decisionPayload (d.items .strList)) }) he hi ha hre)
  exact ⟨⟨rfl, he, hi, hc, hre, hre'⟩, hdecision, hrecord⟩

theorem converts_rawItems (r : PolicyEvaluationRecordArgs) : Converts r.rawItems r := by
  have h := rawFields_rawItems r
  have hcore := h.core
  simp only [DecisionCoreArgs.items, List.forall_mem_cons, List.not_mem_nil, false_imp_iff,
    implies_true, and_true] at hcore
  obtain ⟨c1, c2, c3, c4, c5, c6, c7, c8, c9, c10, c11, c12, c13⟩ := hcore
  have hechoes := h.echoes
  simp only [InputEchoes.items, List.forall_mem_cons, List.not_mem_nil, false_imp_iff,
    implies_true, and_true] at hechoes
  obtain ⟨e1, e2, e3, e4, e5, e6, e7, e8, e9, e10, e11, e12⟩ := hechoes
  exact ⟨by rw [h.schemaVersion]; rfl, e1, e2, e3, e4, e5, Or.inl e6, e7, e8, e9, e10, e11, e12,
    h.inputDigest, c1, c2, c3, c4, c5, c6, c7, c8, c9, c10, c11, c12, c13, h.decisionDigest,
    h.policyRecordDigest⟩

end

/-! ### an identifier with a blank -/

/-- The evidence `"a b"` was rejected; nothing was required. -/
def blankCore : DecisionCoreArgs where
  disposition := .eligibleToMergeUnderPolicy
  decisionAuthority := .advisoryOnly
  primaryReasonCode := none
  completeReasonCodes := []
  blockingReasonCodes := []
  reviewReasonCodes := []
  requiredRequirementIds := []
  satisfiedRequirementIds := []
  invalidRequirementIds := []
  missingRequirementIds := []
  rejectedEvidenceIds := [[97, 32, 98]]
  invalidProvenanceEvidenceIds := []
  unexpectedEvidenceIds := []

theorem blankCore_accepted (rt : Runtime) :
    ∀ kv ∈ blankCore.items .strList, Accepted rt kv.2 := by
  simp only [DecisionCoreArgs.items, blankCore, List.forall_mem_cons, List.not_mem_nil,
    false_imp_iff, implies_true, and_true, accepted_str, accepted_strList]
  exact ⟨(StrEnum.value_ascii _).encodable, (StrEnum.value_ascii _).encodable,
    ⟨.null, rfl, rfl, rfl⟩, by decide⟩

theorem blankCore_accountable : blankCore.Accountable := by
  constructor <;> simp [blankCore, DecisionCoreArgs.expectedDisposition, partitionDisposition]
  all_goals exact ⟨fun x hx => absurd hx List.not_mem_nil, List.Pairwise.nil⟩

/-- A record in which everything but that identifier is in order, both digests included. -/
def blankRaw (rt : Runtime) (echoes : InputEchoes) (inputDigest : PyStr) : Dict PyStr PyVal where
  items := (derivedRecord rt ⟨echoes, blankCore, inputDigest⟩).rawItems
  nodup := by
    rw [rawItems_keys]
    exact rawRecordFields_nodup

theorem blankRaw_disagrees {rt : Runtime} {echoes : InputEchoes} {inputDigest : PyStr}
    (he : echoes.Valid) (hi : digestRe inputDigest = true) :
    ¬ RawTypedAgree rt (blankRaw rt echoes inputDigest) := by
  intro h
  have hsound := @derivedRecord_sound rt ⟨echoes, blankCore, inputDigest⟩ he hi blankCore_accountable
    (blankCore_accepted rt)
  have htoken := h.token (rawItems_setEq _) (converts_rawItems _) hsound
  have hblank := htoken blankCore.rejectedEvidenceIds (by simp [derivedRecord])
    [97, 32, 98] (List.mem_singleton_self _)
  exact absurd hblank (by decide)

theorem raw_typed_blank : ¬ RawTypedAgree (small 4300) (blankRaw (small 4300)
    (inputRequiring [97] (by decide) (by decide)).echoes (policyRecordSchemaDigest (small 4300))) :=
  blankRaw_disagrees (echoes_valid _)
    (digestConstant_ok (small 4300) (typedFieldContract_accepted (small 4300))).2

end Tomtit
