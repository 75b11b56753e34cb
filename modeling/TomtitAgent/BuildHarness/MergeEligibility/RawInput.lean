import TomtitAgent.BuildHarness.MergeEligibility.RecordTotal
import TomtitAgent.BuildHarness.CanonicalForm

/-!
# Constructed and raw inputs

A record is compared with a `MergeEligibilityPolicyInput` or with a dictionary.

* `noErrors_iff`   a sound record passes when the universes and the input have nothing to report;
* `bindingErrorsOf_typed`, `bindingErrorsOf_raw`   what either branch asks of the input;
* `policyInputOf`   the constructed input with the echoes of a record;
* `input_branches`   an input and its payload are accepted together; an accepted dictionary is the
  payload of an input when its `kind` and its `facts` are those of one.
-/

open Py

namespace Tomtit

section
variable {rt : Runtime}

/-- `validate_policy_evaluation_record` reports no error. -/
def NoErrors (record : RecordObject rt) (c : InputObject rt) (u : PyVal) : Prop :=
  ∃ v, validatePolicyEvaluationRecord record c u = .ok v ∧ v.errors = []

def StructurallyValid (record : RecordObject rt) : Prop := NoErrors record (.other .none) .none

/-! ### sound records -/

theorem noErrors_iff {record : RecordObject rt} {r : PolicyEvaluationRecordArgs}
    (hd : record.KeysDistinct) (h : SoundRecord record r) :
    ∃ raw, Converts raw r ∧ ∀ c u, NoErrors record c u ↔
      universeErrors raw u = [] ∧ bindingErrorsOf raw c = .ok [] := by
  obtain ⟨⟨raw, hraw, hset, hc⟩, hs⟩ := h
  have herrors : structuralErrors rt raw = .ok [] :=
    (structuralErrors_nil (hd raw hraw) hset).mpr (hc.eq_ofRaw ▸ ⟨hc, hs⟩)
  refine ⟨raw, hc, fun c u => ?_⟩
  unfold NoErrors
  rw [validateRecord_sound hraw hset herrors c u]
  cases bindingErrorsOf raw c with
  | error e => exact iff_of_false (by simp [Except.map]) (by simp)
  | ok errors =>
    simp only [Except.map, Except.ok.injEq, exists_eq_left', validationResult_errors_nil,
      List.append_eq_nil_iff]

theorem soundRecord_of_noErrors {record : RecordObject rt} (hd : record.KeysDistinct)
    {c : InputObject rt} {u : PyVal} (h : NoErrors record c u) : ∃ r, SoundRecord record r := by
  obtain ⟨v, h, hv⟩ := h
  unfold validatePolicyEvaluationRecord at h
  cases hraw : rawRecordPayload record with
  | none =>
    rw [hraw] at h
    rw [← Except.ok.inj h, validationResult_errors_nil] at hv
    exact absurd hv (by simp)
  | some raw =>
    rw [hraw] at h
    dsimp only at h
    by_cases hset : setEq (raw.map Prod.fst) rawRecordFields = false
    · rw [if_pos hset] at h
      rw [← Except.ok.inj h, validationResult_errors_nil] at hv
      exact absurd hv (by simp)
    rw [if_neg hset] at h
    have hset := Bool.eq_true_of_not_eq_false hset
    obtain ⟨errors, herrors, h⟩ := bind_eq_ok.mp h
    by_cases he : errors ≠ []
    · rw [if_pos he] at h
      rw [← Except.ok.inj h, validationResult_errors_nil] at hv
      exact absurd hv he
    rw [not_not.mp he] at herrors
    obtain ⟨hc, hs⟩ := (structuralErrors_nil (hd raw hraw) hset).mp herrors
    exact ⟨_, ⟨raw, hraw, hset, hc⟩, hs⟩

/-! ### what either branch asks -/

theorem bindingErrorsOf_typed {raw : List (PyStr × PyVal)} {r : PolicyEvaluationRecordArgs}
    (h : Converts raw r) (i : MergeEligibilityPolicyInput rt) :
    bindingErrorsOf raw (.typed i) = .ok [] ↔
      r.toInputEchoes = i.echoes ∧ i.inputDigest = .ok r.inputDigest := by
  show validateInputBinding raw (.typed i) = .ok [] ↔ _
  rw [validateInputBinding, ← h.echoes_iff, h.inputDigest]
  split_ifs with hne
  · obtain ⟨kv, hkv, hne⟩ := hne
    exact iff_of_false (by simp) fun h => hne (h.1 kv hkv)
  · rw [and_iff_right fun kv hkv => not_not.mp fun hkv' => hne ⟨kv, hkv, hkv'⟩]
    cases i.inputDigest with
    | error e => exact iff_of_false (by simp [bind, Except.bind]) (by simp)
    | ok digest =>
      show Except.ok (errorIf (¬ some digest = some r.inputDigest) _) = _ ↔ _
      rw [Except.ok.injEq, Except.ok.injEq, errorIf_eq_nil, not_not, Option.some.injEq]

variable (rt) in
/-- The dictionary has the echoes `e`, the constants of the schema and of the canonicalization, the
committed fields and the digest. -/
structure RawBinds (candidate : List (PyStr × PyVal)) (e : InputEchoes) (digest : PyStr) : Prop where
  echoes : ∀ kv ∈ e.items, (rawField candidate kv.1).asStr = kv.2.asStr
  schemaVersion : (rawField candidate (py "policy_record_schema_version")).asStr =
    some policyRecordSchemaVersion
  schemaDigest : (rawField candidate (py "policy_record_schema_digest")).asStr =
    some (policyRecordSchemaDigest rt)
  canonicalizationVersion : (rawField candidate (py "canonicalization_version")).asStr =
    some Tomtit.canonicalizationVersion
  contractDigest : (rawField candidate (py "canonicalization_contract_digest")).asStr =
    some (canonicalizationContractDigest rt)
  fieldSet : setEq (candidate.map Prod.fst) rawInputFields = true
  inputDigest : canonicalDigest rt (.record candidate) = .ok digest

theorem echoes_keys (e : InputEchoes) : e.items.map Prod.fst = echoFields := rfl

theorem Converts.echoFields_iff {raw : List (PyStr × PyVal)} {r : PolicyEvaluationRecordArgs}
    (h : Converts raw r) (candidate : List (PyStr × PyVal)) :
    (∀ key ∈ echoFields, (rawField candidate key).asStr = (rawField raw key).asStr) ↔
      ∀ kv ∈ r.toInputEchoes.items, (rawField candidate kv.1).asStr = kv.2.asStr := by
  rw [← echoes_keys r.toInputEchoes, List.forall_mem_map]
  have hself := (h.echoes_iff r.toInputEchoes).mpr rfl
  exact forall₂_congr fun kv hkv => by rw [hself kv hkv]

theorem strKeyItems_eq_some {kvs : List (PyVal × PyVal)} {items : List (PyStr × PyVal)}
    (h : strKeyItems kvs = some items) : PyVal.dict kvs = .record items := by
  refine congrArg PyVal.dict ?_
  unfold strKeyItems at h
  induction kvs generalizing items with
  | nil => rw [← Option.some.inj h]; rfl
  | cons kv kvs ih =>
    obtain ⟨k, v⟩ := kv
    rw [List.mapM_cons] at h
    cases k with
    | str k =>
      obtain ⟨kv, hkv, h⟩ := Option.bind_eq_some_iff.mp h
      obtain ⟨rest, hrest, h⟩ := Option.bind_eq_some_iff.mp h
      rw [← Option.some.inj h, ← Option.some.inj hkv, ih hrest]
      rfl
    | _ => exact absurd h (by simp)

theorem bindingErrorsOf_raw {raw : List (PyStr × PyVal)} {r : PolicyEvaluationRecordArgs}
    (h : Converts raw r) (hschema : r.schemaVersion = policyRecordSchemaVersion)
    (candidate : List (PyStr × PyVal)) :
    @bindingErrorsOf rt raw (.other (.record candidate)) = .ok [] ↔
      RawBinds rt candidate r.toInputEchoes r.inputDigest := by
  show @validateInputBinding rt raw (.other (.dict _)) = .ok [] ↔ _
  rw [validateInputBinding, strKeyItems_record]
  dsimp only
  rw [catching_eq_ok (by simp), bind_eq_ok, h.schemaVersion, h.inputDigest, hschema]
  simp only [pure, Except.pure, Except.ok.injEq, List.append_eq_nil_iff, errorIf_eq_nil, not_exists,
    not_and, not_or, not_not, ne_eq, asStr_str, Option.some.injEq, Bool.not_eq_false,
    h.echoFields_iff]
  constructor
  · rintro ⟨digest, hd, ⟨⟨h1, h2, h3⟩, h4, h5⟩, h6, rfl⟩
    exact ⟨h1, h2, h3, h4, h5, h6, hd⟩
  · intro hb
    exact ⟨_, hb.inputDigest, ⟨⟨hb.echoes, hb.schemaVersion, hb.schemaDigest⟩,
      hb.canonicalizationVersion, hb.contractDigest⟩, hb.fieldSet, rfl⟩

theorem strKeyItems_of_accepted {raw : List (PyStr × PyVal)} {kvs : List (PyVal × PyVal)}
    (h : @bindingErrorsOf rt raw (.other (.dict kvs)) = .ok []) :
    ∃ candidate, PyVal.dict kvs = .record candidate := by
  have h : @validateInputBinding rt raw (.other (.dict kvs)) = .ok [] := h
  rw [validateInputBinding] at h
  cases hitems : strKeyItems kvs with
  | none =>
    rw [hitems] at h
    exact absurd (Except.ok.inj h) (by simp)
  | some candidate => exact ⟨candidate, strKeyItems_eq_some hitems⟩

/-! ### the payload of an input -/

theorem rawField_of_mem {fields : List (PyStr × PyVal)} (hnd : (fields.map Prod.fst).Nodup)
    {kv : PyStr × PyVal} (h : kv ∈ fields) : rawField fields kv.1 = kv.2 := by
  unfold rawField
  rw [assoc_of_mem hnd h]
  rfl

theorem canonicalFields_keys (i : MergeEligibilityPolicyInput rt) :
    i.canonicalFields.map Prod.fst = rawInputFields := rfl

theorem rawInputFields_nodup : rawInputFields.Nodup := by
  simp [rawInputFields, sourceBindingFields]

theorem payload_rawBinds (i : MergeEligibilityPolicyInput rt) {e : InputEchoes} {digest : PyStr} :
    RawBinds rt i.canonicalFields e digest ↔ e = i.echoes ∧ i.inputDigest = .ok digest := by
  have hfield := fun kv => @rawField_of_mem i.canonicalFields (canonicalFields_nodup i) kv
  have hechoes : (∀ kv ∈ e.items, (rawField i.canonicalFields kv.1).asStr = kv.2.asStr) ↔
      e = i.echoes := by
    have hmem : ∀ kv ∈ i.echoes.items, rawField i.canonicalFields kv.1 = kv.2 := by
      intro kv hkv
      refine hfield kv ?_
      simp only [InputEchoes.items, MergeEligibilityPolicyInputArgs.echoes, List.mem_cons,
        List.not_mem_nil, or_false] at hkv
      unfold MergeEligibilityPolicyInput.canonicalFields
      rcases hkv with rfl | rfl | rfl | rfl | rfl | rfl | rfl | rfl | rfl | rfl | rfl | rfl <;> simp
    simp only [InputEchoes.items, List.forall_mem_cons, List.not_mem_nil, false_imp_iff,
      implies_true, and_true] at hmem ⊢
    obtain ⟨h1, h2, h3, h4, h5, h6, h7, h8, h9, h10, h11, h12⟩ := hmem
    rw [h1, h2, h3, h4, h5, h6, h7, h8, h9, h10, h11, h12]
    simp only [asStr_str, Option.some.injEq, StrEnum.value_inj.eq_iff]
    constructor
    · rintro ⟨e1, e2, e3, e4, e5, e6, e7, e8, e9, e10, e11, e12⟩
      exact (InputEchoes.ext e1 e2 e3 e4 e5 e6 e7 e8 e9 e10 e11 e12).symm
    · rintro rfl
      exact ⟨rfl, rfl, rfl, rfl, rfl, rfl, rfl, rfl, rfl, rfl, rfl, rfl⟩
  have hv := i.valid
  constructor
  · intro h
    exact ⟨hechoes.mp h.echoes, h.inputDigest⟩
  · rintro ⟨he, hd⟩
    have hstr : ∀ key value, (key, PyVal.str value) ∈ i.canonicalFields →
        (rawField i.canonicalFields key).asStr = some value := by
      intro key value hm
      rw [hfield (key, .str value) hm]
      rfl
    refine ⟨hechoes.mpr he, ?_, ?_, ?_, ?_, setEq_iff.mpr fun _ => Iff.rfl, hd⟩
    · rw [← hv.schemaVersion]
      exact hstr _ _ (by simp [MergeEligibilityPolicyInput.canonicalFields])
    · rw [← hv.schemaDigest]
      exact hstr _ _ (by simp [MergeEligibilityPolicyInput.canonicalFields])
    · rw [← hv.canonicalizationVersion]
      exact hstr _ _ (by simp [MergeEligibilityPolicyInput.canonicalFields])
    · rw [← hv.contractDigest]
      exact hstr _ _ (by simp [MergeEligibilityPolicyInput.canonicalFields])

theorem noErrors_payload {record : RecordObject rt} {r : PolicyEvaluationRecordArgs}
    (hd : record.KeysDistinct) (h : SoundRecord record r) (i : MergeEligibilityPolicyInput rt)
    (u : PyVal) : NoErrors record (.typed i) u ↔ NoErrors record (.other i.toCanonicalPayload) u := by
  have hs := h.sound.fields.schemaVersion
  obtain ⟨raw, hc, hiff⟩ := noErrors_iff hd h
  rw [hiff, hiff, bindingErrorsOf_typed hc]
  unfold MergeEligibilityPolicyInput.toCanonicalPayload
  rw [bindingErrorsOf_raw hc hs, payload_rawBinds]

/-! ### a dictionary with the fields of an input -/

variable (rt) in
/-- The constructed input with the echoes of a record. -/
def policyInputOf (e : InputEchoes) (he : e.Valid) (f : EligibilityFacts) :
    MergeEligibilityPolicyInput rt where
  taskId := e.taskId
  taskContractDigest := e.taskContractDigest
  candidateDigest := e.candidateDigest
  repositorySnapshotDigest := e.repositorySnapshotDigest
  verificationBundleDigest := e.verificationBundleDigest
  approvalDigestOrSentinel := e.approvalDigestOrSentinel
  authorityBindingDigest := e.authorityBindingDigest
  verifierBindingDigest := e.verifierBindingDigest
  policyDigest := e.policyDigest
  policyVersion := e.policyVersion
  evaluatorVersion := e.evaluatorVersion
  evaluationMode := e.evaluationMode
  policyRecordSchemaVersion := Tomtit.policyRecordSchemaVersion
  policyRecordSchemaDigest := Tomtit.policyRecordSchemaDigest rt
  canonicalizationVersion := Tomtit.canonicalizationVersion
  canonicalizationContractDigest := Tomtit.canonicalizationContractDigest rt
  facts := f
  postInit_ok := (MergeEligibilityPolicyInputArgs.postInit_ok_iff rt).mpr
    ⟨he.taskId, he.taskContractDigest, he.candidateDigest, he.repositorySnapshotDigest,
      he.verificationBundleDigest, he.approvalDigestOrSentinel, he.authorityBindingDigest,
      he.verifierBindingDigest, he.policyDigest, he.policyVersion, he.evaluatorVersion, rfl, rfl, rfl,
      rfl⟩

theorem nodup_of_accepted {fields : List (PyStr × PyVal)} (h : Accepted rt (.record fields)) :
    (fields.map Prod.fst).Nodup := by
  have hapart := ((accepted_dict rt _).mp h).2
  rw [List.pairwise_map] at hapart
  refine List.pairwise_map.mpr (hapart.imp fun {a b} hab e => ?_)
  exact hab a.1 b.1 rfl rfl (congrArg rt.nfc e)

theorem RawBinds.accepted {candidate : List (PyStr × PyVal)} {e : InputEchoes} {digest : PyStr}
    (h : RawBinds rt candidate e digest) : Accepted rt (.record candidate) :=
  (accepted_of_digest rt h.inputDigest).1

theorem rawInputFields_ascii : ∀ name ∈ rawInputFields, Ascii name := by
  simp only [rawInputFields, sourceBindingFields, List.cons_append, List.nil_append,
    List.forall_mem_cons, List.not_mem_nil, false_imp_iff, implies_true, and_true]
  and_intros <;> exact ascii_lit _ (by decide)

theorem RawBinds.norm_eq {candidate : List (PyStr × PyVal)} {e : InputEchoes} {digest : PyStr}
    (h : RawBinds rt candidate e digest) : norm rt (.record candidate) =
      norm rt (.record (rawInputFields.map fun name => (name, rawField candidate name))) :=
  norm_perm rt ((fields_perm rawInputFields_nodup (nodup_of_accepted h.accepted) h.fieldSet).map _)

variable (rt) in
/-- Its `kind` and its `facts` are those of an input. -/
structure PayloadParts (candidate : List (PyStr × PyVal)) (f : EligibilityFacts) : Prop where
  kind : Same rt (rawField candidate (py "kind")) (.str inputPayloadKind)
  facts : Same rt (rawField candidate (py "facts")) (.record f.toJsonDict)

theorem same_iff_norm {u v : PyVal} (h : Accepted rt u) : Same rt u v ↔ norm rt u = norm rt v := by
  obtain ⟨j, hj, _⟩ := h
  exact ⟨norm_eq_of_same rt, fun e => same_of_norm_eq rt hj (e.symm.trans hj)⟩

theorem RawBinds.accepted_fields {candidate : List (PyStr × PyVal)} {e : InputEchoes}
    {digest : PyStr} (h : RawBinds rt candidate e digest) :
    Accepted rt (.record (rawInputFields.map fun name => (name, rawField candidate name))) := by
  have ha := h.accepted
  unfold Accepted at ha ⊢
  rw [← h.norm_eq]
  exact ha

theorem RawBinds.norm_iff {candidate : List (PyStr × PyVal)} {e : InputEchoes} {digest : PyStr}
    (h : RawBinds rt candidate e digest) (i : MergeEligibilityPolicyInput rt) :
    norm rt (.record candidate) = norm rt i.toCanonicalPayload ↔
      (rawInputFields.map fun name => norm rt (rawField candidate name)) =
        i.canonicalFields.map fun kv => norm rt kv.2 := by
  have hkeys := namedFields_keys candidate rawInputFields
  rw [h.norm_eq]
  unfold MergeEligibilityPolicyInput.toCanonicalPayload
  rw [norm_record_iff rt (hkeys.trans (canonicalFields_keys i).symm)
    (by rw [hkeys]; exact rawInputFields_ascii) h.accepted_fields, List.map_map]
  exact Iff.rfl

theorem RawBinds.norm_parts {candidate : List (PyStr × PyVal)} {e : InputEchoes} {digest : PyStr}
    (h : RawBinds rt candidate e digest) {i : MergeEligibilityPolicyInput rt}
    (he : i.echoes = e) : norm rt (.record candidate) = norm rt i.toCanonicalPayload ↔
      norm rt (rawField candidate (py "kind")) = norm rt (.str inputPayloadKind) ∧
      norm rt (rawField candidate (py "facts")) = norm rt (.record i.facts.toJsonDict) := by
  have hv := i.valid
  have hechoes := h.echoes
  rw [← he] at hechoes
  simp only [InputEchoes.items, MergeEligibilityPolicyInputArgs.echoes, List.forall_mem_cons,
    List.not_mem_nil, false_imp_iff, implies_true, and_true, asStr_str] at hechoes
  obtain ⟨e1, e2, e3, e4, e5, e6, e7, e8, e9, e10, e11, e12⟩ := hechoes
  have hnorm := fun v s => @norm_asStr rt v s
  rw [h.norm_iff]
  simp only [rawInputFields, sourceBindingFields, MergeEligibilityPolicyInput.canonicalFields,
    List.cons_append, List.nil_append, List.map_cons, List.map_nil, norm_record_sortItems,
    hnorm _ _ e1, hnorm _ _ e2, hnorm _ _ e3, hnorm _ _ e4, hnorm _ _ e5, hnorm _ _ e6,
    hnorm _ _ e7, hnorm _ _ e8, hnorm _ _ e9, hnorm _ _ e10, hnorm _ _ e11, hnorm _ _ e12,
    hnorm _ _ h.schemaVersion, hnorm _ _ h.schemaDigest, hnorm _ _ h.canonicalizationVersion,
    hnorm _ _ h.contractDigest, hv.schemaVersion, hv.schemaDigest, hv.canonicalizationVersion,
    hv.contractDigest, List.cons.injEq, and_true, true_and]

/-- An accepted dictionary is the payload of a constructed input exactly when its `kind` and its
`facts` are those of one. -/
theorem RawBinds.payload_iff {candidate : List (PyStr × PyVal)} {e : InputEchoes} {digest : PyStr}
    (h : RawBinds rt candidate e digest) (he : e.Valid) :
    (∃ i : MergeEligibilityPolicyInput rt, Same rt (.record candidate) i.toCanonicalPayload) ↔
      ∃ f, PayloadParts rt candidate f := by
  have hfield : ∀ name ∈ rawInputFields, Accepted rt (rawField candidate name) := by
    have hkeys := namedFields_keys candidate rawInputFields
    have hnamed := (accepted_record rt (by rw [hkeys]; exact rawInputFields_ascii)
      (by rw [hkeys]; exact rawInputFields_nodup)).mp h.accepted_fields
    exact fun name hname => hnamed _ (List.mem_map.mpr ⟨name, hname, rfl⟩)
  have hkind := hfield (py "kind") (by simp [rawInputFields])
  have hfacts := hfield (py "facts") (by simp [rawInputFields])
  constructor
  · rintro ⟨i, hi⟩
    have hn := (h.norm_iff i).mp ((same_iff_norm h.accepted).mp hi)
    simp only [rawInputFields, sourceBindingFields, MergeEligibilityPolicyInput.canonicalFields,
      List.cons_append, List.nil_append, List.map_cons, List.map_nil, norm_record_sortItems,
      List.cons.injEq, and_true] at hn
    obtain ⟨hk, _, _, _, _, _, _, _, _, _, _, _, _, _, _, _, _, hf⟩ := hn
    exact ⟨i.facts, (same_iff_norm hkind).mpr hk, (same_iff_norm hfacts).mpr hf⟩
  · rintro ⟨f, hk, hf⟩
    refine ⟨policyInputOf rt e he f, (same_iff_norm h.accepted).mpr ((h.norm_parts rfl).mpr ?_)⟩
    exact ⟨(same_iff_norm hkind).mp hk, (same_iff_norm hfacts).mp hf⟩

/-! ### main result -/

/-- A constructed input and its payload are accepted together. -/
def PayloadsAgree (record : RecordObject rt) (u : PyVal) : Prop :=
  ∀ i : MergeEligibilityPolicyInput rt, EncodableIds i.facts →
    (NoErrors record (.typed i) u ↔ NoErrors record (.other i.toCanonicalPayload) u)

variable (rt) in
/-- The dictionary is, up to NFC, the payload of a constructed input. -/
def TypedTwin (v : PyVal) : Prop :=
  ∃ i : MergeEligibilityPolicyInput rt, Same rt v i.toCanonicalPayload

/-- Constructed and raw inputs are interchangeable for the record. -/
structure InputsInterchangeable (record : RecordObject rt) (u : PyVal) : Prop where
  agree : PayloadsAgree record u
  twin : ∀ kvs, NoErrors record (.other (.dict kvs)) u → TypedTwin rt (.dict kvs)

/-- **The branches.**  They agree on every payload; an accepted dictionary is a payload exactly when
its `kind` and its `facts` are those of one. -/
theorem input_branches (record : RecordObject rt) (hd : record.KeysDistinct)
    (hr : StructurallyValid record) (u : PyVal) :
    PayloadsAgree record u ∧ ∀ kvs, NoErrors record (.other (.dict kvs)) u →
      ∃ candidate, PyVal.dict kvs = .record candidate ∧
        (TypedTwin rt (.dict kvs) ↔ ∃ f, PayloadParts rt candidate f) := by
  obtain ⟨r, hr⟩ := soundRecord_of_noErrors hd hr
  refine ⟨fun i _ => noErrors_payload hd hr i u, fun kvs hkvs => ?_⟩
  obtain ⟨raw, hc, hiff⟩ := noErrors_iff hd hr
  have hb := ((hiff _ _).mp hkvs).2
  obtain ⟨candidate, hcandidate⟩ := strKeyItems_of_accepted hb
  rw [hcandidate] at hb ⊢
  have hbinds := (bindingErrorsOf_raw hc hr.sound.fields.schemaVersion candidate).mp hb
  exact ⟨candidate, rfl, hbinds.payload_iff hr.sound.fields.echoes⟩

theorem structurallyValid_typed (r : PolicyEvaluationRecord rt) : StructurallyValid (.typed r) :=
  ⟨_, validateRecord_alone r, rfl⟩

def boundRecord (i : MergeEligibilityPolicyInput rt) (digest : PyStr) (hre : digestRe digest = true) :
    PolicyEvaluationRecord rt where
  toPolicyEvaluationRecordArgs := derivedRecord rt ⟨i.echoes, emptyCore, digest⟩
  postInit_ok := by
    obtain ⟨haccountable, htoken⟩ := recordable_iff.mp emptyCore_recordable
    exact PolicyEvaluationRecordArgs.postInit_ok_iff.mpr (PolicyEvaluationRecordArgs.valid_iff.mpr
      ⟨@derivedRecord_sound rt ⟨i.echoes, emptyCore, digest⟩ (echoes_valid i) hre haccountable
        emptyCore_recordable.accepted, htoken⟩)

end

/-- `input_branches` at a record of an input whose one identifier is `é`. -/
theorem input_branches_composed : PayloadsAgree (.typed (emptyRecord composedInput)) .none ∧
    ∀ kvs, NoErrors (.typed (emptyRecord composedInput)) (.other (.dict kvs)) .none →
      ∃ candidate, PyVal.dict kvs = .record candidate ∧ (TypedTwin (small 4300) (.dict kvs) ↔
        ∃ f, PayloadParts (small 4300) candidate f) :=
  input_branches (.typed (emptyRecord composedInput)) (keysDistinct_typed _)
    (structurallyValid_typed _) .none

/-! ### a dictionary without facts -/

section
variable {rt : Runtime}

/-- The payload with `None` for its facts. -/
def factless (i : MergeEligibilityPolicyInput rt) : List (PyStr × PyVal) :=
  i.canonicalFields.map fun kv => if kv.1 = py "facts" then (kv.1, .none) else kv

theorem factless_keys (i : MergeEligibilityPolicyInput rt) :
    (factless i).map Prod.fst = rawInputFields := by
  unfold factless
  rw [← canonicalFields_keys i, List.map_map]
  refine List.map_congr_left fun kv _ => ?_
  show (if kv.1 = py "facts" then (kv.1, PyVal.none) else kv).1 = kv.1
  split_ifs <;> rfl

theorem factless_accepted {i : MergeEligibilityPolicyInput rt} (h : EncodableIds i.facts) :
    Accepted rt (.record (factless i)) := by
  have ha := (payload_accepted i).mpr h
  unfold MergeEligibilityPolicyInput.toCanonicalPayload at ha
  rw [accepted_record rt (canonicalFields_ascii i) (canonicalFields_nodup i)] at ha
  rw [accepted_record rt (by rw [factless_keys]; exact rawInputFields_ascii)
    (by rw [factless_keys]; exact rawInputFields_nodup)]
  unfold factless
  rw [List.forall_mem_map]
  intro kv hkv
  split_ifs
  · exact accepted_none rt
  · exact ha kv hkv

theorem factless_field (i : MergeEligibilityPolicyInput rt) {name : PyStr}
    (hname : name ∈ rawInputFields) (hne : name ≠ py "facts") :
    rawField (factless i) name = rawField i.canonicalFields name := by
  rw [← canonicalFields_keys i] at hname
  obtain ⟨kv, hkv, rfl⟩ := List.mem_map.mp hname
  have hnd : ((factless i).map Prod.fst).Nodup := by
    rw [factless_keys]
    exact rawInputFields_nodup
  rw [rawField_of_mem (canonicalFields_nodup i) hkv]
  exact rawField_of_mem hnd (List.mem_map.mpr ⟨kv, hkv, if_neg hne⟩)

theorem factless_facts (i : MergeEligibilityPolicyInput rt) :
    rawField (factless i) (py "facts") = .none := by
  have hnd : ((factless i).map Prod.fst).Nodup := by
    rw [factless_keys]
    exact rawInputFields_nodup
  have hfacts : (py "facts", PyVal.record (sortItems i.facts.toJsonDict)) ∈ i.canonicalFields := by
    simp [MergeEligibilityPolicyInput.canonicalFields]
  exact rawField_of_mem hnd (List.mem_map.mpr ⟨_, hfacts, if_pos rfl⟩)

theorem factless_rawBinds {i : MergeEligibilityPolicyInput rt} (h : EncodableIds i.facts)
    {digest : PyStr} (hd : canonicalDigest rt (.record (factless i)) = .ok digest) :
    RawBinds rt (factless i) i.echoes digest := by
  obtain ⟨inputDigest, hi⟩ := (inputDigest_ok_iff i).mpr h
  have hb := (@payload_rawBinds rt i i.echoes inputDigest).mpr ⟨rfl, hi⟩
  have hfield := fun name => @factless_field rt i name
  constructor
  · intro kv hkv
    have hname : kv.1 ∈ echoFields := List.mem_map_of_mem hkv
    have hmem : ∀ name ∈ echoFields, name ∈ rawInputFields ∧ name ≠ py "facts" := by
      simp [echoFields, sourceBindingFields, rawInputFields]
    rw [hfield kv.1 (hmem _ hname).1 (hmem _ hname).2]
    exact hb.echoes kv hkv
  · rw [hfield _ (by simp [rawInputFields]) (by simp)]
    exact hb.schemaVersion
  · rw [hfield _ (by simp [rawInputFields]) (by simp)]
    exact hb.schemaDigest
  · rw [hfield _ (by simp [rawInputFields]) (by simp)]
    exact hb.canonicalizationVersion
  · rw [hfield _ (by simp [rawInputFields]) (by simp)]
    exact hb.contractDigest
  · rw [factless_keys]
    exact setEq_iff.mpr fun _ => Iff.rfl
  · exact hd

theorem factless_not_twin {i : MergeEligibilityPolicyInput rt} (h : EncodableIds i.facts) :
    ¬ TypedTwin rt (.record (factless i)) := by
  intro htwin
  obtain ⟨digest, hd, _⟩ := digest_of_accepted rt (factless_accepted h)
  obtain ⟨f, _, hf⟩ := ((factless_rawBinds h hd).payload_iff (echoes_valid i)).mp htwin
  have hn := norm_eq_of_same rt hf
  rw [factless_facts] at hn
  obtain ⟨es, _, _, hj⟩ := (norm_dict_eq_some rt).mp hn.symm
  exact absurd hj (by simp)

theorem factless_noErrors {i : MergeEligibilityPolicyInput rt} (h : EncodableIds i.facts)
    {digest : PyStr} (hre : digestRe digest = true)
    (hd : canonicalDigest rt (.record (factless i)) = .ok digest) :
    NoErrors (.typed (boundRecord i digest hre)) (.other (.record (factless i))) .none := by
  have hs := soundRecord_typed (boundRecord i digest hre)
  obtain ⟨raw, hc, hiff⟩ := noErrors_iff (keysDistinct_typed _) hs
  exact (hiff _ _).mpr ⟨rfl, (bindingErrorsOf_raw hc hs.sound.fields.schemaVersion _).mpr
    (factless_rawBinds h hd)⟩

end

/-- A record with the digest of a dictionary whose facts are `None` accepts that dictionary. -/
theorem input_branches_fails : ∃ record : RecordObject (small 4300), record.KeysDistinct ∧
    StructurallyValid record ∧ ¬ InputsInterchangeable record .none := by
  have henc : EncodableIds composedInput.facts := composed_variant.encodable
  obtain ⟨digest, hd, hre⟩ := digest_of_accepted (small 4300) (factless_accepted henc)
  refine ⟨.typed (boundRecord composedInput digest hre), keysDistinct_typed _,
    structurallyValid_typed _, fun h => ?_⟩
  exact factless_not_twin henc (h.twin _ (factless_noErrors henc hre hd))

end Tomtit
