import TomtitAgent.BuildHarness.MergeEligibility.RawTyped

/-!
# Totality of the structural validator

* `canonicalDigest_raises`   canonical serialization raises a `ValueError` or nothing;
* `structuralErrors_total`   so the checks in the `try` always return;
* `validateInputBinding_raises_iff`   the comparison with a constructed input computes its digest
  outside any `try`;
* `validatePolicyEvaluationRecord_total_iff`   which is the only way for the validator to raise.
-/

open Py

namespace Tomtit

section
variable {rt : Runtime}

/-! ### what serialization raises -/

theorem canonicalizeItems_raises {xs : List PyVal}
    (ih : ∀ x ∈ xs, ∀ p, RaisesOnly "ValueError" (canonicalize rt p x)) (p : PyStr) (i : Nat) :
    RaisesOnly "ValueError" (canonicalizeItems rt p i xs) := by
  induction xs generalizing i with
  | nil => exact .ok _
  | cons x xs ihx =>
    rw [canonicalizeItems]
    exact (ih x List.mem_cons_self _).bind fun _ =>
      (ihx (fun y hy => ih y (List.mem_cons_of_mem x hy)) (i + 1)).bind fun _ => .ok _

theorem canonicalizeDict_raises {kvs : List (PyVal × PyVal)}
    (ih : ∀ kv ∈ kvs, ∀ p, RaisesOnly "ValueError" (canonicalize rt p kv.2)) (p : PyStr)
    (seen : List PyStr) : RaisesOnly "ValueError" (canonicalizeDict rt p seen kvs) := by
  induction kvs generalizing seen with
  | nil => exact .ok _
  | cons kv kvs ihk =>
    obtain ⟨k, x⟩ := kv
    cases k with
    | str key =>
      rw [canonicalizeDict]
      split_ifs
      · exact .error rfl
      · exact (ih _ List.mem_cons_self _).bind fun _ =>
          (ihk (fun y hy => ih y (List.mem_cons_of_mem _ hy)) _).bind fun _ => .ok _
    | _ => exact .error rfl

theorem canonicalize_raises (v : PyVal) :
    ∀ p, RaisesOnly "ValueError" (canonicalize rt p v) := by
  induction v using PyVal.induct with
  | none => exact fun p => .ok _
  | bool b => exact fun p => .ok _
  | int n => exact fun p => .ok _
  | float x =>
    intro p
    rw [canonicalize]
    split_ifs
    · exact .ok _
    · exact .error rfl
  | str s => exact fun p => .ok _
  | list xs ih =>
    intro p
    rw [canonicalize]
    exact (canonicalizeItems_raises ih p 0).bind fun _ => .ok _
  | tuple xs ih =>
    intro p
    rw [canonicalize]
    exact (canonicalizeItems_raises ih p 0).bind fun _ => .ok _
  | dict kvs ih =>
    intro p
    rw [canonicalize]
    exact (canonicalizeDict_raises (fun kv hkv => (ih kv hkv).2) p []).bind fun _ => .ok _
  | enum cls name isStr value ih =>
    intro p
    cases value with
    | str s => exact .ok _
    | _ =>
      rw [canonicalize]
      · exact (reprVal_raises rt _).bind fun _ => .error rfl
      · simp
  | obj cls repr attrs => exact fun p => .error rfl

/-- A digest is returned, or a `ValueError` raised. -/
theorem canonicalDigest_raises (v : PyVal) : RaisesOnly "ValueError" (canonicalDigest rt v) := by
  have hdumps : ∀ j : Json, RaisesOnly "ValueError" (j.dumps rt) := by
    intro j
    unfold Json.dumps
    split_ifs
    · exact .ok _
    · exact .error rfl
  have hencode : ∀ s, RaisesOnly "ValueError" (encodeUtf8 s) := by
    intro s
    unfold encodeUtf8
    split_ifs
    · exact .ok _
    · exact .error rfl
  unfold canonicalDigest canonicalJsonBytes
  exact ((canonicalize_raises v _).bind fun j => (hdumps j).bind fun s => hencode s).bind
    fun _ => .ok _

/-! ### the guarded part -/

theorem isA_or {e : PyExc} (h : e.isA "TypeError" = true ∨ e.isA "ValueError" = true) :
    ["KeyError", "TypeError", "ValueError", "RecordConstructionError"].any e.isA = true := by
  rcases h with h | h
  · simp [h]
  · simp [h]

theorem catching_total {α : Type} {x : Except PyExc α} {handler : α}
    (h : ∀ e, x = .error e → e.isA "TypeError" = true ∨ e.isA "ValueError" = true) :
    ∃ a, catching ["KeyError", "TypeError", "ValueError", "RecordConstructionError"] x handler =
      .ok a := by
  cases x with
  | ok a => exact ⟨a, rfl⟩
  | error e => exact ⟨handler, if_pos (isA_or (h e rfl))⟩

theorem primaryDisagrees_raises (primary : PyVal) (complete : List PyStr) :
    RaisesOnly "TypeError" (primaryDisagrees primary complete) := by
  have hnotIn : RaisesOnly "TypeError"
      (if complete = [] then Except.ok true else notInSet primary complete) := by
    unfold notInSet
    split_ifs
    · exact .ok _
    · exact .ok _
    · exact .error rfl
  unfold primaryDisagrees
  split
  · exact .ok _
  · exact hnotIn

theorem validateRawFields_raises (raw : List (PyStr × PyVal)) :
    RaisesOnly "TypeError" (validateRawFields raw) := by
  have hreason : RaisesOnly "TypeError" (reasonPartitionErrors raw) := by
    unfold reasonPartitionErrors
    split
    · exact (primaryDisagrees_raises _ _).bind fun _ => .ok _
    · exact .ok _
  unfold validateRawFields
  exact hreason.bind fun _ => .ok _

theorem decisionDigestFor_raises (identity : List (PyStr × PyVal)) :
    RaisesOnly "ValueError" (decisionDigestFor rt identity) := by
  unfold decisionDigestFor raiseIf
  split_ifs
  · exact .error rfl
  · exact canonicalDigest_raises _

theorem structuralErrors_total (raw : List (PyStr × PyVal)) :
    ∃ errors, structuralErrors rt raw = .ok errors := by
  have hdigests : RaisesOnly "ValueError" (do
      let decisionDigest ← decisionDigestFor rt
        (identityFields.map fun name => (name, rawField raw name))
      if (rawField raw (py "decision_digest")).asStr ≠ some decisionDigest then
        Except.ok [py "DECISION_DIGEST_NOT_DERIVED"]
      else do
        let recordDigest ← canonicalDigest rt
          (.record (raw.filter fun kv => kv.1 ≠ py "policy_record_digest"))
        return errorIf ((rawField raw (py "policy_record_digest")).asStr ≠ some recordDigest)
          (py "RECORD_DIGEST_MISMATCH")) := by
    refine (decisionDigestFor_raises _).bind fun digest => ?_
    split_ifs
    · exact .ok _
    · exact (canonicalDigest_raises _).bind fun _ => .ok _
  unfold structuralErrors
  refine catching_total fun e he => ?_
  cases hfields : validateRawFields raw with
  | error e' =>
    rw [hfields] at he
    exact Or.inl (Except.error.inj he ▸ validateRawFields_raises raw e' hfields)
  | ok errors =>
    rw [hfields] at he
    by_cases h : errors ≠ []
    · exact absurd (he.symm.trans (if_pos h)) (by simp)
    · exact Or.inr (hdigests e ((if_neg h).symm.trans he))

/-! ### the comparison with the input -/

theorem Converts.echoes_iff {raw : List (PyStr × PyVal)} {r : PolicyEvaluationRecordArgs}
    (h : Converts raw r) (e : InputEchoes) :
    (∀ kv ∈ e.items, kv.2.asStr = (rawField raw kv.1).asStr) ↔ r.toInputEchoes = e := by
  simp only [InputEchoes.items, List.forall_mem_cons, List.not_mem_nil, false_imp_iff,
    implies_true, and_true, h.taskId, h.taskContractDigest, h.candidateDigest,
    h.repositorySnapshotDigest, h.verificationBundleDigest, h.approvalDigestOrSentinel.asStr,
    h.authorityBindingDigest, h.verifierBindingDigest, h.policyDigest, h.policyVersion,
    h.evaluatorVersion, h.evaluationMode, asStr_str, Option.some.injEq, StrEnum.value_inj.eq_iff]
  constructor
  · rintro ⟨e1, e2, e3, e4, e5, e6, e7, e8, e9, e10, e11, e12⟩
    exact (InputEchoes.ext e1 e2 e3 e4 e5 e6 e7 e8 e9 e10 e11 e12).symm
  · rintro rfl
    exact ⟨rfl, rfl, rfl, rfl, rfl, rfl, rfl, rfl, rfl, rfl, rfl, rfl⟩

/-- The comparison raises for a constructed input that repeats the record's fields and has no
digest, and for nothing else. -/
theorem bindingErrorsOf_ok_iff {raw : List (PyStr × PyVal)} {r : PolicyEvaluationRecordArgs}
    (h : Converts raw r) (c : InputObject rt) : (∃ errors, bindingErrorsOf raw c = .ok errors) ↔
      ¬ ∃ i, c = .typed i ∧ r.toInputEchoes = i.echoes ∧ ¬ EncodableIds i.facts := by
  cases c with
  | typed i =>
    show (∃ errors, validateInputBinding raw (.typed i) = .ok errors) ↔ _
    rw [validateInputBinding]
    split_ifs with hne
    · refine iff_of_true ⟨_, rfl⟩ ?_
      rintro ⟨i', hi, he, _⟩
      obtain rfl := InputObject.typed.inj hi
      obtain ⟨kv, hkv, hkv'⟩ := hne
      exact hkv' ((h.echoes_iff i.echoes).mpr he kv hkv)
    · have he : r.toInputEchoes = i.echoes :=
        (h.echoes_iff i.echoes).mp fun kv hkv => not_not.mp fun hkv' => hne ⟨kv, hkv, hkv'⟩
      simp only [bind_eq_ok]
      constructor
      · rintro ⟨errors, digest, hd, _⟩ ⟨i', hi, _, henc⟩
        obtain rfl := InputObject.typed.inj hi
        exact henc ((inputDigest_ok_iff i).mp ⟨digest, hd⟩)
      · intro hall
        have henc : EncodableIds i.facts := by
          by_contra henc
          exact hall ⟨i, rfl, he, henc⟩
        obtain ⟨digest, hd⟩ := (inputDigest_ok_iff i).mpr henc
        exact ⟨_, digest, hd, rfl⟩
  | other v =>
    refine iff_of_true ?_ (not_exists.mpr fun i h => absurd h.1 (by simp))
    have hdict : ∀ kvs, ∃ errors,
        @validateInputBinding rt raw (.other (.dict kvs)) = .ok errors := by
      intro kvs
      rw [validateInputBinding]
      cases strKeyItems kvs with
      | none => exact ⟨_, rfl⟩
      | some candidate =>
        dsimp only
        cases hd : canonicalDigest rt (.dict kvs) with
        | ok digest => exact ⟨_, rfl⟩
        | error e =>
          have hv := canonicalDigest_raises (.dict kvs) e hd
          exact ⟨_, if_pos (by rw [List.any_cons, List.any_cons, hv, Bool.true_or, Bool.or_true])⟩
    cases v with
    | dict kvs => exact hdict kvs
    | _ => exact ⟨_, rfl⟩

/-! ### main result -/

/-- The record has the committed fields, which convert to the sound `r`. -/
structure SoundRecord (record : RecordObject rt) (r : PolicyEvaluationRecordArgs) : Prop where
  parts : ∃ raw, rawRecordPayload record = some raw ∧
    setEq (raw.map Prod.fst) rawRecordFields = true ∧ Converts raw r
  sound : r.Sound rt

theorem soundRecord_typed (r : PolicyEvaluationRecord rt) :
    SoundRecord (.typed r) r.toPolicyEvaluationRecordArgs :=
  ⟨⟨r.rawItems, rfl, rawItems_setEq _, converts_rawItems _⟩,
    (PolicyEvaluationRecordArgs.valid_iff.mp r.valid).1⟩

/-- The keys of the record are distinct, as those of every dictionary are. -/
def RecordObject.KeysDistinct (record : RecordObject rt) : Prop :=
  ∀ raw, rawRecordPayload record = some raw → (raw.map Prod.fst).Nodup

/-- The shape of a result of a validator that fails closed. -/
structure ValidationResult.FailClosed (v : ValidationResult) : Prop where
  sorted : v.errors.Pairwise (· < ·)
  classified : v.classifications ≠ [] ↔ v.errors = []

theorem validationResult_failClosed (errors : List PyStr) :
    (validationResult errors).FailClosed := by
  refine ⟨sortedSet_strict errors, ?_⟩
  rw [validationResult_errors_nil]
  show (if errors = [] then _ else _) ≠ [] ↔ _
  split_ifs with h
  · exact iff_of_true (by simp) h
  · exact iff_of_false (by simp) h

theorem validateRecord_unsound {record : RecordObject rt} (hd : record.KeysDistinct)
    (h : ¬ ∃ r, SoundRecord record r) (c : InputObject rt) (u : PyVal) :
    ∃ errors, validatePolicyEvaluationRecord record c u = .ok (validationResult errors) := by
  unfold validatePolicyEvaluationRecord
  cases hraw : rawRecordPayload record with
  | none => exact ⟨_, rfl⟩
  | some raw =>
    dsimp only
    split_ifs with hset
    · exact ⟨_, rfl⟩
    obtain ⟨errors, herrors⟩ := @structuralErrors_total rt raw
    rw [herrors]
    by_cases he : errors ≠ []
    · exact ⟨errors, if_pos he⟩
    refine absurd ?_ h
    rw [not_not.mp he] at herrors
    have hset := Bool.eq_true_of_not_eq_false hset
    obtain ⟨hc, hs⟩ := (structuralErrors_nil (hd raw hraw) hset).mp herrors
    exact ⟨_, ⟨raw, hraw, hset, hc⟩, hs⟩

theorem validateRecord_of_sound {record : RecordObject rt} {r : PolicyEvaluationRecordArgs}
    (hd : record.KeysDistinct) (h : SoundRecord record r) (c : InputObject rt) (u : PyVal) :
    ∃ raw, Converts raw r ∧ validatePolicyEvaluationRecord record c u = (bindingErrorsOf raw c).map
      fun errors => validationResult (universeErrors raw u ++ errors) := by
  obtain ⟨⟨raw, hraw, hset, hc⟩, hs⟩ := h
  have herrors : structuralErrors rt raw = .ok [] :=
    (structuralErrors_nil (hd raw hraw) hset).mpr (hc.eq_ofRaw ▸ ⟨hc, hs⟩)
  exact ⟨raw, hc, validateRecord_sound hraw hset herrors c u⟩

/-- **Totality.**  The validator returns, and fails closed, unless the record is sound and the input
is a constructed one that has the record's fields but no digest. -/
theorem validatePolicyEvaluationRecord_total_iff (record : RecordObject rt)
    (hd : record.KeysDistinct) (c : InputObject rt) (u : PyVal) :
    (∃ v, validatePolicyEvaluationRecord record c u = .ok v ∧ v.FailClosed) ↔
      ¬ ∃ r i, SoundRecord record r ∧ c = .typed i ∧ r.toInputEchoes = i.echoes ∧
        ¬ EncodableIds i.facts := by
  by_cases hsound : ∃ r, SoundRecord record r
  · obtain ⟨r, hr⟩ := hsound
    obtain ⟨raw, hc, hv⟩ := validateRecord_of_sound hd hr c u
    have hiff : (∃ v, validatePolicyEvaluationRecord record c u = .ok v ∧ v.FailClosed) ↔
        ∃ errors, bindingErrorsOf raw c = .ok errors := by
      rw [hv]
      cases bindingErrorsOf raw c with
      | error e => exact iff_of_false (by simp [Except.map]) (by simp)
      | ok errors => exact iff_of_true ⟨_, rfl, validationResult_failClosed _⟩ ⟨_, rfl⟩
    rw [hiff, bindingErrorsOf_ok_iff hc]
    refine not_congr ?_
    constructor
    · rintro ⟨i, hi, he, henc⟩
      exact ⟨r, i, hr, hi, he, henc⟩
    · rintro ⟨r', i, hr', hi, he, henc⟩
      obtain ⟨⟨raw', hraw', _, hc'⟩, _⟩ := hr'
      obtain ⟨⟨raw'', hraw'', _, hc''⟩, _⟩ := hr
      obtain rfl := Option.some.inj (hraw'.symm.trans hraw'')
      rw [hc'.eq_ofRaw, ← hc''.eq_ofRaw] at he
      exact ⟨i, hi, he, henc⟩
  · obtain ⟨errors, hv⟩ := validateRecord_unsound hd hsound c u
    refine iff_of_true ⟨_, hv, validationResult_failClosed errors⟩ ?_
    rintro ⟨r, i, hr, _⟩
    exact hsound ⟨r, hr⟩

theorem keysDistinct_typed (r : PolicyEvaluationRecord rt) :
    RecordObject.KeysDistinct (.typed r) := by
  intro raw hraw
  rw [← Option.some.inj hraw, rawItems_keys]
  exact rawRecordFields_nodup

end

/-! ### an identifier that is a lone surrogate -/

def emptyCore : DecisionCoreArgs := { blankCore with rejectedEvidenceIds := [] }

theorem emptyCore_recordable : emptyCore.Recordable := by
  rw [recordable_iff]
  constructor
  · constructor <;> simp [emptyCore, blankCore, DecisionCoreArgs.expectedDisposition,
      partitionDisposition]
    all_goals exact ⟨fun x hx => absurd hx List.not_mem_nil, List.Pairwise.nil⟩
  · intro ids hids x hx
    simp only [emptyCore, blankCore, List.mem_cons, List.not_mem_nil, or_false, or_self] at hids
    rw [hids] at hx
    exact absurd hx List.not_mem_nil

def emptyRecord {rt : Runtime} (i : MergeEligibilityPolicyInput rt) : PolicyEvaluationRecord rt where
  toPolicyEvaluationRecordArgs :=
    derivedRecord rt ⟨i.echoes, emptyCore, policyRecordSchemaDigest rt⟩
  postInit_ok := by
    have hdigest := (digestConstant_ok rt (typedFieldContract_accepted rt)).2
    obtain ⟨haccountable, htoken⟩ := recordable_iff.mp emptyCore_recordable
    exact PolicyEvaluationRecordArgs.postInit_ok_iff.mpr (PolicyEvaluationRecordArgs.valid_iff.mpr
      ⟨@derivedRecord_sound rt ⟨i.echoes, emptyCore, _⟩ (echoes_valid i) hdigest haccountable
        emptyCore_recordable.accepted, htoken⟩)

theorem emptyRecord_raises {rt : Runtime} {i : MergeEligibilityPolicyInput rt}
    (henc : ¬ EncodableIds i.facts) (u : PyVal) (v : ValidationResult) :
    validatePolicyEvaluationRecord (.typed (emptyRecord i)) (.typed i) u ≠ .ok v := by
  intro h
  obtain ⟨raw, hc, hv⟩ := validateRecord_of_sound (keysDistinct_typed (emptyRecord i))
    (soundRecord_typed (emptyRecord i)) (.typed i) u
  rw [hv] at h
  refine (bindingErrorsOf_ok_iff hc (.typed i)).not.mpr (not_not.mpr ⟨i, rfl, rfl, henc⟩) ?_
  cases hb : bindingErrorsOf raw (.typed i) with
  | ok errors => exact ⟨errors, rfl⟩
  | error e =>
    rw [hb] at h
    exact absurd h (by simp [Except.map])

/-- The requirement U+D800 of the input has no UTF-8 form. -/
theorem validatePolicyEvaluationRecord_surrogate : ¬ ∃ v, validatePolicyEvaluationRecord
    (.typed (emptyRecord (inputRequiring [0xD800] (by decide) (by decide))))
    (.typed (inputRequiring [0xD800] (by decide) (by decide))) .none = .ok v ∧ v.FailClosed := by
  rintro ⟨v, hv, _⟩
  refine emptyRecord_raises (fun henc => ?_) .none v hv
  exact absurd (inputRequiring_encodable.mp henc) (by decide)

/-- For an input whose identifiers can be encoded the validator returns. -/
theorem validatePolicyEvaluationRecord_total_iff_composed : ∃ v, validatePolicyEvaluationRecord
    (.typed (emptyRecord composedInput)) (.typed composedInput) .none = .ok v ∧ v.FailClosed := by
  refine (validatePolicyEvaluationRecord_total_iff (.typed (emptyRecord composedInput))
    (keysDistinct_typed _) (.typed composedInput) .none).mpr ?_
  rintro ⟨r, i, _, hi, _, henc⟩
  rw [← InputObject.typed.inj hi] at henc
  exact henc composed_variant.encodable

end Tomtit
