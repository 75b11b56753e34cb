import TomtitAgent.BuildHarness.MergeEligibility.PolicyV1

/-!
# What the input digest binds

* `inputDigest_ok_iff`   an input has a digest exactly when its identifiers can be encoded;
* `inputDigest_eq_iff`   two inputs have one digest exactly when they agree up to the Unicode
  normal form of their identifiers (`identifiersNfc`), short of a collision;
* `NfcVariant`   two different inputs of that kind, which the digest does not tell apart.
-/

open Py

namespace Tomtit

section
variable (rt : Runtime)

/-- The facts with their identifiers in NFC. -/
def identifiersNfc (f : EligibilityFactsArgs) : EligibilityFactsArgs :=
  { f with
    requiredRequirementIds := f.requiredRequirementIds.map rt.nfc
    satisfiedRequirementIds := f.satisfiedRequirementIds.map rt.nfc
    invalidRequirementIds := f.invalidRequirementIds.map rt.nfc
    missingRequirementIds := f.missingRequirementIds.map rt.nfc
    rejectedEvidenceIds := f.rejectedEvidenceIds.map rt.nfc
    invalidProvenanceEvidenceIds := f.invalidProvenanceEvidenceIds.map rt.nfc
    unexpectedEvidenceIds := f.unexpectedEvidenceIds.map rt.nfc }

def EncodableIds (f : EligibilityFacts) : Prop := ∀ a ∈ f.setAttrs, ∀ x ∈ a.2, Encodable x

/-! ### the facts -/

theorem toJsonDict_keys (f f' : EligibilityFacts) :
    f.toJsonDict.map Prod.fst = f'.toJsonDict.map Prod.fst := rfl

theorem toJsonDict_ascii (f : EligibilityFacts) : ∀ k ∈ f.toJsonDict.map Prod.fst, Ascii k := by
  simp only [EligibilityFacts.toJsonDict, List.map_cons, List.map_nil, List.forall_mem_cons,
    List.not_mem_nil, false_imp_iff, implies_true, and_true]
  and_intros <;> exact ascii_lit _ (by decide)

theorem toJsonDict_nodup (f : EligibilityFacts) : (f.toJsonDict.map Prod.fst).Nodup := by
  simp [EligibilityFacts.toJsonDict]

theorem facts_accepted (f : EligibilityFacts) :
    Accepted rt (.record f.toJsonDict) ↔ EncodableIds f := by
  rw [accepted_record rt (toJsonDict_ascii f) (toJsonDict_nodup f)]
  simp only [EncodableIds, EligibilityFacts.toJsonDict, EligibilityFacts.setAttrs,
    List.forall_mem_cons, List.not_mem_nil, false_imp_iff, implies_true, and_true, accepted_value,
    accepted_strList, true_and]
  exact and_iff_right (encodable_values _)

theorem facts_norm_iff {f f' : EligibilityFacts} (ha : Accepted rt (.record f.toJsonDict)) :
    norm rt (.record f.toJsonDict) = norm rt (.record f'.toJsonDict) ↔
      identifiersNfc rt f.toEligibilityFactsArgs = identifiersNfc rt f'.toEligibilityFactsArgs := by
  rw [norm_record_iff rt (toJsonDict_keys f f') (toJsonDict_ascii f) ha]
  simp only [EligibilityFacts.toJsonDict, identifiersNfc, List.map_cons, List.map_nil,
    List.cons.injEq, and_true, norm_value_iff, norm_strList_iff, map_nfc_values_iff,
    EligibilityFactsArgs.mk.injEq]

end

/-! ### the input -/

section
variable {rt : Runtime}

theorem canonicalFields_ascii (i : MergeEligibilityPolicyInput rt) :
    ∀ k ∈ i.canonicalFields.map Prod.fst, Ascii k := by
  simp only [MergeEligibilityPolicyInput.canonicalFields, List.map_cons, List.map_nil,
    List.forall_mem_cons, List.not_mem_nil, false_imp_iff, implies_true, and_true]
  and_intros <;> exact ascii_lit _ (by decide)

theorem canonicalFields_nodup (i : MergeEligibilityPolicyInput rt) :
    (i.canonicalFields.map Prod.fst).Nodup := by
  simp [MergeEligibilityPolicyInput.canonicalFields]

/-- Every field of an input but the identifiers is an ASCII string. -/
structure AsciiFields (i : MergeEligibilityPolicyInputArgs) : Prop where
  taskId : Ascii i.taskId
  taskContractDigest : Ascii i.taskContractDigest
  candidateDigest : Ascii i.candidateDigest
  repositorySnapshotDigest : Ascii i.repositorySnapshotDigest
  verificationBundleDigest : Ascii i.verificationBundleDigest
  approvalDigestOrSentinel : Ascii i.approvalDigestOrSentinel
  authorityBindingDigest : Ascii i.authorityBindingDigest
  verifierBindingDigest : Ascii i.verifierBindingDigest
  policyDigest : Ascii i.policyDigest
  policyVersion : Ascii i.policyVersion
  evaluatorVersion : Ascii i.evaluatorVersion
  schemaVersion : Ascii i.policyRecordSchemaVersion
  schemaDigest : Ascii i.policyRecordSchemaDigest
  canonicalizationVersion : Ascii i.canonicalizationVersion
  contractDigest : Ascii i.canonicalizationContractDigest

theorem asciiFields (i : MergeEligibilityPolicyInput rt) :
    AsciiFields i.toMergeEligibilityPolicyInputArgs := by
  have hv := i.valid
  refine ⟨tokenGrammar_ascii hv.taskId, digestRe_ascii hv.taskContractDigest,
    digestRe_ascii hv.candidateDigest, digestRe_ascii hv.repositorySnapshotDigest,
    digestRe_ascii hv.verificationBundleDigest, ?_, digestRe_ascii hv.authorityBindingDigest,
    digestRe_ascii hv.verifierBindingDigest, digestRe_ascii hv.policyDigest,
    tokenGrammar_ascii hv.policyVersion, tokenGrammar_ascii hv.evaluatorVersion, ?_, ?_, ?_, ?_⟩
  · rcases hv.approvalDigestOrSentinel with h | h
    · rw [h]
      exact ascii_lit _ (by decide)
    · exact digestRe_ascii h
  · rw [hv.schemaVersion]
    exact ascii_lit _ (by decide)
  · rw [hv.schemaDigest]
    exact digestRe_ascii (digestConstant_ok rt (typedFieldContract_accepted rt)).2
  · rw [hv.canonicalizationVersion]
    exact ascii_lit _ (by decide)
  · rw [hv.contractDigest]
    exact digestRe_ascii (digestConstant_ok rt (canonicalizationContract_accepted rt)).2

theorem payload_accepted (i : MergeEligibilityPolicyInput rt) :
    Accepted rt i.toCanonicalPayload ↔ EncodableIds i.facts := by
  have h := asciiFields i
  have hkind : Ascii inputPayloadKind := ascii_lit _ (by decide)
  unfold MergeEligibilityPolicyInput.toCanonicalPayload
  rw [accepted_record rt (canonicalFields_ascii i) (canonicalFields_nodup i)]
  simp only [MergeEligibilityPolicyInput.canonicalFields, List.forall_mem_cons, List.not_mem_nil,
    false_imp_iff, implies_true, and_true, accepted_str, true_and, hkind.encodable,
    h.taskId.encodable, h.taskContractDigest.encodable, h.candidateDigest.encodable,
    h.repositorySnapshotDigest.encodable, h.verificationBundleDigest.encodable,
    h.approvalDigestOrSentinel.encodable, h.authorityBindingDigest.encodable,
    h.verifierBindingDigest.encodable, h.policyDigest.encodable, h.policyVersion.encodable,
    h.evaluatorVersion.encodable, h.schemaVersion.encodable, h.schemaDigest.encodable,
    h.canonicalizationVersion.encodable, h.contractDigest.encodable,
    (StrEnum.value_ascii i.evaluationMode).encodable]
  rw [← facts_accepted rt]
  unfold Accepted
  rw [norm_record_sortItems]

/-- An input has a digest exactly when its identifiers can be encoded. -/
theorem inputDigest_ok_iff (i : MergeEligibilityPolicyInput rt) :
    (∃ d, i.inputDigest = .ok d) ↔ EncodableIds i.facts := by
  rw [← payload_accepted]
  exact ⟨fun ⟨d, h⟩ => (accepted_of_digest rt h).1, fun h => (digest_of_accepted rt h).imp fun _ h => h.1⟩

/-- All fields agree, the identifiers up to their normal form. -/
structure SameUpToNfc (rt : Runtime) (i i' : MergeEligibilityPolicyInputArgs) : Prop where
  fields : { i with facts := i'.facts } = i'
  facts : identifiersNfc rt i.facts.toEligibilityFactsArgs =
    identifiersNfc rt i'.facts.toEligibilityFactsArgs

theorem payload_norm_iff {i i' : MergeEligibilityPolicyInput rt} (he : EncodableIds i.facts) :
    norm rt i.toCanonicalPayload = norm rt i'.toCanonicalPayload ↔
      SameUpToNfc rt i.toMergeEligibilityPolicyInputArgs i'.toMergeEligibilityPolicyInputArgs := by
  have h := asciiFields i
  have h' := asciiFields i'
  have ha := (payload_accepted i).mpr he
  unfold MergeEligibilityPolicyInput.toCanonicalPayload at ha ⊢
  have hkeys : i.canonicalFields.map Prod.fst = i'.canonicalFields.map Prod.fst := by
    simp only [MergeEligibilityPolicyInput.canonicalFields, List.map_cons, List.map_nil]
  rw [norm_record_iff rt hkeys (canonicalFields_ascii i) ha]
  simp only [MergeEligibilityPolicyInput.canonicalFields, List.map_cons, List.map_nil,
    List.cons.injEq, and_true, true_and, norm_record_sortItems, norm_value_iff,
    facts_norm_iff rt ((facts_accepted rt i.facts).mpr he),
    norm_str_ascii rt h.taskId h'.taskId,
    norm_str_ascii rt h.taskContractDigest h'.taskContractDigest,
    norm_str_ascii rt h.candidateDigest h'.candidateDigest,
    norm_str_ascii rt h.repositorySnapshotDigest h'.repositorySnapshotDigest,
    norm_str_ascii rt h.verificationBundleDigest h'.verificationBundleDigest,
    norm_str_ascii rt h.approvalDigestOrSentinel h'.approvalDigestOrSentinel,
    norm_str_ascii rt h.authorityBindingDigest h'.authorityBindingDigest,
    norm_str_ascii rt h.verifierBindingDigest h'.verifierBindingDigest,
    norm_str_ascii rt h.policyDigest h'.policyDigest,
    norm_str_ascii rt h.policyVersion h'.policyVersion,
    norm_str_ascii rt h.evaluatorVersion h'.evaluatorVersion,
    norm_str_ascii rt h.schemaVersion h'.schemaVersion,
    norm_str_ascii rt h.schemaDigest h'.schemaDigest,
    norm_str_ascii rt h.canonicalizationVersion h'.canonicalizationVersion,
    norm_str_ascii rt h.contractDigest h'.contractDigest]
  constructor
  · rintro ⟨h1, h2, h3, h4, h5, h6, h7, h8, h9, h10, h11, h12, h13, h14, h15, h16, hf⟩
    exact ⟨MergeEligibilityPolicyInputArgs.ext h1 h2 h3 h4 h5 h6 h7 h8 h9 h10 h11 h12 h13 h14 h15
      h16 rfl, hf⟩
  · rintro ⟨hfields, hf⟩
    obtain ⟨h1, h2, h3, h4, h5, h6, h7, h8, h9, h10, h11, h12, h13, h14, h15, h16, _⟩ :=
      MergeEligibilityPolicyInputArgs.ext_iff.mp hfields
    exact ⟨h1, h2, h3, h4, h5, h6, h7, h8, h9, h10, h11, h12, h13, h14, h15, h16, hf⟩

/-- Two inputs with digests have the same one when they agree up to the normal form of their
identifiers, and only then. -/
theorem inputDigest_eq_iff {i i' : MergeEligibilityPolicyInput rt}
    (hc : CollisionFree rt i.toCanonicalPayload i'.toCanonicalPayload) {d d' : PyStr}
    (h : i.inputDigest = .ok d) (h' : i'.inputDigest = .ok d') :
    d = d' ↔
      SameUpToNfc rt i.toMergeEligibilityPolicyInputArgs i'.toMergeEligibilityPolicyInputArgs := by
  rw [digest_eq_iff rt hc h h', payload_norm_iff ((inputDigest_ok_iff i).mp ⟨d, h⟩)]

/-- Different inputs with encodable identifiers that differ in the spelling of identifiers only:
each identifier has the normal form of the one in its place. -/
structure NfcVariant (i i' : MergeEligibilityPolicyInput rt) : Prop where
  same : SameUpToNfc rt i.toMergeEligibilityPolicyInputArgs i'.toMergeEligibilityPolicyInputArgs
  encodable : EncodableIds i.facts
  spelling : ∃ n xs ys, (n, xs) ∈ i.facts.setAttrs ∧ (n, ys) ∈ i'.facts.setAttrs ∧ xs ≠ ys

/-- Inputs that agree up to the normal form of their identifiers are equal when they spell the
identifiers in the same way. -/
theorem eq_of_sameUpToNfc {i i' : MergeEligibilityPolicyInput rt}
    (h : SameUpToNfc rt i.toMergeEligibilityPolicyInputArgs i'.toMergeEligibilityPolicyInputArgs)
    (hs : ∀ n xs ys, (n, xs) ∈ i.facts.setAttrs → (n, ys) ∈ i'.facts.setAttrs → xs = ys) :
    i = i' := by
  have hfacts : i.facts = i'.facts := by
    have hn := h.facts
    simp only [identifiersNfc, EligibilityFactsArgs.mk.injEq] at hn
    obtain ⟨h1, h2, h3, h4, h5, h6, h7, h8, h9, h10, h11, h12, _⟩ := hn
    simp only [EligibilityFacts.setAttrs, List.mem_cons, Prod.mk.injEq] at hs
    refine EligibilityFacts.ext h1 h2 h3 h4 h5 h6 h7 h8 h9 h10 h11 h12 ?_ ?_ ?_ ?_ ?_ ?_ ?_
    · exact hs (py "required_requirement_ids") _ _ (by simp) (by simp)
    · exact hs (py "satisfied_requirement_ids") _ _ (by simp) (by simp)
    · exact hs (py "invalid_requirement_ids") _ _ (by simp) (by simp)
    · exact hs (py "missing_requirement_ids") _ _ (by simp) (by simp)
    · exact hs (py "rejected_evidence_ids") _ _ (by simp) (by simp)
    · exact hs (py "invalid_provenance_evidence_ids") _ _ (by simp) (by simp)
    · exact hs (py "unexpected_evidence_ids") _ _ (by simp) (by simp)
  have hfields := h.fields
  rw [← hfacts] at hfields
  obtain ⟨args, hargs⟩ := i
  obtain ⟨args', hargs'⟩ := i'
  obtain rfl : args = args' := hfields
  rfl

/-- **What the input digest binds.**  Equal digests imply equal inputs for every pair of inputs
that is not an `NfcVariant`, and for no pair that is. -/
theorem inputDigest_binds_iff (i i' : MergeEligibilityPolicyInput rt)
    (hc : CollisionFree rt i.toCanonicalPayload i'.toCanonicalPayload) :
    (∀ d, i.inputDigest = .ok d → i'.inputDigest = .ok d → i = i') ↔ ¬ NfcVariant i i' := by
  constructor
  · rintro h ⟨hsame, henc, n, xs, ys, hx, hy, hne⟩
    obtain ⟨d, hd⟩ := (inputDigest_ok_iff i).mpr henc
    have hd' := (canonicalDigest_congr rt ((payload_norm_iff henc).mpr hsame) d).mp hd
    obtain rfl := h d hd hd'
    have hnd : (i.facts.setAttrs.map Prod.fst).Nodup := setFactFields_nodup
    have e := (assoc_of_mem hnd hx).symm.trans (assoc_of_mem hnd hy)
    exact hne (Option.some.inj e)
  · intro h d hd hd'
    have hsame := (inputDigest_eq_iff hc hd hd').mp rfl
    refine eq_of_sameUpToNfc hsame fun n xs ys hx hy => ?_
    by_contra hne
    exact h ⟨hsame, (inputDigest_ok_iff i).mp ⟨d, hd⟩, n, xs, ys, hx, hy, hne⟩

end

/-! ### two spellings of one identifier -/

/-- `é` as one code point, and as `e` with a combining accent. -/
def composedId : PyStr := [0xE9]
def decomposedId : PyStr := [0x65, 0x301]

theorem idSet_singleton {x : PyStr} (hne : x ≠ []) (hp : Printable x) : IdSet [x] :=
  ⟨fun y hy => by rw [List.mem_singleton.mp hy]; exact hne,
    fun y hy => by rw [List.mem_singleton.mp hy]; exact hp, List.pairwise_singleton _ _⟩

/-- The input whose only requirement is `x`, which is satisfied. -/
def inputRequiring (x : PyStr) (hne : x ≠ []) (hp : Printable x) :
    MergeEligibilityPolicyInput (small 4300) :=
  policyInputV1 (small 4300) (attestedFacts [x] (idSet_singleton hne hp) .attested .independent)

theorem inputRequiring_encodable {x : PyStr} {hne : x ≠ []} {hp : Printable x} :
    EncodableIds (inputRequiring x hne hp).facts ↔ Encodable x := by
  simp only [EncodableIds, EligibilityFacts.setAttrs, List.forall_mem_cons, inputRequiring,
    policyInputV1, attestedFacts, List.not_mem_nil, false_imp_iff, implies_true, and_true, and_self]

theorem inputRequiring_variant {x y : PyStr} {hx : x ≠ []} {hpx : Printable x} {hy : y ≠ []}
    {hpy : Printable y} (hnfc : (small 4300).nfc x = (small 4300).nfc y) (hne : x ≠ y)
    (he : Encodable x) : NfcVariant (inputRequiring x hx hpx) (inputRequiring y hy hpy) := by
  refine ⟨⟨?_, ?_⟩, inputRequiring_encodable.mpr he, py "required_requirement_ids", [x], [y],
    List.mem_cons_self, List.mem_cons_self, fun h => hne (List.singleton_inj.mp h)⟩
  · simp only [inputRequiring, policyInputV1]
  · simp only [identifiersNfc, inputRequiring, policyInputV1, attestedFacts, List.map_cons,
      List.map_nil, hnfc]

def composedInput : MergeEligibilityPolicyInput (small 4300) :=
  inputRequiring composedId (by decide) (by decide)

def decomposedInput : MergeEligibilityPolicyInput (small 4300) :=
  inputRequiring decomposedId (by decide) (by decide)

theorem composed_variant : NfcVariant composedInput decomposedInput :=
  inputRequiring_variant (by decide) (by decide) (by decide)

theorem composed_collisionFree : CollisionFree (small 4300) composedInput.toCanonicalPayload
    decomposedInput.toCanonicalPayload := by
  have hv := composed_variant
  intro b b' hb hb' _
  have h := (canonicalJsonBytes_congr (small 4300) ((payload_norm_iff hv.encodable).mpr hv.same) b).mp hb
  exact Except.ok.inj (h.symm.trans hb')

/-- Two different inputs with one digest: the requirement `é` in two spellings. -/
theorem inputDigest_composed : composedInput ≠ decomposedInput ∧
    ∃ d, composedInput.inputDigest = .ok d ∧ decomposedInput.inputDigest = .ok d := by
  have hv := composed_variant
  obtain ⟨d, hd⟩ := (inputDigest_ok_iff composedInput).mpr hv.encodable
  refine ⟨fun h => ?_, d, hd, ?_⟩
  · have h' : [composedId] = [decomposedId] :=
      congrArg (fun i : MergeEligibilityPolicyInput (small 4300) => i.facts.requiredRequirementIds) h
    exact absurd h' (by decide)
  · exact (canonicalDigest_congr (small 4300) ((payload_norm_iff hv.encodable).mpr hv.same) d).mp hd

theorem inputDigest_binds_iff_composed :
    ¬ ∀ d, composedInput.inputDigest = .ok d → decomposedInput.inputDigest = .ok d →
      composedInput = decomposedInput := fun h =>
  (inputDigest_binds_iff composedInput decomposedInput composed_collisionFree).mp h composed_variant

end Tomtit
