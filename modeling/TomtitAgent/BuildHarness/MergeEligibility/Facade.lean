import TomtitAgent.BuildHarness.MergeEligibility.PolicyV1
import TomtitAgent.BuildHarness.MergeEligibility.RecordValidation

/-!
# `merge_eligibility_facade.py`: the production policy from input to record

* `evaluateMergeEligibility`   evaluation under the production policy, decision and record;
* `TokenIds`   the identifiers that the record model admits;
* `evaluateMergeEligibility_accepted_iff`   the record is built, and accepted for its input, exactly
  on these.
-/

open Py

namespace Tomtit

section
variable {rt : Runtime}

def evaluateMergeEligibility (policyInput : MergeEligibilityPolicyInput rt) :
    Except PyExc (MergeEligibilityDecision rt × PolicyEvaluationRecord rt) := do
  let core ← evaluateDecisionCore policyInput (mergeEligibilityPolicyV1 rt)
  let decision ← finalizeDecision policyInput core
  let record ← buildPolicyEvaluationRecord policyInput decision
  return (decision, record)

/-- Every identifier of the facts is a token of the record model. -/
def TokenIds (f : EligibilityFacts) : Prop :=
  ∀ ids ∈ f.setAttrs, ∀ x ∈ ids.2, tokenGrammar x = true

/-! ### the core of the production policy -/

theorem codesV1_known : ∀ r ∈ reasonDefinitionsV1, r.code ∈ knownReasonCodes := by
  simp only [reasonDefinitionsV1, List.forall_mem_cons, List.not_mem_nil, false_imp_iff,
    implies_true, and_true]
  simp only [knownReasonCodes, List.mem_cons, true_or, or_true, and_self]

theorem triggered_known {f : EligibilityFacts} {c : PyStr}
    (h : Triggered f (mergeEligibilityPolicyV1 rt) c) : c ∈ knownReasonCodes := by
  obtain ⟨reasons, _, hmem, hcodes⟩ := collectedReasons_ok f (mergeEligibilityPolicyV1 rt)
  have hc : c ∈ (mergeEligibilityPolicyV1Args rt).codes := hcodes c ((hmem c).mpr h)
  rw [codesV1] at hc
  obtain ⟨r, hr, rfl⟩ := List.mem_map.mp hc
  exact codesV1_known r hr

theorem IdSet.tokenSet {xs : List PyStr} (h : IdSet xs) (ht : ∀ x ∈ xs, tokenGrammar x = true) :
    TokenSet xs := ⟨ht, h.strict⟩

theorem tokenIds_iff {f : EligibilityFacts} : TokenIds f ↔ TokenSet f.requiredRequirementIds ∧
    TokenSet f.satisfiedRequirementIds ∧ TokenSet f.invalidRequirementIds ∧
    TokenSet f.missingRequirementIds ∧ TokenSet f.rejectedEvidenceIds ∧
    TokenSet f.invalidProvenanceEvidenceIds ∧ TokenSet f.unexpectedEvidenceIds := by
  have hv := f.valid
  unfold TokenIds
  simp only [EligibilityFacts.setAttrs, List.forall_mem_cons, List.not_mem_nil, false_imp_iff,
    implies_true, and_true]
  constructor
  · rintro ⟨h1, h2, h3, h4, h5, h6, h7⟩
    exact ⟨hv.required.tokenSet h1, hv.satisfied.tokenSet h2, hv.invalid.tokenSet h3,
      hv.missing.tokenSet h4, hv.rejected.tokenSet h5, hv.invalidProvenance.tokenSet h6,
      hv.unexpected.tokenSet h7⟩
  · rintro ⟨h1, h2, h3, h4, h5, h6, h7⟩
    exact ⟨h1.token, h2.token, h3.token, h4.token, h5.token, h6.token, h7.token⟩

theorem tokenIds_encodable {f : EligibilityFacts} (h : TokenIds f) : EncodableIds f :=
  fun ids hids x hx => (tokenGrammar_ascii (h ids hids x hx)).encodable

theorem coreMatchesInput_of_spec {i : MergeEligibilityPolicyInput rt} {p : MergeEligibilityPolicy rt}
    {core : DecisionCore} (h : CoreSpec i p core) : coreMatchesInput i core.toDecisionCoreArgs :=
  ⟨h.required.symm, h.satisfied.symm, h.invalid.symm, h.missing.symm, h.rejected.symm,
    h.invalidProvenance.symm, h.unexpected.symm⟩

theorem coreV1_recordable {i : MergeEligibilityPolicyInput rt} {core : DecisionCore}
    (h : CoreSpec i (mergeEligibilityPolicyV1 rt) core) : core.Recordable ↔ TokenIds i.facts := by
  have hv := core.valid
  have hf := i.facts.valid
  rw [tokenIds_iff, ← h.required, ← h.satisfied, ← h.invalid, ← h.missing, ← h.rejected,
    ← h.invalidProvenance, ← h.unexpected]
  constructor
  · intro hr
    exact ⟨hr.required, hr.satisfied, hr.invalid, hr.missing, hr.rejected, hr.invalidProvenance,
      hr.unexpected⟩
  · rintro ⟨h1, h2, h3, h4, h5, h6, h7⟩
    refine ⟨⟨fun c hc => triggered_known ((h.complete_mem c).mp hc), h.complete_sorted⟩,
      ⟨fun c hc => triggered_known ((h.blocking_mem c).mp hc).1, h.blocking_sorted⟩,
      ⟨fun c hc => triggered_known ((h.review_mem c).mp hc).1, h.review_sorted⟩, h1, h2, h3, h4, h5,
      h6, h7, hv.disjoint, hv.covers, ⟨hv.primary_none, fun hnil => ?_⟩, hv.primary_mem,
      hv.disposition, ?_, ?_, ?_, ?_⟩
    · refine h.primary_none.mpr fun c hc => ?_
      have hmem := (h.complete_mem c).mpr hc
      rw [hnil] at hmem
      exact List.not_mem_nil hmem
    · rw [h.required, h.satisfied, h.invalid, h.missing]
      exact hf.partition
    · rw [h.satisfied, h.invalid]
      exact hf.satisfied_invalid
    · rw [h.satisfied, h.missing]
      exact hf.satisfied_missing
    · rw [h.invalid, h.missing]
      exact hf.invalid_missing

/-! ### main result -/

/-- What a returned pair is: the core of the production policy in the decision and in the record,
both bound to the input. -/
theorem evaluateMergeEligibility_eq_ok {i : MergeEligibilityPolicyInput rt}
    {d : MergeEligibilityDecision rt} {r : PolicyEvaluationRecord rt} :
    evaluateMergeEligibility i = .ok (d, r) ↔
      ∃ core, evaluateDecisionCore i (mergeEligibilityPolicyV1 rt) = .ok core ∧
        finalizeDecision i core = .ok d ∧ buildPolicyEvaluationRecord i d = .ok r := by
  unfold evaluateMergeEligibility
  simp only [bind_eq_ok, pure, Except.pure, Except.ok.injEq, Prod.mk.injEq]
  constructor
  · rintro ⟨core, hc, d', hd, r', hr, rfl, rfl⟩
    exact ⟨core, hc, hd, hr⟩
  · rintro ⟨core, hc, hd, hr⟩
    exact ⟨core, hc, d, hd, r, hr, rfl, rfl⟩

theorem evaluateMergeEligibility_ok_iff (i : MergeEligibilityPolicyInput rt) :
    (∃ d r, evaluateMergeEligibility i = .ok (d, r)) ↔ TokenIds i.facts := by
  obtain ⟨core, hok, hspec⟩ := evaluateDecisionCore_ok i (mergeEligibilityPolicyV1 rt)
    fun c _ => dispositionV1_ne_eligible c
  simp only [evaluateMergeEligibility_eq_ok]
  constructor
  · rintro ⟨d, r, core', hok', hd, _⟩
    rw [hok] at hok'
    obtain rfl := Except.ok.inj hok'
    exact (coreV1_recordable hspec).mp (exists_finalizeDecision_iff.mp ⟨d, hd⟩).2.2
  · intro ht
    obtain ⟨d, hd⟩ := exists_finalizeDecision_iff.mpr ⟨coreMatchesInput_of_spec hspec,
      tokenIds_encodable ht, (coreV1_recordable hspec).mpr ht⟩
    obtain ⟨_, hi, he, _⟩ := finalizeDecision_ok_iff.mp hd
    obtain ⟨r, hr⟩ := exists_buildPolicyEvaluationRecord hi he
    exact ⟨d, r, core, hok, hd, hr⟩

theorem evaluateMergeEligibility_accepted {i : MergeEligibilityPolicyInput rt}
    {d : MergeEligibilityDecision rt} {r : PolicyEvaluationRecord rt}
    (h : evaluateMergeEligibility i = .ok (d, r)) :
    ∃ v, validatePolicyEvaluationRecord (.typed r) (.typed i) .none = .ok v ∧ v.errors = [] := by
  obtain ⟨_, _, _, hr⟩ := evaluateMergeEligibility_eq_ok.mp h
  obtain ⟨hi, he, hd⟩ := buildPolicyEvaluationRecord_ok_iff.mp hr
  rw [validateRecord_input, hd]
  exact ⟨he, hi⟩

/-- **The facade.**  A pair is returned, and its record is accepted for the input, exactly when
every identifier of the facts is a token of the record model. -/
theorem evaluateMergeEligibility_accepted_iff (i : MergeEligibilityPolicyInput rt) :
    (∃ d r, evaluateMergeEligibility i = .ok (d, r) ∧
      ∃ v, validatePolicyEvaluationRecord (.typed r) (.typed i) .none = .ok v ∧ v.errors = []) ↔
      TokenIds i.facts := by
  rw [← evaluateMergeEligibility_ok_iff]
  constructor
  · rintro ⟨d, r, h, _⟩
    exact ⟨d, r, h⟩
  · rintro ⟨d, r, h⟩
    exact ⟨d, r, h, evaluateMergeEligibility_accepted h⟩

end

/-! ### an identifier with a blank -/

/-- `"a b"` is an identifier of the facts model and no token of the record model. -/
theorem evaluateMergeEligibility_blank : ¬ ∃ pair, evaluateMergeEligibility
    (inputRequiring [97, 32, 98] (by decide) (by decide)) = .ok pair := by
  rintro ⟨pair, h⟩
  have ht := (evaluateMergeEligibility_ok_iff _).mp ⟨pair.1, pair.2, h⟩
  have hblank := ht (py "required_requirement_ids", [[97, 32, 98]]) List.mem_cons_self [97, 32, 98]
    (List.mem_singleton_self _)
  exact absurd hblank (by decide)

end Tomtit
