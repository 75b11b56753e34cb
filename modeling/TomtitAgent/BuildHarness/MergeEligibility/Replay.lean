import TomtitAgent.BuildHarness.MergeEligibility.DecisionDigest
import TomtitAgent.BuildHarness.MergeEligibility.Facade

/-!
# `merge_eligibility_replay.py`: registries and semantic replay

* `PolicyRegistry`, `EvaluatorRegistry`   the entries that the constructors accept, in order;
* `verifySemanticReplay`   validation, exact resolution, recomputation and comparison;
* `verifySemanticReplay_verified_iff`   the verdict VERIFIED stands for equality with the recomputed
  record.

An evaluator is any function of an input and a policy; it returns a core or raises.
-/

open Py

namespace Tomtit

def registryConstructionError (msg : PyStr) : PyExc :=
  ⟨["RegistryConstructionError", "ValueError"], msg⟩

section
variable (rt : Runtime)

/-! ### registries -/

instance : DecidableEq (PolicyIdentity rt) := fun a b =>
  decidable_of_iff (a.toPolicyIdentityArgs = b.toPolicyIdentityArgs) ⟨fun h => by
    obtain ⟨a, _⟩ := a
    obtain ⟨b, _⟩ := b
    obtain rfl := h
    rfl, fun h => by rw [h]⟩

abbrev CoreEvaluator := MergeEligibilityPolicyInput rt → MergeEligibilityPolicy rt →
  Except PyExc DecisionCore

/-- The loop of `PolicyRegistry.__post_init__`; `built` is in the order of insertion. -/
def buildPolicyEntries (built : List (PolicyIdentity rt × MergeEligibilityPolicy rt)) :
    List (PolicyIdentity rt × MergeEligibilityPolicy rt) →
    Except PyExc (List (PolicyIdentity rt × MergeEligibilityPolicy rt))
  | [] => .ok built
  | (key, policy) :: rest =>
    if key ≠ policy.declaredIdentity then .error (registryConstructionError
      (py "policy registry key must equal declared policy identity"))
    else if key ∈ built.map Prod.fst then
      .error (registryConstructionError (py "duplicate policy identity"))
    else buildPolicyEntries (built ++ [(key, policy)]) rest

/-- `sorted(..., key=lambda item: (item[0].policy_version, item[0].policy_digest))` -/
def sortPolicyEntries (entries : List (PolicyIdentity rt × MergeEligibilityPolicy rt)) :
    List (PolicyIdentity rt × MergeEligibilityPolicy rt) :=
  entries.insertionSort fun a b => toLex (a.1.policyVersion, a.1.policyDigest) ≤
    toLex (b.1.policyVersion, b.1.policyDigest)

structure PolicyRegistry where
  source : List (PolicyIdentity rt × MergeEligibilityPolicy rt)
  entries : List (PolicyIdentity rt × MergeEligibilityPolicy rt)
  postInit_ok : (buildPolicyEntries rt [] source).map (sortPolicyEntries rt) = .ok entries

structure EvaluatorIdentityArgs where
  evaluatorVersion : PyStr

def EvaluatorIdentityArgs.postInit (e : EvaluatorIdentityArgs) : Except PyExc Unit :=
  requireVersion rt (py "evaluator_version") e.evaluatorVersion

/-- The loop of `EvaluatorRegistry.__post_init__`. -/
def buildEvaluatorEntries (built : List (PyStr × CoreEvaluator rt)) :
    List (PyStr × CoreEvaluator rt) → Except PyExc (List (PyStr × CoreEvaluator rt))
  | [] => .ok built
  | (key, evaluator) :: rest =>
    match (EvaluatorIdentityArgs.mk key).postInit rt with
    | .error _ => .error (registryConstructionError (py "invalid evaluator identity"))
    | .ok () =>
      if key ∈ built.map Prod.fst then
        .error (registryConstructionError (py "duplicate evaluator identity"))
      else buildEvaluatorEntries (built ++ [(key, evaluator)]) rest

structure EvaluatorRegistry where
  source : List (PyStr × CoreEvaluator rt)
  entries : List (PyStr × CoreEvaluator rt)
  postInit_ok : (buildEvaluatorEntries rt [] source).map sortItems = .ok entries

variable {rt}

def PolicyRegistry.resolve (r : PolicyRegistry rt) (identity : PolicyIdentity rt) :
    Option (MergeEligibilityPolicy rt) := assoc r.entries identity

def PolicyRegistry.hasVersion (r : PolicyRegistry rt) (policyVersion : PyStr) : Bool :=
  r.entries.any fun e => e.1.policyVersion = policyVersion

def EvaluatorRegistry.resolve (r : EvaluatorRegistry rt) (evaluatorVersion : PyStr) :
    Option (CoreEvaluator rt) := assoc r.entries evaluatorVersion

/-! ### results -/

inductive ReplayClassification
  | recordStructurallyInvalid
  | inputBindingMismatch
  | unknownPolicyIdentity
  | unknownEvaluatorIdentity
  | semanticReplayMismatch
  | semanticallyReplayVerified
deriving DecidableEq

structure SemanticReplayResult where
  classification : ReplayClassification
  mismatchCodes : List PyStr
  diagnostics : List PyStr
  recordStructurallyValid : Bool
  policyIdentityResolved : Bool
  evaluatorIdentityResolved : Bool
  semanticReplayPerformed : Bool
  decisionIdentityMatches : Bool
  recordIdentityMatches : Bool
  mismatchCodes_sorted : mismatchCodes.Pairwise (· < ·)
  diagnostics_sorted : diagnostics.Pairwise (· < ·)

/-- `_SLICE_1B_LIMIT_DIAGNOSTICS` -/
def slice1BLimitDiagnostics : List PyStr :=
  [py "NOT_VERIFIED_IN_SLICE_1B:FACTS_VS_REALITY",
   py "NOT_VERIFIED_IN_SLICE_1B:IDENTIFIER_UNIVERSE_TRUTH",
   py "NOT_VERIFIED_IN_SLICE_1B:POLICY_ARTIFACT_PROVENANCE",
   py "NOT_VERIFIED_IN_SLICE_1B:SOURCE_BINDING_AUTHENTICITY"]

/-- `_result(...)` before any resolution. -/
def replayResult (classification : ReplayClassification) (diagnostics : List PyStr)
    (recordStructurallyValid policyIdentityResolved : Bool) : SemanticReplayResult where
  classification := classification
  mismatchCodes := []
  diagnostics := sortedSet (slice1BLimitDiagnostics ++ diagnostics)
  recordStructurallyValid := recordStructurallyValid
  policyIdentityResolved := policyIdentityResolved
  evaluatorIdentityResolved := false
  semanticReplayPerformed := false
  decisionIdentityMatches := false
  recordIdentityMatches := false
  mismatchCodes_sorted := List.Pairwise.nil
  diagnostics_sorted := sortedSet_strict _

/-- `_result(...)` of a replay that was performed. -/
def replayedResult (classification : ReplayClassification) (mismatchCodes : List PyStr)
    (decisionIdentityMatches recordIdentityMatches : Bool) : SemanticReplayResult where
  classification := classification
  mismatchCodes := sortedSet mismatchCodes
  diagnostics := sortedSet slice1BLimitDiagnostics
  recordStructurallyValid := true
  policyIdentityResolved := true
  evaluatorIdentityResolved := true
  semanticReplayPerformed := true
  decisionIdentityMatches := decisionIdentityMatches
  recordIdentityMatches := recordIdentityMatches
  mismatchCodes_sorted := sortedSet_strict _
  diagnostics_sorted := sortedSet_strict _

/-- `_mismatch_codes(replayed, stored)` -/
def mismatchCodes (replayed stored : PolicyEvaluationRecordArgs) : List PyStr :=
  sortedSet (errorIf (replayed.disposition ≠ stored.disposition) (py "DISPOSITION_MISMATCH") ++
    errorIf (replayed.primaryReasonCode ≠ stored.primaryReasonCode)
      (py "PRIMARY_REASON_MISMATCH") ++
    errorIf (replayed.completeReasonCodes ≠ stored.completeReasonCodes)
      (py "REASON_SET_MISMATCH") ++
    errorIf (replayed.blockingReasonCodes ≠ stored.blockingReasonCodes ∨
      replayed.reviewReasonCodes ≠ stored.reviewReasonCodes) (py "PARTITION_MISMATCH") ++
    errorIf (replayed.requiredRequirementIds ≠ stored.requiredRequirementIds ∨
      replayed.satisfiedRequirementIds ≠ stored.satisfiedRequirementIds ∨
      replayed.invalidRequirementIds ≠ stored.invalidRequirementIds ∨
      replayed.missingRequirementIds ≠ stored.missingRequirementIds ∨
      replayed.rejectedEvidenceIds ≠ stored.rejectedEvidenceIds ∨
      replayed.invalidProvenanceEvidenceIds ≠ stored.invalidProvenanceEvidenceIds ∨
      replayed.unexpectedEvidenceIds ≠ stored.unexpectedEvidenceIds)
      (py "ACCOUNTING_MISMATCH") ++
    errorIf (replayed.decisionDigest ≠ stored.decisionDigest) (py "DECISION_DIGEST_MISMATCH") ++
    errorIf (replayed.policyRecordDigest ≠ stored.policyRecordDigest)
      (py "RECORD_DIGEST_MISMATCH"))

/-! ### replay -/

/-- `PolicyIdentity(policy_version, policy_digest)` -/
def PolicyIdentity.construct (rt : Runtime) (p : PolicyIdentityArgs) :
    Except PyExc (PolicyIdentity rt) :=
  match h : p.postInit rt with
  | .ok () => .ok ⟨p, h⟩
  | .error e => .error e

def compareReplayed (record : PolicyEvaluationRecord rt)
    (replayedDecision : MergeEligibilityDecision rt) (replayedRecord : PolicyEvaluationRecord rt) :
    SemanticReplayResult :=
  let mismatches := mismatchCodes replayedRecord.toPolicyEvaluationRecordArgs
    record.toPolicyEvaluationRecordArgs
  if mismatches ≠ [] then replayedResult .semanticReplayMismatch mismatches
    (replayedDecision.decisionDigest = record.decisionDigest)
    (replayedRecord.policyRecordDigest = record.policyRecordDigest)
  else replayedResult .semanticallyReplayVerified [] true true

/-- The part of `verify_semantic_replay` after the structural and the binding validation. -/
def replayResolved (canonicalInput : MergeEligibilityPolicyInput rt)
    (record : PolicyEvaluationRecord rt) (policyRegistry : PolicyRegistry rt)
    (evaluatorRegistry : EvaluatorRegistry rt) : Except PyExc SemanticReplayResult := do
  let policyIdentity ← PolicyIdentity.construct rt ⟨record.policyVersion, record.policyDigest⟩
  match policyRegistry.resolve policyIdentity with
  | none => .ok (replayResult .unknownPolicyIdentity
      (if policyRegistry.hasVersion policyIdentity.policyVersion then
        [py "POLICY_DIGEST_MISMATCH"] else []) true false)
  | some policy => match evaluatorRegistry.resolve record.evaluatorVersion with
    | none => .ok (replayResult .unknownEvaluatorIdentity [] true true)
    | some evaluator => do
      let core ← evaluator canonicalInput policy
      let replayedDecision ← finalizeDecision canonicalInput core
      let replayedRecord ← buildPolicyEvaluationRecord canonicalInput replayedDecision
      return compareReplayed record replayedDecision replayedRecord

def verifySemanticReplay (canonicalInput : MergeEligibilityPolicyInput rt)
    (record : PolicyEvaluationRecord rt) (policyRegistry : PolicyRegistry rt)
    (evaluatorRegistry : EvaluatorRegistry rt) : Except PyExc SemanticReplayResult := do
  let structural ← validatePolicyEvaluationRecord (.typed record) (.other .none) .none
  if structural.errors ≠ [] then
    .ok (replayResult .recordStructurallyInvalid structural.errors false false)
  else do
    let binding ← validatePolicyEvaluationRecord (.typed record) (.typed canonicalInput) .none
    if binding.errors ≠ [] then
      .ok (replayResult .inputBindingMismatch binding.errors true false)
    else replayResolved canonicalInput record policyRegistry evaluatorRegistry

/-- The core that the registries compute from the input under the identities of the record. -/
def ReplaysTo (canonicalInput : MergeEligibilityPolicyInput rt) (record : PolicyEvaluationRecord rt)
    (policyRegistry : PolicyRegistry rt) (evaluatorRegistry : EvaluatorRegistry rt)
    (core : DecisionCore) : Prop :=
  ∃ identity policy evaluator,
    identity.toPolicyIdentityArgs = ⟨record.policyVersion, record.policyDigest⟩ ∧
    policyRegistry.resolve identity = some policy ∧
    evaluatorRegistry.resolve record.evaluatorVersion = some evaluator ∧
    evaluator canonicalInput policy = .ok core

/-! ### what the registries hold -/

/-! ### what the verdict stands for -/

theorem PolicyIdentity.construct_eq_ok {p : PolicyIdentityArgs} {identity : PolicyIdentity rt} :
    PolicyIdentity.construct rt p = .ok identity ↔ identity.toPolicyIdentityArgs = p := by
  unfold construct
  constructor
  · intro h
    split at h
    · rw [← Except.ok.inj h]
    · exact absurd h (by simp)
  · rintro rfl
    split
    · rfl
    · next e he =>
      rw [identity.postInit_ok] at he
      exact absurd he (by simp)

theorem mismatchCodes_eq_nil {replayed stored : PolicyEvaluationRecordArgs}
    (h : mismatchCodes replayed stored = []) : replayed.decisionDigest = stored.decisionDigest := by
  by_contra hne
  have hmem : py "DECISION_DIGEST_MISMATCH" ∈ mismatchCodes replayed stored := by
    unfold mismatchCodes
    rw [mem_sortedSet, List.mem_append, List.mem_append]
    refine Or.inl (Or.inr ?_)
    rw [errorIf, if_pos hne]
    exact List.mem_singleton_self _
  rw [h] at hmem
  exact List.not_mem_nil hmem

theorem mismatchCodes_self (r : PolicyEvaluationRecordArgs) : mismatchCodes r r = [] := by
  unfold mismatchCodes
  simp only [ne_eq, not_true_eq_false, or_self, errorIf, if_false, List.append_nil]
  rfl

theorem compareReplayed_verified {record replayed : PolicyEvaluationRecord rt}
    {decision : MergeEligibilityDecision rt} :
    (compareReplayed record decision replayed).classification = .semanticallyReplayVerified ↔
      mismatchCodes replayed.toPolicyEvaluationRecordArgs record.toPolicyEvaluationRecordArgs =
        [] := by
  unfold compareReplayed
  dsimp only
  split
  · next h => exact iff_of_false (fun h => ReplayClassification.noConfusion h) h
  · next h => exact iff_of_true rfl (not_not.mp h)

variable {i : MergeEligibilityPolicyInput rt} {record : PolicyEvaluationRecord rt}
  {policies : PolicyRegistry rt} {evaluators : EvaluatorRegistry rt}

theorem replayResolved_verified :
    (∃ result, replayResolved i record policies evaluators = .ok result ∧
      result.classification = .semanticallyReplayVerified) ↔
      ∃ core, ReplaysTo i record policies evaluators core ∧
        ∃ replayed, recordOf i core = .ok replayed ∧
          mismatchCodes replayed.toPolicyEvaluationRecordArgs
            record.toPolicyEvaluationRecordArgs = [] := by
  unfold replayResolved
  constructor
  · rintro ⟨result, h, hv⟩
    obtain ⟨identity, hid, h⟩ := bind_eq_ok.mp h
    cases hp : policies.resolve identity with
    | none =>
      rw [hp] at h
      rw [← Except.ok.inj h] at hv
      exact ReplayClassification.noConfusion hv
    | some policy =>
      rw [hp] at h
      cases he : evaluators.resolve record.evaluatorVersion with
      | none =>
        rw [he] at h
        rw [← Except.ok.inj h] at hv
        exact ReplayClassification.noConfusion hv
      | some evaluator =>
        rw [he] at h
        obtain ⟨core, hcore, h⟩ := bind_eq_ok.mp h
        obtain ⟨decision, hd, h⟩ := bind_eq_ok.mp h
        obtain ⟨replayed, hr, h⟩ := bind_eq_ok.mp h
        rw [← Except.ok.inj h, compareReplayed_verified] at hv
        exact ⟨core, ⟨identity, policy, evaluator, PolicyIdentity.construct_eq_ok.mp hid, hp, he,
          hcore⟩, replayed, bind_eq_ok.mpr ⟨decision, hd, hr⟩, hv⟩
  · rintro ⟨core, ⟨identity, policy, evaluator, hid, hp, he, hcore⟩, replayed, hr, hm⟩
    obtain ⟨decision, hd, hr⟩ := bind_eq_ok.mp hr
    refine ⟨compareReplayed record decision replayed, ?_, compareReplayed_verified.mpr hm⟩
    rw [PolicyIdentity.construct_eq_ok.mpr hid]
    show (match policies.resolve identity with
      | none => _
      | some policy => _) = _
    rw [hp, he]
    show (evaluator i policy >>= fun core => finalizeDecision i core >>= _) = _
    rw [hcore]
    show (finalizeDecision i core >>= fun decision => buildPolicyEvaluationRecord i decision >>= _) =
      _
    rw [hd]
    show (buildPolicyEvaluationRecord i decision >>= _) = _
    rw [hr]
    rfl

theorem verifySemanticReplay_eq :
    verifySemanticReplay i record policies evaluators = (do
      let binding ← validatePolicyEvaluationRecord (.typed record) (.typed i) .none
      if binding.errors ≠ [] then
        .ok (replayResult .inputBindingMismatch binding.errors true false)
      else replayResolved i record policies evaluators) := by
  unfold verifySemanticReplay
  rw [validateRecord_alone]
  have hbind : ∀ f : ValidationResult → Except PyExc SemanticReplayResult,
      (Except.ok (validationResult []) >>= f) = f (validationResult []) := fun _ => rfl
  have hvalid : (validationResult []).errors = [] := rfl
  rw [hbind, if_neg (not_not_intro hvalid)]

theorem verifySemanticReplay_verified :
    (∃ result, verifySemanticReplay i record policies evaluators = .ok result ∧
      result.classification = .semanticallyReplayVerified) ↔
      (record.toInputEchoes = i.echoes ∧ i.inputDigest = .ok record.inputDigest) ∧
        ∃ result, replayResolved i record policies evaluators = .ok result ∧
          result.classification = .semanticallyReplayVerified := by
  rw [verifySemanticReplay_eq, ← validateRecord_input]
  constructor
  · rintro ⟨result, h, hv⟩
    obtain ⟨binding, hb, h⟩ := bind_eq_ok.mp h
    split_ifs at h with hne
    · rw [← Except.ok.inj h] at hv
      exact ReplayClassification.noConfusion hv
    · exact ⟨⟨binding, hb, not_not.mp hne⟩, result, h, hv⟩
  · rintro ⟨⟨binding, hb, hnil⟩, result, h, hv⟩
    refine ⟨result, bind_eq_ok.mpr ⟨binding, hb, ?_⟩, hv⟩
    rw [if_neg (not_not.mpr hnil)]
    exact h

theorem recordArgs_ext {r r' : PolicyEvaluationRecordArgs} (hv : r.Valid rt) (hv' : r'.Valid rt)
    (h : r.toDecisionIdentity = r'.toDecisionIdentity) : r = r' := by
  obtain ⟨⟨d, digest⟩, schema, recordDigest⟩ := r
  obtain ⟨⟨d', digest'⟩, schema', recordDigest'⟩ := r'
  obtain rfl : d = d' := h
  obtain rfl : schema = schema' := hv.schemaVersion.trans hv'.schemaVersion.symm
  have h1 : Except.ok digest = @Except.ok PyExc _ digest' :=
    hv.decision.decisionDigest.symm.trans hv'.decision.decisionDigest
  obtain rfl := Except.ok.inj h1
  have h2 : Except.ok recordDigest = @Except.ok PyExc _ recordDigest' :=
    hv.policyRecordDigest.symm.trans hv'.policyRecordDigest
  obtain rfl := Except.ok.inj h2
  rfl

theorem record_ext {r r' : PolicyEvaluationRecord rt}
    (h : r.toDecisionIdentity = r'.toDecisionIdentity) : r = r' := by
  have hargs := recordArgs_ext r.valid r'.valid h
  obtain ⟨r, hr⟩ := r
  obtain ⟨r', hr'⟩ := r'
  obtain rfl := hargs
  rfl

/-- **Semantic replay is sound and complete.**  Short of a SHA-256 collision with the recomputed
decision, the verdict is VERIFIED exactly when the identities of the record resolve and the record
is the one that is recomputed from the input. -/
theorem verifySemanticReplay_verified_iff (i : MergeEligibilityPolicyInput rt)
    (record : PolicyEvaluationRecord rt) (policies : PolicyRegistry rt)
    (evaluators : EvaluatorRegistry rt)
    (hsha : ∀ core decision, ReplaysTo i record policies evaluators core →
      finalizeDecision i core = .ok decision →
      CollisionFree rt (decisionPayload (record.toDecisionIdentity.items .strTuple))
        (decisionPayload (decision.toDecisionIdentity.items .strTuple))) :
    (∃ result, verifySemanticReplay i record policies evaluators = .ok result ∧
      result.classification = .semanticallyReplayVerified) ↔
      ∃ core, ReplaysTo i record policies evaluators core ∧ recordOf i core = .ok record := by
  rw [verifySemanticReplay_verified, replayResolved_verified]
  constructor
  · rintro ⟨_, core, hto, replayed, hr, hm⟩
    obtain ⟨decision, hd, hb⟩ := bind_eq_ok.mp hr
    obtain ⟨_, _, hargs⟩ := buildPolicyEvaluationRecord_ok_iff.mp hb
    have hdigest : record.decisionDigest = decision.decisionDigest :=
      (mismatchCodes_eq_nil hm).symm.trans (congrArg _ hargs)
    have hid := decisionIdentity_of_digest record.valid.decision decision.valid
      (hsha core decision hto hd) hdigest
    have hrec : replayed = record :=
      record_ext ((congrArg _ hargs).trans hid.symm)
    exact ⟨core, hto, hrec ▸ hr⟩
  · rintro ⟨core, hto, hr⟩
    obtain ⟨_, hi, he, _⟩ := recordOf_ok_iff.mp hr
    exact ⟨⟨he, hi⟩, core, hto, record, hr, mismatchCodes_self _⟩

end

/-! ### the production record replays -/

section
variable (rt : Runtime)

def policyRegistryV1 : PolicyRegistry rt where
  source := [((mergeEligibilityPolicyV1 rt).declaredIdentity, mergeEligibilityPolicyV1 rt)]
  entries := [((mergeEligibilityPolicyV1 rt).declaredIdentity, mergeEligibilityPolicyV1 rt)]
  postInit_ok := by
    rw [buildPolicyEntries, if_neg (not_not.mpr rfl), if_neg (by simp)]
    rfl

def evaluatorRegistryV1 : EvaluatorRegistry rt where
  source := [(py "v1", evaluateDecisionCore)]
  entries := [(py "v1", evaluateDecisionCore)]
  postInit_ok := by
    have hv : (EvaluatorIdentityArgs.mk (py "v1")).postInit rt = .ok () := by
      refine (requireToken_ok rt).mpr ?_
      rw [py_ofList]
      decide
    rw [buildEvaluatorEntries, hv]
    rfl

variable {rt}

theorem replaysTo_v1 {i : MergeEligibilityPolicyInput rt} {record : PolicyEvaluationRecord rt}
    {core : DecisionCore}
    (h : ReplaysTo i record (policyRegistryV1 rt) (evaluatorRegistryV1 rt) core) :
    evaluateDecisionCore i (mergeEligibilityPolicyV1 rt) = .ok core := by
  obtain ⟨identity, policy, evaluator, _, hp, he, hcore⟩ := h
  have hp := List.mem_singleton.mp (assoc_mem hp)
  have he := List.mem_singleton.mp (assoc_mem he)
  rw [(Prod.mk.inj hp).2, (Prod.mk.inj he).2] at hcore
  exact hcore

end

theorem verifySemanticReplay_verified_iff_production :
    ∃ decision record, evaluateMergeEligibility (policyInputV1 (small 4300)
        (attestedFacts [] idSet_nil .attested .independent)) = .ok (decision, record) ∧
      ∃ result, verifySemanticReplay (policyInputV1 (small 4300)
          (attestedFacts [] idSet_nil .attested .independent)) record
          (policyRegistryV1 (small 4300)) (evaluatorRegistryV1 (small 4300)) = .ok result ∧
        result.classification = .semanticallyReplayVerified := by
  have ht : TokenIds (attestedFacts [] idSet_nil .attested .independent) := by
    unfold TokenIds attestedFacts EligibilityFacts.setAttrs
    simp
  obtain ⟨decision, record, h⟩ := (evaluateMergeEligibility_ok_iff (policyInputV1 (small 4300)
    (attestedFacts [] idSet_nil .attested .independent))).mpr ht
  obtain ⟨core, hcore, hd, hr⟩ := evaluateMergeEligibility_eq_ok.mp h
  obtain ⟨_, he, hargs⟩ := buildPolicyEvaluationRecord_ok_iff.mp hr
  refine ⟨decision, record, h, (verifySemanticReplay_verified_iff _ record _ _ ?_).mpr
    ⟨core, ⟨(mergeEligibilityPolicyV1 (small 4300)).declaredIdentity, _, evaluateDecisionCore, ?_,
      ?_, ?_, hcore⟩, bind_eq_ok.mpr ⟨decision, hd, hr⟩⟩⟩
  · -- the recomputed decision is the recorded one
    intro core' decision' hto hd'
    obtain rfl := Except.ok.inj (hcore.symm.trans (replaysTo_v1 hto))
    obtain rfl := Except.ok.inj (hd.symm.trans hd')
    rw [hargs]
    intro bu bv hu hv _
    exact Except.ok.inj (hu.symm.trans hv)
  · rw [hargs, he]
    rfl
  · unfold PolicyRegistry.resolve policyRegistryV1
    rw [assoc_cons, if_pos rfl]
  · rw [hargs, he]
    unfold EvaluatorRegistry.resolve evaluatorRegistryV1
    rw [assoc_cons]
    exact if_pos rfl

end Tomtit
