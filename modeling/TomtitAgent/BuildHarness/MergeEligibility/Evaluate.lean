import TomtitAgent.BuildHarness.MergeEligibility.Policy

/-!
# `merge_eligibility.py`: the semantic evaluator

* `DecisionCore`   the decision result, with the checks of `__post_init__` and what they establish;
* `evaluateDecisionCore`   input facts and policy to a `DecisionCore`;
* `Triggered`   which reason codes the facts trigger under a policy, and `CoreSpec`, what a correct
  result is;
* `evaluateDecisionCore_spec`   the evaluator meets its specification for every policy: its only
  fault is a triggered reason whose disposition is ELIGIBLE.
-/

open Py

namespace Tomtit

/-! ### decision core -/

/-- The disposition that the two partitions stand for: the evaluator computes it and the
constructor of the core computes it again. -/
def partitionDisposition (blocking review : List PyStr) : Disposition :=
  if blocking ≠ [] then .block
  else if review ≠ [] then .reviewRequired
  else .eligibleToMergeUnderPolicy

@[ext] structure DecisionCoreArgs where
  disposition : Disposition
  decisionAuthority : DecisionAuthority
  primaryReasonCode : Option PyStr
  completeReasonCodes : List PyStr
  blockingReasonCodes : List PyStr
  reviewReasonCodes : List PyStr
  requiredRequirementIds : List PyStr
  satisfiedRequirementIds : List PyStr
  invalidRequirementIds : List PyStr
  missingRequirementIds : List PyStr
  rejectedEvidenceIds : List PyStr
  invalidProvenanceEvidenceIds : List PyStr
  unexpectedEvidenceIds : List PyStr

/-- The loop of `_require_sorted_unique_code_tuple_core`: entry `i` and those after it. -/
def requireCodeItems (field : PyStr) : Nat → List PyStr → Except PyExc Unit
  | _, [] => .ok ()
  | i, item :: rest => do
    raiseIf (item = []) (mergeEligibilityEvaluationError
      (py "DecisionCore." ++ field ++ py "[" ++ natText i ++ py "] must be a non-empty string"))
    requireCodeItems field (i + 1) rest

def requireSortedUniqueCodeTupleCore (field : PyStr) (value : List PyStr) : Except PyExc Unit := do
  requireCodeItems field 0 value
  raiseIf (value ≠ sorted value) (mergeEligibilityEvaluationError
    (py "DecisionCore." ++ field ++ py " must be lexicographically sorted"))
  raiseIf (distinct value = false) (mergeEligibilityEvaluationError
    (py "DecisionCore." ++ field ++ py " must not contain duplicate entries"))

structure CodeSet (xs : List PyStr) : Prop where
  ne_nil : ∀ x ∈ xs, x ≠ []
  strict : xs.Pairwise (· < ·)

theorem IdSet.codeSet {xs : List PyStr} (h : IdSet xs) : CodeSet xs := ⟨h.ne_nil, h.strict⟩

theorem requireCodeItems_ok {field : PyStr} {i : Nat} {xs : List PyStr} {u : Unit} :
    requireCodeItems field i xs = .ok u ↔ ∀ x ∈ xs, x ≠ [] := by
  induction xs generalizing i with
  | nil => exact iff_of_true rfl fun x hx => absurd hx List.not_mem_nil
  | cons x xs ih =>
    unfold requireCodeItems
    simp only [bind_eq_ok, raiseIf_eq_ok, exists_const, ih, List.forall_mem_cons, ne_eq]

theorem requireCodeTuple_ok {field : PyStr} {xs : List PyStr} {u : Unit} :
    requireSortedUniqueCodeTupleCore field xs = .ok u ↔ CodeSet xs := by
  unfold requireSortedUniqueCodeTupleCore
  simp only [bind_eq_ok, raiseIf_eq_ok, exists_const, requireCodeItems_ok, ne_eq, not_not,
    Bool.not_eq_false, strict_iff]
  exact ⟨fun h => ⟨h.1, h.2⟩, fun h => ⟨h.ne_nil, h.strict⟩⟩

namespace DecisionCoreArgs

def expectedDisposition (c : DecisionCoreArgs) : Disposition :=
  partitionDisposition c.blockingReasonCodes c.reviewReasonCodes

/-- The primary reason is a member of the complete set, or absent when that is empty. -/
def requirePrimary (complete : List PyStr) : Option PyStr → Except PyExc Unit
  | none => raiseIf (complete ≠ []) (mergeEligibilityEvaluationError
      (py ("DecisionCore.primary_reason_code may be None only when the complete reason set is " ++
        "empty")))
  | some code => do
    raiseIf (complete = []) (mergeEligibilityEvaluationError
      (py ("DecisionCore.primary_reason_code must be None when the complete reason set is " ++
        "empty")))
    raiseIf (code ∉ complete) (mergeEligibilityEvaluationError
      (py "DecisionCore.primary_reason_code must be a member of the complete reason set"))

/-- `DecisionCore.__post_init__` -/
def postInit (c : DecisionCoreArgs) : Except PyExc Unit := do
  requireSortedUniqueCodeTupleCore (py "complete_reason_codes") c.completeReasonCodes
  requireSortedUniqueCodeTupleCore (py "blocking_reason_codes") c.blockingReasonCodes
  requireSortedUniqueCodeTupleCore (py "review_reason_codes") c.reviewReasonCodes
  requireSortedUniqueCodeTupleCore (py "required_requirement_ids") c.requiredRequirementIds
  requireSortedUniqueCodeTupleCore (py "satisfied_requirement_ids") c.satisfiedRequirementIds
  requireSortedUniqueCodeTupleCore (py "invalid_requirement_ids") c.invalidRequirementIds
  requireSortedUniqueCodeTupleCore (py "missing_requirement_ids") c.missingRequirementIds
  requireSortedUniqueCodeTupleCore (py "rejected_evidence_ids") c.rejectedEvidenceIds
  requireSortedUniqueCodeTupleCore (py "invalid_provenance_evidence_ids")
    c.invalidProvenanceEvidenceIds
  requireSortedUniqueCodeTupleCore (py "unexpected_evidence_ids") c.unexpectedEvidenceIds
  raiseIf (disjoint c.blockingReasonCodes c.reviewReasonCodes = false)
    (mergeEligibilityEvaluationError
      (py "DecisionCore blocking and review partitions must be disjoint"))
  raiseIf (¬ (c.blockingReasonCodes ⊆ c.completeReasonCodes) ∨
      ¬ (c.reviewReasonCodes ⊆ c.completeReasonCodes))
    (mergeEligibilityEvaluationError
      (py "DecisionCore partitions must be subsets of the complete set"))
  raiseIf (setEq (c.blockingReasonCodes ++ c.reviewReasonCodes) c.completeReasonCodes = false)
    (mergeEligibilityEvaluationError (py ("DecisionCore blocking and review partitions must " ++
      "exactly cover the complete reason set")))
  requirePrimary c.completeReasonCodes c.primaryReasonCode
  raiseIf (c.disposition ≠ c.expectedDisposition) (mergeEligibilityEvaluationError
    (py "DecisionCore.disposition must be derived from the reason partitions (expected " ++
      StrEnum.value c.expectedDisposition ++ py ", got " ++ StrEnum.value c.disposition ++ py ")"))

structure Valid (c : DecisionCoreArgs) : Prop where
  complete : CodeSet c.completeReasonCodes
  blocking : CodeSet c.blockingReasonCodes
  review : CodeSet c.reviewReasonCodes
  required : CodeSet c.requiredRequirementIds
  satisfied : CodeSet c.satisfiedRequirementIds
  invalid : CodeSet c.invalidRequirementIds
  missing : CodeSet c.missingRequirementIds
  rejected : CodeSet c.rejectedEvidenceIds
  invalidProvenance : CodeSet c.invalidProvenanceEvidenceIds
  unexpected : CodeSet c.unexpectedEvidenceIds
  disjoint : ∀ code ∈ c.blockingReasonCodes, code ∉ c.reviewReasonCodes
  covers : ∀ code, code ∈ c.completeReasonCodes ↔
    code ∈ c.blockingReasonCodes ∨ code ∈ c.reviewReasonCodes
  primary_none : c.primaryReasonCode = none → c.completeReasonCodes = []
  primary_mem : ∀ code, c.primaryReasonCode = some code → code ∈ c.completeReasonCodes
  disposition : c.disposition = c.expectedDisposition

theorem requirePrimary_ok {complete : List PyStr} {primary : Option PyStr} {u : Unit} :
    requirePrimary complete primary = .ok u ↔
      (primary = none → complete = []) ∧ ∀ code, primary = some code → code ∈ complete := by
  unfold requirePrimary
  cases primary with
  | none => simp only [raiseIf_eq_ok, ne_eq, not_not, reduceCtorEq, false_imp_iff, implies_true,
      and_true, true_imp_iff]
  | some code =>
    simp only [bind_eq_ok, raiseIf_eq_ok, exists_const, not_not, reduceCtorEq, false_imp_iff,
      true_and, Option.some.injEq, forall_eq']
    exact ⟨fun h => h.2, fun h => ⟨List.ne_nil_of_mem h, h⟩⟩

theorem postInit_ok_iff {c : DecisionCoreArgs} {u : Unit} : c.postInit = .ok u ↔ c.Valid := by
  unfold postInit
  simp only [bind_eq_ok, exists_const, requireCodeTuple_ok, requirePrimary_ok, raiseIf_eq_ok,
    Bool.not_eq_false, disjoint_eq_true, setEq_iff, List.mem_append, not_or, not_not, ne_eq]
  constructor
  · rintro ⟨h1, h2, h3, h4, h5, h6, h7, h8, h9, h10, h11, _, h13, ⟨h14, h15⟩, h16⟩
    exact ⟨h1, h2, h3, h4, h5, h6, h7, h8, h9, h10, h11, fun code => (h13 code).symm, h14, h15, h16⟩
  · rintro ⟨h1, h2, h3, h4, h5, h6, h7, h8, h9, h10, h11, h13, h14, h15, h16⟩
    exact ⟨h1, h2, h3, h4, h5, h6, h7, h8, h9, h10, h11,
      ⟨fun code hc => (h13 code).mpr (Or.inl hc), fun code hc => (h13 code).mpr (Or.inr hc)⟩,
      fun code => (h13 code).symm, ⟨h14, h15⟩, h16⟩

end DecisionCoreArgs

/-- A decision core that the constructor accepted. -/
structure DecisionCore extends DecisionCoreArgs where
  postInit_ok : toDecisionCoreArgs.postInit = .ok ()

theorem DecisionCore.valid (c : DecisionCore) : c.Valid :=
  DecisionCoreArgs.postInit_ok_iff.mp c.postInit_ok

/-- `DecisionCore(...)` -/
def DecisionCore.construct (c : DecisionCoreArgs) : Except PyExc DecisionCore :=
  match h : c.postInit with
  | .ok () => .ok ⟨c, h⟩
  | .error e => .error e

theorem DecisionCore.construct_ok {c : DecisionCoreArgs} (h : c.postInit = .ok ()) :
    DecisionCore.construct c = .ok ⟨c, h⟩ := by
  unfold construct
  split
  · rfl
  · next e he => rw [h] at he; exact absurd he (by simp)

/-! ### evaluation -/

section
variable {rt : Runtime}

namespace MergeEligibilityPolicyArgs

/-- `disposition_by_code` -/
def dispositionByCode (p : MergeEligibilityPolicyArgs rt) (code : PyStr) : Option Disposition :=
  assoc (p.reasonDefinitions.map fun rd => (rd.code, rd.defaultDisposition)) code

/-- `rank_by_code` -/
def rankByCode (p : MergeEligibilityPolicyArgs rt) (code : PyStr) : Option Int :=
  assoc (p.reasonDefinitions.map fun rd => (rd.code, rd.precedenceRank)) code

end MergeEligibilityPolicyArgs

variable (rt) in
/-- The loop over the enum-fact mappings: the codes it adds. -/
def enumFactCodes (facts : EligibilityFacts) :
    List (PyStr × Dict PyStr (Option PyStr)) → Except PyExc (List PyStr)
  | [] => .ok []
  | (factName, valueMapping) :: rest =>
    match assoc facts.enumAttrs factName with
    | none => .error (attributeError factName)
    | some factValue => match valueMapping.get? factValue with
      | none => .error (keyError (reprStr rt factValue))
      | some code => do
        let codes ← enumFactCodes facts rest
        return code.toList ++ codes

def violationCodes (p : MergeEligibilityPolicy rt) :
    List EvidenceContextViolation → Except PyExc (List PyStr)
  | [] => .ok []
  | tag :: rest => match p.violationTagReasons.get? (StrEnum.value tag) with
    | none => .error (keyError (reprStr rt (StrEnum.value tag)))
    | some code => do
      let codes ← violationCodes p rest
      return code :: codes

def setFactCodes (facts : EligibilityFacts) :
    List (PyStr × Option PyStr) → Except PyExc (List PyStr)
  | [] => .ok []
  | (_, none) :: rest => setFactCodes facts rest
  | (factName, some code) :: rest => match assoc facts.setAttrs factName with
    | none => .error (attributeError factName)
    | some ids => do
      let codes ← setFactCodes facts rest
      return if ids.length > 0 then code :: codes else codes

/-- Steps 1 to 4 of the evaluator: every reason it collects. -/
def collectedReasons (facts : EligibilityFacts) (p : MergeEligibilityPolicy rt) :
    Except PyExc (List PyStr) := do
  let enumCodes ← enumFactCodes rt facts p.enumFactReasons.items
  let tagCodes ← violationCodes p facts.evidenceContextViolations
  let setCodes ← setFactCodes facts p.setFactTriggers.items
  let verifierCode ← p.resolveVerifierReason (StrEnum.value facts.verifierIdentityStatus)
    (StrEnum.value facts.verifierIndependenceStatus)
  return enumCodes ++ tagCodes ++ setCodes ++ verifierCode.toList

/-- The member of `complete` of least rank, if there is exactly one. -/
def primaryReason (p : MergeEligibilityPolicy rt) (complete : List PyStr) :
    Except PyExc (Option PyStr) :=
  match (complete.filterMap p.rankByCode).min? with
  | none => .ok none
  | some minimumRank =>
    match complete.filter fun code => p.rankByCode code = some minimumRank with
    | [code] => .ok (some code)
    | _ => .error (mergeEligibilityEvaluationError (py ("primary reason selection is ambiguous: " ++
        "a non-unique minimum precedence rank was reached")))

def neitherBlockNorReview : PyExc := mergeEligibilityEvaluationError
  (py "collected reason has a default disposition that is neither BLOCK nor REVIEW_REQUIRED")

/-- `blocking` and `review`: the members of `complete` with the disposition. -/
def codesWith (p : MergeEligibilityPolicy rt) (disposition : Disposition) (complete : List PyStr) :
    List PyStr :=
  complete.filter fun code => p.dispositionByCode code = some disposition

/-- The arguments of the final `DecisionCore(...)`. -/
def decisionCoreArgs (i : MergeEligibilityPolicyInput rt) (p : MergeEligibilityPolicy rt)
    (complete : List PyStr) (primaryReasonCode : Option PyStr) : DecisionCoreArgs where
  disposition := partitionDisposition (codesWith p .block complete)
    (codesWith p .reviewRequired complete)
  decisionAuthority := match i.evaluationMode with
    | .enforce => .authoritative
    | .shadow => .advisoryOnly
  primaryReasonCode := primaryReasonCode
  completeReasonCodes := complete
  blockingReasonCodes := codesWith p .block complete
  reviewReasonCodes := codesWith p .reviewRequired complete
  requiredRequirementIds := i.facts.requiredRequirementIds
  satisfiedRequirementIds := i.facts.satisfiedRequirementIds
  invalidRequirementIds := i.facts.invalidRequirementIds
  missingRequirementIds := i.facts.missingRequirementIds
  rejectedEvidenceIds := i.facts.rejectedEvidenceIds
  invalidProvenanceEvidenceIds := i.facts.invalidProvenanceEvidenceIds
  unexpectedEvidenceIds := i.facts.unexpectedEvidenceIds

/-- The part of the evaluator after the collection of the reasons. -/
def decideComplete (policyInput : MergeEligibilityPolicyInput rt) (policy : MergeEligibilityPolicy rt)
    (complete : List PyStr) : Except PyExc DecisionCore := do
  raiseIf ((codesWith policy .block complete).length +
    (codesWith policy .reviewRequired complete).length ≠ complete.length) neitherBlockNorReview
  let primaryReasonCode ← primaryReason policy complete
  DecisionCore.construct (decisionCoreArgs policyInput policy complete primaryReasonCode)

def evaluateDecisionCore (policyInput : MergeEligibilityPolicyInput rt)
    (policy : MergeEligibilityPolicy rt) : Except PyExc DecisionCore := do
  let reasons ← collectedReasons policyInput.facts policy
  match reasons.find? fun code => code ∉ policy.codes with
  | some code => .error (mergeEligibilityEvaluationError (py "evaluator collected reason " ++
      reprStr rt code ++ py " absent from policy definitions"))
  | none => decideComplete policyInput policy (sortedSet reasons)

/-! ### specification -/

/-- The reason codes that the facts trigger under the policy. -/
inductive Triggered (f : EligibilityFacts) (p : MergeEligibilityPolicy rt) (c : PyStr) : Prop
  | enumFact {name value : PyStr} {row : Dict PyStr (Option PyStr)}
    (ha : (name, value) ∈ f.enumAttrs) (hr : p.enumFactReasons.get? name = some row)
    (hc : row.get? value = some (some c))
  | violation {tag : EvidenceContextViolation} (ht : tag ∈ f.evidenceContextViolations)
    (hc : p.violationTagReasons.get? (StrEnum.value tag) = some c)
  | setFact {name : PyStr} {ids : List PyStr} (ha : (name, ids) ∈ f.setAttrs) (hne : ids ≠ [])
    (hc : p.setFactTriggers.get? name = some (some c))
  /-- the first row that matches -/
  | verifier {row : VerifierRuleRow rt}
    (hr : p.verifierRule.find? (fun row => row.matches (StrEnum.value f.verifierIdentityStatus)
      (StrEnum.value f.verifierIndependenceStatus)) = some row) (hc : row.reason = some c)

/-- What a correct result is. -/
structure CoreSpec (i : MergeEligibilityPolicyInput rt) (p : MergeEligibilityPolicy rt)
    (core : DecisionCore) : Prop where
  complete_sorted : core.completeReasonCodes.Pairwise (· < ·)
  complete_mem : ∀ c, c ∈ core.completeReasonCodes ↔ Triggered i.facts p c
  blocking_sorted : core.blockingReasonCodes.Pairwise (· < ·)
  blocking_mem : ∀ c, c ∈ core.blockingReasonCodes ↔
    Triggered i.facts p c ∧ p.dispositionByCode c = some .block
  review_sorted : core.reviewReasonCodes.Pairwise (· < ·)
  review_mem : ∀ c, c ∈ core.reviewReasonCodes ↔
    Triggered i.facts p c ∧ p.dispositionByCode c = some .reviewRequired
  primary_none : core.primaryReasonCode = none ↔ ∀ c, ¬ Triggered i.facts p c
  primary_some : ∀ c, core.primaryReasonCode = some c ↔ Triggered i.facts p c ∧
    ∀ c', Triggered i.facts p c' →
      ∃ r r', p.rankByCode c = some r ∧ p.rankByCode c' = some r' ∧ r ≤ r'
  block_iff : core.disposition = .block ↔
    ∃ c, Triggered i.facts p c ∧ p.dispositionByCode c = some .block
  review_iff : core.disposition = .reviewRequired ↔
    (∃ c, Triggered i.facts p c) ∧ ∀ c, Triggered i.facts p c →
      p.dispositionByCode c = some .reviewRequired
  eligible_iff : core.disposition = .eligibleToMergeUnderPolicy ↔ ∀ c, ¬ Triggered i.facts p c
  authority : core.decisionAuthority =
    if i.evaluationMode = .enforce then .authoritative else .advisoryOnly
  required : core.requiredRequirementIds = i.facts.requiredRequirementIds
  satisfied : core.satisfiedRequirementIds = i.facts.satisfiedRequirementIds
  invalid : core.invalidRequirementIds = i.facts.invalidRequirementIds
  missing : core.missingRequirementIds = i.facts.missingRequirementIds
  rejected : core.rejectedEvidenceIds = i.facts.rejectedEvidenceIds
  invalidProvenance : core.invalidProvenanceEvidenceIds = i.facts.invalidProvenanceEvidenceIds
  unexpected : core.unexpectedEvidenceIds = i.facts.unexpectedEvidenceIds

/-! ### the collected reasons are the triggered ones -/

theorem assoc_eq_some_iff {κ ν : Type} [DecidableEq κ] {kvs : List (κ × ν)}
    (hnd : (kvs.map Prod.fst).Nodup) {k : κ} {v : ν} :
    assoc kvs k = some v ↔ (k, v) ∈ kvs := ⟨assoc_mem, assoc_of_mem hnd⟩

theorem enumFactFields_nodup : (enumFactFields.map Prod.fst).Nodup := by
  simp [enumFactFields]

theorem enumAttrs_total (f : EligibilityFacts) :
    ∀ a ∈ f.enumAttrs, ∃ expected, (a.1, expected) ∈ enumFactFields ∧ a.2 ∈ expected := by
  simp only [EligibilityFacts.enumAttrs, List.forall_mem_cons, List.not_mem_nil, false_imp_iff,
    implies_true, and_true]
  refine ⟨⟨_, ?_, StrEnum.value_mem f.taskContextCurrent⟩,
    ⟨_, ?_, StrEnum.value_mem f.candidateBindingCurrent⟩,
    ⟨_, ?_, StrEnum.value_mem f.repositorySnapshotCurrent⟩,
    ⟨_, ?_, StrEnum.value_mem f.repositoryReleaseClean⟩,
    ⟨_, ?_, StrEnum.value_mem f.policyContextCurrent⟩,
    ⟨_, ?_, StrEnum.value_mem f.evidenceContextStatus⟩,
    ⟨_, ?_, StrEnum.value_mem f.scopeStatus⟩, ⟨_, ?_, StrEnum.value_mem f.approvalStatus⟩,
    ⟨_, ?_, StrEnum.value_mem f.authorityStatus⟩⟩ <;>
  simp only [enumFactFields, List.mem_cons, true_or, or_true]

theorem setFactFields_nodup : setFactFields.Nodup := by
  simp [setFactFields]

theorem enumFact_entry (f : EligibilityFacts) (p : MergeEligibilityPolicy rt) {name : PyStr}
    {row : Dict PyStr (Option PyStr)} (h : (name, row) ∈ p.enumFactReasons.items) :
    ∃ value code, assoc f.enumAttrs name = some value ∧ row.get? value = some code ∧
      ∀ c ∈ code, c ∈ p.codes := by
  have hv := p.valid
  have hn : name ∈ f.enumAttrs.map Prod.fst := (hv.enum_names name).mp (List.mem_map_of_mem h)
  obtain ⟨value, hval⟩ := assoc_isSome_iff.mpr hn
  obtain ⟨expected, he, hmem⟩ := enumAttrs_total f _ (assoc_mem hval)
  obtain ⟨row', hr, htotal, hcodes⟩ := hv.enum_rows _ he
  have hrow : some row = some row' := by
    rw [← hr]
    exact (assoc_of_mem p.enumFactReasons.nodup h).symm
  obtain rfl := Option.some.inj hrow
  obtain ⟨code, hcode⟩ := assoc_isSome_iff.mpr ((htotal value).mpr hmem)
  exact ⟨value, code, hval, hcode, fun c hc => hcodes _ (assoc_mem hcode) c hc⟩

theorem enumFactCodes_ok {f : EligibilityFacts} {kvs : List (PyStr × Dict PyStr (Option PyStr))}
    (h : ∀ kv ∈ kvs, ∃ value code, assoc f.enumAttrs kv.1 = some value ∧
      kv.2.get? value = some code) :
    ∃ codes, enumFactCodes rt f kvs = .ok codes ∧ ∀ c, c ∈ codes ↔ ∃ kv ∈ kvs, ∃ value,
      assoc f.enumAttrs kv.1 = some value ∧ kv.2.get? value = some (some c) := by
  induction kvs with
  | nil => exact ⟨[], rfl, fun c => by simp⟩
  | cons kv kvs ih =>
    obtain ⟨name, row⟩ := kv
    obtain ⟨value, code, hval, hcode⟩ := h _ List.mem_cons_self
    obtain ⟨codes, hok, hmem⟩ := ih fun kv hkv => h kv (List.mem_cons_of_mem _ hkv)
    refine ⟨code.toList ++ codes, ?_, fun c => ?_⟩
    · simp only at hval hcode
      rw [enumFactCodes, hval]
      simp only [hcode, hok]
      rfl
    · rw [List.mem_append, hmem, Option.mem_toList]
      simp only [List.exists_mem_cons_iff, hval, Option.some.injEq, exists_eq_left', hcode]

theorem violationCodes_ok (p : MergeEligibilityPolicy rt) (tags : List EvidenceContextViolation) :
    ∃ codes, violationCodes p tags = .ok codes ∧ ∀ c, c ∈ codes ↔
      ∃ tag ∈ tags, p.violationTagReasons.get? (StrEnum.value tag) = some c := by
  induction tags with
  | nil => exact ⟨[], rfl, fun c => by simp⟩
  | cons tag tags ih =>
    obtain ⟨codes, hok, hmem⟩ := ih
    obtain ⟨code, hcode⟩ : ∃ code, p.violationTagReasons.get? (StrEnum.value tag) = some code :=
      assoc_isSome_iff.mpr ((p.valid.tags _).mpr (StrEnum.value_mem tag))
    refine ⟨code :: codes, ?_, fun c => ?_⟩
    · rw [violationCodes, hcode]
      simp only [hok]
      rfl
    · rw [List.mem_cons, hmem, List.exists_mem_cons_iff, hcode, Option.some.injEq, eq_comm]

theorem setFactCodes_ok {f : EligibilityFacts} {kvs : List (PyStr × Option PyStr)}
    (h : ∀ kv ∈ kvs, ∃ ids, assoc f.setAttrs kv.1 = some ids) :
    ∃ codes, setFactCodes f kvs = .ok codes ∧ ∀ c, c ∈ codes ↔
      ∃ name ids, (name, some c) ∈ kvs ∧ assoc f.setAttrs name = some ids ∧ ids ≠ [] := by
  induction kvs with
  | nil => exact ⟨[], rfl, fun c => by simp⟩
  | cons kv kvs ih =>
    obtain ⟨name, code⟩ := kv
    obtain ⟨ids, hids⟩ := h _ List.mem_cons_self
    obtain ⟨codes, hok, hmem⟩ := ih fun kv hkv => h kv (List.mem_cons_of_mem _ hkv)
    cases code with
    | none =>
      refine ⟨codes, hok, fun c => ?_⟩
      simp only [hmem, List.mem_cons, Prod.mk.injEq, reduceCtorEq, and_false, false_or]
    | some code =>
      refine ⟨if ids.length > 0 then code :: codes else codes, ?_, fun c => ?_⟩
      · simp only at hids
        rw [setFactCodes, hids]
        simp only [hok]
        rfl
      · have hsplit : (∃ n ids', (n, some c) ∈ (name, some code) :: kvs ∧
            assoc f.setAttrs n = some ids' ∧ ids' ≠ []) ↔ (c = code ∧ ids ≠ []) ∨ c ∈ codes := by
          rw [hmem]
          constructor
          · rintro ⟨n, ids', hm, hl, hne⟩
            rcases List.mem_cons.mp hm with e | hm
            · obtain ⟨rfl, hc⟩ := Prod.mk.inj e
              rw [hids] at hl
              rw [Option.some.inj hl]
              exact Or.inl ⟨Option.some.inj hc, hne⟩
            · exact Or.inr ⟨n, ids', hm, hl, hne⟩
          · rintro (⟨rfl, hne⟩ | ⟨n, ids', hm, hl, hne⟩)
            · exact ⟨name, ids, List.mem_cons_self, hids, hne⟩
            · exact ⟨n, ids', List.mem_cons_of_mem _ hm, hl, hne⟩
        rw [hsplit]
        by_cases hne : ids = []
        · simp [hne]
        · rw [if_pos (List.length_pos_iff.mpr hne), List.mem_cons]
          simp only [ne_eq, hne, not_false_eq_true, and_true]

theorem collectedReasons_ok (f : EligibilityFacts) (p : MergeEligibilityPolicy rt) :
    ∃ reasons, collectedReasons f p = .ok reasons ∧ (∀ c, c ∈ reasons ↔ Triggered f p c) ∧
      ∀ c ∈ reasons, c ∈ p.codes := by
  have hv := p.valid
  have hnd : (f.enumAttrs.map Prod.fst).Nodup := enumFactFields_nodup
  have hnds : (f.setAttrs.map Prod.fst).Nodup := setFactFields_nodup
  obtain ⟨enumCodes, he, hemem⟩ := @enumFactCodes_ok rt f
    p.enumFactReasons.items fun kv hkv => by
      obtain ⟨value, code, h1, h2, _⟩ := enumFact_entry f p hkv
      exact ⟨value, code, h1, h2⟩
  obtain ⟨tagCodes, ht, htmem⟩ := violationCodes_ok p f.evidenceContextViolations
  obtain ⟨setCodes, hs, hsmem⟩ := @setFactCodes_ok f p.setFactTriggers.items
    fun kv hkv => assoc_isSome_iff.mpr ((hv.set_names _).mp (List.mem_map_of_mem hkv))
  obtain ⟨row, hrow⟩ : ∃ row, p.verifierRule.find? (fun row =>
      row.matches (StrEnum.value f.verifierIdentityStatus)
        (StrEnum.value f.verifierIndependenceStatus)) = some row := by
    obtain ⟨row, hr, hm⟩ := hv.rule_covers f.verifierIdentityStatus f.verifierIndependenceStatus
    exact Option.isSome_iff_exists.mp (List.find?_isSome.mpr ⟨row, hr, hm⟩)
  have hres : p.resolveVerifierReason (StrEnum.value f.verifierIdentityStatus)
      (StrEnum.value f.verifierIndependenceStatus) = .ok row.reason := by
    unfold MergeEligibilityPolicy.resolveVerifierReason
    rw [hrow]
  refine ⟨enumCodes ++ tagCodes ++ setCodes ++ row.reason.toList, ?_, fun c => ?_, fun c hc => ?_⟩
  · unfold collectedReasons
    rw [he, ht, hs, hres]
    rfl
  · rw [List.mem_append, List.mem_append, List.mem_append, hemem, htmem, hsmem, Option.mem_toList]
    constructor
    · rintro (((⟨kv, hkv, value, hl, hc⟩ | ⟨tag, htag, hc⟩) | ⟨name, ids, hm, hl, hne⟩) | hc)
      · exact .enumFact (assoc_mem hl) (assoc_of_mem p.enumFactReasons.nodup hkv) hc
      · exact .violation htag hc
      · exact .setFact (assoc_mem hl) hne (assoc_of_mem p.setFactTriggers.nodup hm)
      · exact .verifier hrow hc
    · rintro (⟨ha, hr, hc⟩ | ⟨htag, hc⟩ | ⟨ha, hne, hc⟩ | ⟨hr, hc⟩)
      · exact Or.inl (Or.inl (Or.inl ⟨_, assoc_mem hr, _, assoc_of_mem hnd ha, hc⟩))
      · exact Or.inl (Or.inl (Or.inr ⟨_, htag, hc⟩))
      · exact Or.inl (Or.inr ⟨_, _, assoc_mem hc, assoc_of_mem hnds ha, hne⟩)
      · rw [hrow] at hr
        rw [Option.some.inj hr]
        exact Or.inr hc
  · rw [List.mem_append, List.mem_append, List.mem_append, hemem, htmem, hsmem,
      Option.mem_toList] at hc
    rcases hc with ((⟨kv, hkv, value, hl, hc⟩ | ⟨tag, _, hc⟩) | ⟨name, ids, hm, _, _⟩) | hc
    · obtain ⟨value', code, h1, h2, h3⟩ := enumFact_entry f p hkv
      rw [h1] at hl
      obtain rfl := Option.some.inj hl
      rw [h2] at hc
      exact h3 c (Option.some.inj hc)
    · exact hv.tag_codes _ (assoc_mem hc)
    · exact hv.set_codes _ hm c rfl
    · exact hv.rule_codes row (List.mem_of_find?_eq_some hrow) c hc

/-! ### codes of the policy -/

theorem exists_definition (p : MergeEligibilityPolicy rt) {c : PyStr} (h : c ∈ p.codes) :
    ∃ rd ∈ p.reasonDefinitions, rd.code = c ∧
      p.dispositionByCode c = some rd.defaultDisposition ∧
      p.rankByCode c = some rd.precedenceRank := by
  obtain ⟨rd, hrd, rfl⟩ := List.mem_map.mp h
  have hnd := p.valid.codes_nodup
  refine ⟨rd, hrd, rfl, ?_, ?_⟩
  · refine assoc_of_mem ?_ (List.mem_map.mpr ⟨rd, hrd, rfl⟩)
    rw [List.map_map]
    exact hnd
  · refine assoc_of_mem ?_ (List.mem_map.mpr ⟨rd, hrd, rfl⟩)
    rw [List.map_map]
    exact hnd

theorem rank_inj (p : MergeEligibilityPolicy rt) {c c' : PyStr} {r : Int} (h : c ∈ p.codes)
    (h' : c' ∈ p.codes) (hr : p.rankByCode c = some r) (hr' : p.rankByCode c' = some r) :
    c = c' := by
  obtain ⟨rd, hrd, rfl, _, e⟩ := exists_definition p h
  obtain ⟨rd', hrd', rfl, _, e'⟩ := exists_definition p h'
  have hrank : rd.precedenceRank = rd'.precedenceRank := by
    rw [hr] at e
    rw [hr'] at e'
    rw [← Option.some.inj e, Option.some.inj e']
  rw [List.inj_on_of_nodup_map p.valid.ranks_nodup hrd hrd' hrank]

theorem primaryReason_ok (p : MergeEligibilityPolicy rt) {complete : List PyStr}
    (hk : ∀ c ∈ complete, c ∈ p.codes) (hnd : complete.Nodup) :
    ∃ primary, primaryReason p complete = .ok primary ∧ (primary = none ↔ complete = []) ∧
      ∀ c, primary = some c ↔ c ∈ complete ∧ ∀ c' ∈ complete,
        ∃ r r', p.rankByCode c = some r ∧ p.rankByCode c' = some r' ∧ r ≤ r' := by
  have hrank : ∀ c ∈ complete, ∃ r, p.rankByCode c = some r := fun c hc => by
    obtain ⟨rd, _, _, _, hr⟩ := exists_definition p (hk c hc)
    exact ⟨_, hr⟩
  unfold primaryReason
  cases hm : (complete.filterMap p.rankByCode).min? with
  | none =>
    have hnil : complete = [] := by
      rw [List.min?_eq_none_iff, List.filterMap_eq_nil_iff] at hm
      refine List.eq_nil_iff_forall_not_mem.mpr fun c hc => ?_
      obtain ⟨r, hr⟩ := hrank c hc
      rw [hm c hc] at hr
      exact absurd hr (by simp)
    subst hnil
    exact ⟨none, rfl, by simp, fun c => by simp⟩
  | some m =>
    obtain ⟨hmem, hle⟩ := List.min?_eq_some_iff.mp hm
    obtain ⟨c₀, hc₀, hr₀⟩ := List.mem_filterMap.mp hmem
    have hfilter : (complete.filter fun code => p.rankByCode code = some m) = [c₀] := by
      refine filter_eq_singleton hnd fun c => ?_
      rw [decide_eq_true_eq]
      refine ⟨fun h => rank_inj p (hk c h.1) (hk c₀ hc₀) h.2 hr₀, ?_⟩
      rintro rfl
      exact ⟨hc₀, hr₀⟩
    have hleast : ∀ c' ∈ complete,
        ∃ r r', p.rankByCode c₀ = some r ∧ p.rankByCode c' = some r' ∧ r ≤ r' := fun c' hc' => by
      obtain ⟨r', hr'⟩ := hrank c' hc'
      exact ⟨m, r', hr₀, hr', hle r' (List.mem_filterMap.mpr ⟨c', hc', hr'⟩)⟩
    refine ⟨some c₀, ?_, ?_, fun c => ⟨?_, ?_⟩⟩
    · simp only [hfilter]
    · exact iff_of_false (by simp) (List.ne_nil_of_mem hc₀)
    · intro h
      obtain rfl := Option.some.inj h
      exact ⟨hc₀, hleast⟩
    · rintro ⟨hc, hall⟩
      -- both codes are least, so their ranks agree
      obtain ⟨r, r', hr, hr', h1⟩ := hall c₀ hc₀
      obtain ⟨s, s', hs, hs', h2⟩ := hleast c hc
      rw [hs] at hr'
      rw [hs'] at hr
      obtain rfl := Option.some.inj hr
      obtain rfl := Option.some.inj hr'
      obtain rfl : s = s' := le_antisymm h2 h1
      rw [rank_inj p (hk c hc) (hk c₀ hc₀) hs' hs]

/-! ### main result -/

theorem partition_length (p : MergeEligibilityPolicy rt) {complete : List PyStr}
    (hk : ∀ c ∈ complete, c ∈ p.codes) :
    (codesWith p .block complete).length + (codesWith p .reviewRequired complete).length =
        complete.length ↔
      ∀ c ∈ complete, p.dispositionByCode c ≠ some .eligibleToMergeUnderPolicy := by
  unfold codesWith
  rw [(length_filter_add fun c hc => ?_).2]
  · refine forall₂_congr fun c hc => ?_
    obtain ⟨rd, _, _, hd, _⟩ := exists_definition p (hk c hc)
    rw [hd, decide_eq_true_eq, decide_eq_true_eq]
    cases rd.defaultDisposition <;> simp
  · rw [decide_eq_true_eq] at hc
    rw [decide_eq_false_iff_not, hc]
    simp

theorem mem_codesWith {p : MergeEligibilityPolicy rt} {d : Disposition} {complete : List PyStr}
    {c : PyStr} : c ∈ codesWith p d complete ↔ c ∈ complete ∧ p.dispositionByCode c = some d := by
  unfold codesWith
  rw [List.mem_filter, decide_eq_true_eq]

theorem codesWith_eq_nil {p : MergeEligibilityPolicy rt} {d : Disposition} {complete : List PyStr} :
    codesWith p d complete = [] ↔ ∀ c ∈ complete, p.dispositionByCode c ≠ some d := by
  unfold codesWith
  simp only [List.filter_eq_nil_iff, decide_eq_true_eq, ne_eq]

theorem codesWith_codeSet {p : MergeEligibilityPolicy rt} {d : Disposition} {complete : List PyStr}
    (h : CodeSet complete) : CodeSet (codesWith p d complete) :=
  ⟨fun c hc => h.ne_nil c (mem_codesWith.mp hc).1, h.strict.filter _⟩

theorem decisionCoreArgs_valid (i : MergeEligibilityPolicyInput rt) (p : MergeEligibilityPolicy rt)
    {complete : List PyStr} {primary : Option PyStr} (hk : ∀ c ∈ complete, c ∈ p.codes)
    (hs : complete.Pairwise (· < ·)) (hnone : primary = none → complete = [])
    (hmem : ∀ c, primary = some c → c ∈ complete)
    (hd : ∀ c ∈ complete, p.dispositionByCode c ≠ some .eligibleToMergeUnderPolicy) :
    (decisionCoreArgs i p complete primary).Valid := by
  have hf := i.facts.valid
  have hc : CodeSet complete := by
    refine ⟨fun c hc => ?_, hs⟩
    obtain ⟨rd, _, rfl, _⟩ := exists_definition p (hk c hc)
    exact rd.code_ne_nil
  refine ⟨hc, codesWith_codeSet hc, codesWith_codeSet hc, hf.required.codeSet,
    hf.satisfied.codeSet, hf.invalid.codeSet, hf.missing.codeSet, hf.rejected.codeSet,
    hf.invalidProvenance.codeSet, hf.unexpected.codeSet, fun c hb hr => ?_, fun c => ?_, hnone,
    hmem, rfl⟩
  · have h1 := (mem_codesWith.mp hb).2
    have h2 := (mem_codesWith.mp hr).2
    rw [h1] at h2
    exact absurd h2 (by simp)
  · show c ∈ complete ↔ c ∈ codesWith p .block complete ∨ c ∈ codesWith p .reviewRequired complete
    rw [mem_codesWith, mem_codesWith, ← and_or_left]
    refine ⟨fun h => ⟨h, ?_⟩, fun h => h.1⟩
    obtain ⟨rd, _, _, he, _⟩ := exists_definition p (hk c h)
    have hne := hd c h
    rw [he] at hne ⊢
    cases hdisp : rd.defaultDisposition with
    | block => exact Or.inl rfl
    | reviewRequired => exact Or.inr rfl
    | eligibleToMergeUnderPolicy => exact absurd (congrArg some hdisp) hne

section
variable {blocking review : List PyStr} {T B R : PyStr → Prop}

theorem disposition_block (hb : blocking = [] ↔ ∀ c, T c → ¬ B c) :
    partitionDisposition blocking review = .block ↔ ∃ c, T c ∧ B c := by
  unfold partitionDisposition
  rw [← not_iff_not]
  push Not
  rw [← hb]
  by_cases h : blocking = []
  · rw [if_neg (not_not.mpr h)]
    split_ifs <;> simp [h]
  · rw [if_pos h]
    simp [h]

theorem disposition_eligible (hb : blocking = [] ↔ ∀ c, T c → ¬ B c)
    (hr : review = [] ↔ ∀ c, T c → ¬ R c) (hd : ∀ c, T c → B c ∨ R c) :
    partitionDisposition blocking review = .eligibleToMergeUnderPolicy ↔ ∀ c, ¬ T c := by
  have hall : (∀ c, ¬ T c) ↔ blocking = [] ∧ review = [] := by
    rw [hb, hr]
    exact ⟨fun h => ⟨fun c hc => absurd hc (h c), fun c hc => absurd hc (h c)⟩,
      fun h c hc => (hd c hc).elim (h.1 c hc) (h.2 c hc)⟩
  rw [hall]
  unfold partitionDisposition
  split_ifs with h1 h2 <;> simp_all

theorem disposition_review (hb : blocking = [] ↔ ∀ c, T c → ¬ B c)
    (hr : review = [] ↔ ∀ c, T c → ¬ R c) (hd : ∀ c, T c → B c ∨ R c)
    (hbr : ∀ c, B c → ¬ R c) :
    partitionDisposition blocking review = .reviewRequired ↔ (∃ c, T c) ∧ ∀ c, T c → R c := by
  have hall : ((∃ c, T c) ∧ ∀ c, T c → R c) ↔ blocking = [] ∧ review ≠ [] := by
    rw [hb, Ne, hr]
    push Not
    constructor
    · rintro ⟨⟨c, hc⟩, h⟩
      exact ⟨fun c hc hB => hbr c hB (h c hc), c, hc, h c hc⟩
    · rintro ⟨h, c, hc, _⟩
      exact ⟨⟨c, hc⟩, fun c hc => (hd c hc).resolve_left (h c hc)⟩
  rw [hall]
  unfold partitionDisposition
  split_ifs with h1 h2 <;> simp_all

end

theorem evaluateDecisionCore_eq (i : MergeEligibilityPolicyInput rt)
    (p : MergeEligibilityPolicy rt) :
    ∃ complete, evaluateDecisionCore i p = decideComplete i p complete ∧
      (∀ c, c ∈ complete ↔ Triggered i.facts p c) ∧ (∀ c ∈ complete, c ∈ p.codes) ∧
      complete.Pairwise (· < ·) := by
  obtain ⟨reasons, hr, htrig, hknown⟩ := collectedReasons_ok i.facts p
  refine ⟨sortedSet reasons, ?_, fun c => by rw [mem_sortedSet, htrig],
    fun c hc => hknown c (mem_sortedSet.mp hc), sortedSet_strict reasons⟩
  have hfind : reasons.find? (fun code => code ∉ p.codes) = none := by
    rw [List.find?_eq_none]
    intro c hc
    rw [decide_eq_true_eq, not_not]
    exact hknown c hc
  unfold evaluateDecisionCore
  rw [hr]
  show (match reasons.find? fun code => code ∉ p.codes with
    | some _ => _
    | none => _) = _
  rw [hfind]

theorem evaluateDecisionCore_fault {i : MergeEligibilityPolicyInput rt}
    {p : MergeEligibilityPolicy rt} {c : PyStr} (hc : Triggered i.facts p c)
    (he : p.dispositionByCode c = some .eligibleToMergeUnderPolicy) :
    evaluateDecisionCore i p = .error neitherBlockNorReview := by
  obtain ⟨complete, heval, hmem, hk, _⟩ := evaluateDecisionCore_eq i p
  rw [heval, decideComplete, raiseIf,
    if_pos fun h => (partition_length p hk).mp h c ((hmem c).mpr hc) he]
  rfl

theorem evaluateDecisionCore_ok (i : MergeEligibilityPolicyInput rt)
    (p : MergeEligibilityPolicy rt)
    (hd : ∀ c, Triggered i.facts p c → p.dispositionByCode c ≠ some .eligibleToMergeUnderPolicy) :
    ∃ core, evaluateDecisionCore i p = .ok core ∧ CoreSpec i p core := by
  obtain ⟨complete, heval, hmem, hk, hs⟩ := evaluateDecisionCore_eq i p
  rw [heval, decideComplete]
  have hd' : ∀ c ∈ complete, p.dispositionByCode c ≠ some .eligibleToMergeUnderPolicy :=
    fun c hc => hd c ((hmem c).mp hc)
  obtain ⟨primary, hp, hpnone, hpsome⟩ := primaryReason_ok p hk (nodup_of_strict hs)
  have hv := decisionCoreArgs_valid i p hk hs hpnone.mp (fun c hc => ((hpsome c).mp hc).1) hd'
  refine ⟨⟨_, DecisionCoreArgs.postInit_ok_iff.mpr hv⟩, ?_, ?_⟩
  · rw [raiseIf, if_neg (not_not.mpr ((partition_length p hk).mpr hd')), hp]
    exact DecisionCore.construct_ok _
  have hdisp : ∀ c, Triggered i.facts p c → p.dispositionByCode c = some .block ∨
      p.dispositionByCode c = some .reviewRequired := fun c hc => by
    obtain ⟨rd, _, _, he, _⟩ := exists_definition p (hk c ((hmem c).mpr hc))
    have hne := hd c hc
    rw [he] at hne ⊢
    cases hrd : rd.defaultDisposition with
    | block => exact Or.inl rfl
    | reviewRequired => exact Or.inr rfl
    | eligibleToMergeUnderPolicy => exact absurd (congrArg some hrd) hne
  have hblock : codesWith p .block complete = [] ↔
      ∀ c, Triggered i.facts p c → p.dispositionByCode c ≠ some .block := by
    rw [codesWith_eq_nil]
    exact forall_congr' fun c => by rw [hmem]
  have hreview : codesWith p .reviewRequired complete = [] ↔
      ∀ c, Triggered i.facts p c → p.dispositionByCode c ≠ some .reviewRequired := by
    rw [codesWith_eq_nil]
    exact forall_congr' fun c => by rw [hmem]
  exact
    { complete_sorted := hs
      complete_mem := hmem
      blocking_sorted := hs.filter _
      blocking_mem := fun c => by rw [← hmem]; exact mem_codesWith
      review_sorted := hs.filter _
      review_mem := fun c => by rw [← hmem]; exact mem_codesWith
      primary_none := by
        rw [← List.eq_nil_iff_forall_not_mem.trans (forall_congr' fun c => not_congr (hmem c))]
        exact hpnone
      primary_some := fun c => by
        refine (hpsome c).trans ?_
        simp only [hmem]
      block_iff := disposition_block hblock
      review_iff := disposition_review hblock hreview hdisp fun c h h' => by
        rw [h] at h'
        exact absurd h' (by simp)
      eligible_iff := disposition_eligible hblock hreview hdisp
      authority := by
        show (match i.evaluationMode with
          | .enforce => DecisionAuthority.authoritative
          | .shadow => .advisoryOnly) = _
        cases i.evaluationMode <;> rfl
      required := rfl
      satisfied := rfl
      invalid := rfl
      missing := rfl
      rejected := rfl
      invalidProvenance := rfl
      unexpected := rfl }

/-- **The evaluator meets its specification.**  It fails exactly when a triggered reason has the
disposition ELIGIBLE, and else returns a core that `CoreSpec` describes. -/
theorem evaluateDecisionCore_spec (i : MergeEligibilityPolicyInput rt)
    (p : MergeEligibilityPolicy rt) :
    ((∃ c, Triggered i.facts p c ∧ p.dispositionByCode c = some .eligibleToMergeUnderPolicy) →
      evaluateDecisionCore i p = .error neitherBlockNorReview) ∧
    ((∀ c, Triggered i.facts p c → p.dispositionByCode c ≠ some .eligibleToMergeUnderPolicy) →
      ∃ core, evaluateDecisionCore i p = .ok core ∧ CoreSpec i p core) :=
  ⟨fun ⟨_, hc, he⟩ => evaluateDecisionCore_fault hc he, evaluateDecisionCore_ok i p⟩

end

end Tomtit
