import TomtitAgent.BuildHarness.MergeEligibility.Evaluate
import TomtitAgent.Python.SmallRuntime

/-!
# `merge_eligibility.py`: the production policy

* `mergeEligibilityPolicyV1`   the shipped tables, which pass the checks of the constructor;
* `Fires row value Q`   a row of an enum table gives a code with the property `Q`;
* `Eligible`, `Unblocked`, `Uncertain`   what the facts must be for each disposition;
* `policyV1_disposition`   the policy is fail-closed: facts outside the listed ones are blocked.
-/

open Py

namespace Tomtit

/-! ### tables -/

def majorityPolicyVersion : PyStr := py "changegate-merge-eligibility-policy.v2-draft"
def majorityPolicyDigest : PyStr :=
  py "sha256:88304ee85d7d10c2124d75b0de11cb8d8f91a8707945cabc651c0cbdedc71934"

/-- `_REASON_DEFINITIONS` -/
def reasonDefinitionsV1 : List ReasonDefinitionArgs :=
  [⟨py "AUTHORITY_INVALID", 10, py "INTEGRITY", py "FACTUAL", .block, none⟩,
   ⟨py "REQUIRED_CONTEXT_INCOMPLETE", 20, py "CONTEXT", py "FACTUAL", .block, none⟩,
   ⟨py "EVIDENCE_TASK_MISMATCH", 30, py "INTEGRITY", py "FACTUAL", .block, none⟩,
   ⟨py "EVIDENCE_RUN_MISMATCH", 40, py "INTEGRITY", py "FACTUAL", .block, none⟩,
   ⟨py "EVIDENCE_CANDIDATE_MISMATCH", 50, py "INTEGRITY", py "FACTUAL", .block, none⟩,
   ⟨py "REPOSITORY_CONTEXT_MISMATCH", 60, py "INTEGRITY", py "FACTUAL", .block, none⟩,
   ⟨py "EVIDENCE_PROVENANCE_INVALID", 70, py "INTEGRITY", py "FACTUAL", .block, none⟩,
   ⟨py "EVIDENCE_DUPLICATE_IDENTITY", 80, py "INTEGRITY", py "FACTUAL", .block, none⟩,
   ⟨py "REQUIRED_EVIDENCE_INVALID", 90, py "EVIDENCE", py "FACTUAL", .block, none⟩,
   ⟨py "TASK_CONTEXT_STALE", 95, py "FRESHNESS", py "FACTUAL", .block, none⟩,
   ⟨py "CANDIDATE_STALE", 100, py "FRESHNESS", py "FACTUAL", .block, none⟩,
   ⟨py "POLICY_CONTEXT_STALE", 110, py "FRESHNESS", py "FACTUAL", .block, none⟩,
   ⟨py "REQUIRED_EVIDENCE_MISSING", 120, py "EVIDENCE", py "FACTUAL", .block, none⟩,
   ⟨py "RELEASE_STATE_NOT_CLEAN", 130, py "REPO_STATE", py "FACTUAL", .block, none⟩,
   ⟨py "SCOPE_VIOLATION", 140, py "SCOPE", py "FACTUAL", .block, none⟩,
   ⟨py "APPROVAL_MISSING", 150, py "APPROVAL", py "FACTUAL", .block, some (py "OD-S1A-001")⟩,
   ⟨py "APPROVAL_STALE", 160, py "APPROVAL", py "FACTUAL", .block, some (py "OD-S1A-002")⟩,
   ⟨py "VERIFIER_NOT_INDEPENDENT", 170, py "INDEPENDENCE", py "FACTUAL", .block, none⟩,
   ⟨py "SCOPE_UNCERTAIN", 180, py "SCOPE", py "SEMANTIC", .reviewRequired, none⟩,
   ⟨py "VERIFIER_INDEPENDENCE_UNKNOWN", 190, py "INDEPENDENCE", py "SEMANTIC", .reviewRequired,
     some (py "OD-S1A-003")⟩]

def taskContextRow : Dict PyStr (Option PyStr) where
  items := [(py "CURRENT", none), (py "STALE", some (py "TASK_CONTEXT_STALE")),
    (py "UNKNOWN", some (py "REQUIRED_CONTEXT_INCOMPLETE"))]
  nodup := by simp

def candidateBindingRow : Dict PyStr (Option PyStr) where
  items := [(py "CURRENT", none), (py "STALE", some (py "CANDIDATE_STALE")),
    (py "UNKNOWN", some (py "REQUIRED_CONTEXT_INCOMPLETE"))]
  nodup := by simp

def repositorySnapshotRow : Dict PyStr (Option PyStr) where
  items := [(py "CURRENT", none), (py "MISMATCH", some (py "REPOSITORY_CONTEXT_MISMATCH")),
    (py "UNKNOWN", some (py "REQUIRED_CONTEXT_INCOMPLETE"))]
  nodup := by simp

def repositoryReleaseRow : Dict PyStr (Option PyStr) where
  items := [(py "CLEAN", none), (py "DIRTY", some (py "RELEASE_STATE_NOT_CLEAN")),
    (py "UNKNOWN", some (py "REQUIRED_CONTEXT_INCOMPLETE"))]
  nodup := by simp

def policyContextRow : Dict PyStr (Option PyStr) where
  items := [(py "CURRENT", none), (py "STALE", some (py "POLICY_CONTEXT_STALE")),
    (py "UNKNOWN", some (py "REQUIRED_CONTEXT_INCOMPLETE"))]
  nodup := by simp

/-- An incoherent context has no reason of its own: its violation tags have theirs. -/
def evidenceContextRow : Dict PyStr (Option PyStr) where
  items := [(py "COHERENT", none), (py "INCOHERENT", none),
    (py "UNKNOWN", some (py "REQUIRED_CONTEXT_INCOMPLETE"))]
  nodup := by simp

def scopeRow : Dict PyStr (Option PyStr) where
  items := [(py "COMPLIANT", none), (py "VIOLATION", some (py "SCOPE_VIOLATION")),
    (py "SEMANTIC_UNCERTAIN", some (py "SCOPE_UNCERTAIN")),
    (py "NOT_EVALUATED", some (py "REQUIRED_CONTEXT_INCOMPLETE"))]
  nodup := by simp

def approvalRow : Dict PyStr (Option PyStr) where
  items := [(py "VALID", none), (py "MISSING", some (py "APPROVAL_MISSING")),
    (py "STALE", some (py "APPROVAL_STALE")), (py "UNKNOWN", some (py "APPROVAL_MISSING"))]
  nodup := by simp

def authorityRow : Dict PyStr (Option PyStr) where
  items := [(py "VALID", none), (py "INVALID", some (py "AUTHORITY_INVALID")),
    (py "UNKNOWN", some (py "REQUIRED_CONTEXT_INCOMPLETE"))]
  nodup := by simp

/-- `_ENUM_FACT_REASONS` -/
def enumFactReasonsV1 : Dict PyStr (Dict PyStr (Option PyStr)) where
  items := [(py "task_context_current", taskContextRow),
    (py "candidate_binding_current", candidateBindingRow),
    (py "repository_snapshot_current", repositorySnapshotRow),
    (py "repository_release_clean", repositoryReleaseRow),
    (py "policy_context_current", policyContextRow),
    (py "evidence_context_status", evidenceContextRow),
    (py "scope_status", scopeRow),
    (py "approval_status", approvalRow),
    (py "authority_status", authorityRow)]
  nodup := by simp

/-- `_VIOLATION_TAG_REASONS` -/
def violationTagReasonsV1 : Dict PyStr PyStr where
  items := [(py "TASK_MISMATCH", py "EVIDENCE_TASK_MISMATCH"),
    (py "RUN_MISMATCH", py "EVIDENCE_RUN_MISMATCH"),
    (py "CANDIDATE_MISMATCH", py "EVIDENCE_CANDIDATE_MISMATCH"),
    (py "PROVENANCE_INVALID", py "EVIDENCE_PROVENANCE_INVALID"),
    (py "DUPLICATE_IDENTITY", py "EVIDENCE_DUPLICATE_IDENTITY")]
  nodup := by simp

/-- `_SET_FACT_TRIGGERS` -/
def setFactTriggersV1 : Dict PyStr (Option PyStr) where
  items := [(py "required_requirement_ids", none), (py "satisfied_requirement_ids", none),
    (py "missing_requirement_ids", some (py "REQUIRED_EVIDENCE_MISSING")),
    (py "invalid_requirement_ids", some (py "REQUIRED_EVIDENCE_INVALID")),
    (py "invalid_provenance_evidence_ids", some (py "EVIDENCE_PROVENANCE_INVALID")),
    (py "rejected_evidence_ids", none), (py "unexpected_evidence_ids", none)]
  nodup := by simp

/-- `_VERIFIER_RULE` -/
def verifierRuleV1 : List VerifierRuleRowArgs :=
  [⟨some [py "INVALID"], none, some (py "AUTHORITY_INVALID")⟩,
   ⟨some [py "ABSENT"], none, some (py "REQUIRED_CONTEXT_INCOMPLETE")⟩,
   ⟨some [py "ATTESTED", py "PRESENT_UNATTESTED"], some [py "NOT_INDEPENDENT"],
     some (py "VERIFIER_NOT_INDEPENDENT")⟩,
   ⟨some [py "ATTESTED"], some [py "INDEPENDENT"], none⟩,
   ⟨some [py "ATTESTED"], some [py "UNKNOWN"], some (py "VERIFIER_INDEPENDENCE_UNKNOWN")⟩,
   ⟨some [py "PRESENT_UNATTESTED"], some [py "INDEPENDENT", py "UNKNOWN"],
     some (py "VERIFIER_INDEPENDENCE_UNKNOWN")⟩]

/-! ### the tables pass the checks -/

section
variable (rt : Runtime)

theorem majorityPolicy_grammar :
    tokenGrammar majorityPolicyVersion = true ∧ digestRe majorityPolicyDigest = true := by
  unfold majorityPolicyVersion majorityPolicyDigest digestRe
  rw [py_ofList, py_ofList, py_ofList]
  decide

theorem majorityPolicy_postInit :
    PolicyIdentityArgs.postInit rt ⟨majorityPolicyVersion, majorityPolicyDigest⟩ = .ok () :=
  (PolicyIdentityArgs.postInit_ok_iff rt).mpr majorityPolicy_grammar

theorem ReasonDefinitionArgs.postInit_ok_iff {r : ReasonDefinitionArgs} {u : Unit} :
    r.postInit rt = .ok u ↔ dollar machineCodeRe r.code = true ∧ 0 < r.precedenceRank ∧
      r.category ∈ reasonCategories ∧ r.kind ∈ reasonKinds ∧
      ∀ d ∈ r.ownerDecisionPending, dollar ownerDecisionRe d = true := by
  unfold postInit
  simp only [bind_eq_ok, raiseIf_eq_ok, exists_const, Bool.not_eq_false, not_le, not_not,
    not_exists, not_and]

theorem machineCode_lit (l : List Char) (h : machineCodeRe (l.map CodePoint.ofChar) = true) :
    dollar machineCodeRe (py (String.ofList l)) = true := by
  rw [py_ofList, dollar, h, Bool.true_or]

theorem ownerDecision_lit (l : List Char) (h : (l.map CodePoint.ofChar).take 3 = [79, 68, 45] ∧
    ((l.map CodePoint.ofChar).drop 3).isEmpty = false ∧
    ((l.map CodePoint.ofChar).drop 3).all (fun c => isUpper c || isDigit c || c == 45) = true) :
    dollar ownerDecisionRe (py (String.ofList l)) = true := by
  have hod : py "OD-" = [79, 68, 45] := by
    rw [py_ofList]
    rfl
  rw [py_ofList, dollar, ownerDecisionRe, hod, h.1, h.2.1, h.2.2]
  rfl

theorem reasonDefinitionsV1_postInit : ∀ r ∈ reasonDefinitionsV1, r.postInit rt = .ok () := by
  have hcode : ∀ r ∈ reasonDefinitionsV1, dollar machineCodeRe r.code = true := by
    simp only [reasonDefinitionsV1, List.forall_mem_cons, List.not_mem_nil, false_imp_iff,
      implies_true, and_true]
    and_intros <;> exact machineCode_lit _ (by decide)
  have hpending : ∀ r ∈ reasonDefinitionsV1, ∀ d ∈ r.ownerDecisionPending,
      dollar ownerDecisionRe d = true := by
    simp only [reasonDefinitionsV1, List.forall_mem_cons, List.not_mem_nil, false_imp_iff,
      implies_true, and_true, Option.mem_def, reduceCtorEq, Option.some.injEq, forall_eq', true_and]
    and_intros <;> exact ownerDecision_lit _ (by decide)
  have hrank : ∀ r ∈ reasonDefinitionsV1, 0 < r.precedenceRank := by
    simp [reasonDefinitionsV1]
  have hcategory : ∀ r ∈ reasonDefinitionsV1, r.category ∈ reasonCategories := by
    simp [reasonDefinitionsV1, reasonCategories]
  have hkind : ∀ r ∈ reasonDefinitionsV1, r.kind ∈ reasonKinds := by
    simp [reasonDefinitionsV1, reasonKinds]
  exact fun r hr => (ReasonDefinitionArgs.postInit_ok_iff rt).mpr
    ⟨hcode r hr, hrank r hr, hcategory r hr, hkind r hr, hpending r hr⟩

theorem requireEnumEntries_ok {α : Type} [StrEnum α] {field : PyStr} {i : Nat} {xs : List PyStr}
    {u : Unit} : requireEnumEntries rt α field i xs = .ok u ↔ ∀ x ∈ xs, x ∈ StrEnum.values α := by
  induction xs generalizing i with
  | nil => exact iff_of_true rfl fun x hx => absurd hx List.not_mem_nil
  | cons x xs ih =>
    unfold requireEnumEntries
    simp only [bind_eq_ok, raiseIf_eq_ok, exists_const, ih, List.forall_mem_cons, not_not]

theorem verifierRuleV1_postInit : ∀ r ∈ verifierRuleV1, r.postInit rt = .ok () := by
  have h : ∀ r ∈ verifierRuleV1,
      (∀ x ∈ r.identity.getD [], x ∈ StrEnum.values VerifierIdentityStatus) ∧
      ∀ x ∈ r.independence.getD [], x ∈ StrEnum.values VerifierIndependenceStatus := by
    simp [verifierRuleV1, StrEnum.values, StrEnum.members, StrEnum.value]
  intro r hr
  unfold VerifierRuleRowArgs.postInit
  simp only [bind_eq_ok, exists_const, requireEnumEntries_ok]
  exact h r hr

def mergeEligibilityPolicyV1Args : MergeEligibilityPolicyArgs rt where
  declaredIdentity := ⟨⟨majorityPolicyVersion, majorityPolicyDigest⟩, majorityPolicy_postInit rt⟩
  reasonDefinitions := reasonDefinitionsV1.pmap (fun r h => ⟨r, h⟩) (reasonDefinitionsV1_postInit rt)
  enumFactReasons := enumFactReasonsV1
  violationTagReasons := violationTagReasonsV1
  setFactTriggers := setFactTriggersV1
  verifierRule := verifierRuleV1.pmap (fun r h => ⟨r, h⟩) (verifierRuleV1_postInit rt)

theorem map_reasonDefinitionsV1 {β : Type} (g : ReasonDefinitionArgs → β) :
    ((mergeEligibilityPolicyV1Args rt).reasonDefinitions.map
      fun r => g r.toReasonDefinitionArgs) = reasonDefinitionsV1.map g := by
  show (List.pmap _ _ _).map _ = _
  rw [List.map_pmap, List.pmap_eq_map]

theorem codesV1 : (mergeEligibilityPolicyV1Args rt).codes =
    reasonDefinitionsV1.map fun r => r.code := map_reasonDefinitionsV1 rt fun r => r.code

theorem tables_known : (∀ a ∈ enumFactReasonsV1.items, ∀ kv ∈ a.2.items, ∀ c ∈ kv.2,
      c ∈ reasonDefinitionsV1.map fun r => r.code) ∧
    (∀ kv ∈ violationTagReasonsV1.items, kv.2 ∈ reasonDefinitionsV1.map fun r => r.code) ∧
    (∀ kv ∈ setFactTriggersV1.items, ∀ c ∈ kv.2, c ∈ reasonDefinitionsV1.map fun r => r.code) ∧
    ∀ row ∈ verifierRuleV1, ∀ c ∈ row.reason, c ∈ reasonDefinitionsV1.map fun r => r.code := by
  simp only [enumFactReasonsV1, taskContextRow, candidateBindingRow, repositorySnapshotRow,
    repositoryReleaseRow, policyContextRow, evidenceContextRow, scopeRow, approvalRow, authorityRow,
    violationTagReasonsV1, setFactTriggersV1, verifierRuleV1, List.forall_mem_cons,
    List.not_mem_nil, false_imp_iff, implies_true, and_true, true_and, Option.mem_def,
    reduceCtorEq, Option.some.injEq, forall_eq']
  simp [reasonDefinitionsV1]

theorem rows_total : ∀ a ∈ enumFactFields, ∃ row, enumFactReasonsV1.get? a.1 = some row ∧
    ∀ v, v ∈ row.keys ↔ v ∈ a.2 := by
  simp only [enumFactFields, List.forall_mem_cons, List.not_mem_nil, false_imp_iff, implies_true,
    and_true]
  refine ⟨⟨taskContextRow, ?_, fun v => Iff.rfl⟩, ⟨candidateBindingRow, ?_, fun v => Iff.rfl⟩,
    ⟨repositorySnapshotRow, ?_, fun v => Iff.rfl⟩, ⟨repositoryReleaseRow, ?_, fun v => Iff.rfl⟩,
    ⟨policyContextRow, ?_, fun v => Iff.rfl⟩, ⟨evidenceContextRow, ?_, fun v => Iff.rfl⟩,
    ⟨scopeRow, ?_, fun v => Iff.rfl⟩, ⟨approvalRow, ?_, fun v => Iff.rfl⟩,
    ⟨authorityRow, ?_, fun v => Iff.rfl⟩⟩ <;>
  exact assoc_of_mem enumFactReasonsV1.nodup (by simp [enumFactReasonsV1])

theorem mergeEligibilityPolicyV1_valid : (mergeEligibilityPolicyV1Args rt).Valid := by
  obtain ⟨h1, h2, h3, h4⟩ := tables_known
  rw [← codesV1 rt] at h1 h2 h3 h4
  refine ⟨?_, ?_, fun n => Iff.rfl, fun a ha => ?_, fun t => Iff.rfl, h2, fun n => ?_, h3, ?_, ?_⟩
  · rw [codesV1]
    simp [reasonDefinitionsV1]
  · show (List.map _ _).Nodup
    rw [map_reasonDefinitionsV1 rt fun r => r.precedenceRank]
    simp [reasonDefinitionsV1]
  · obtain ⟨row, hrow, htotal⟩ := rows_total a ha
    exact ⟨row, hrow, htotal, h1 _ (assoc_mem hrow)⟩
  · have h : setEq (setFactTriggersV1.items.map Prod.fst) setFactFields = true := by
      simp [setEq, setFactTriggersV1, setFactFields]
    exact setEq_iff.mp h n
  · intro row hrow
    obtain ⟨r, hr, rfl⟩ := List.mem_pmap.mp hrow
    exact h4 r hr
  · intro a b
    have hrow : ∃ r ∈ verifierRuleV1,
        r.matches (StrEnum.value a) (StrEnum.value b) = true := by
      cases a <;> cases b <;>
        simp [verifierRuleV1, VerifierRuleRowArgs.matches, StrEnum.value]
    obtain ⟨r, hr, hm⟩ := hrow
    exact ⟨⟨r, verifierRuleV1_postInit rt r hr⟩, List.mem_pmap.mpr ⟨r, hr, rfl⟩, hm⟩

/-- `MERGE_ELIGIBILITY_POLICY_V1` -/
def mergeEligibilityPolicyV1 : MergeEligibilityPolicy rt where
  toMergeEligibilityPolicyArgs := mergeEligibilityPolicyV1Args rt
  postInit_ok := (MergeEligibilityPolicyArgs.postInit_ok_iff rt).mpr
    (mergeEligibilityPolicyV1_valid rt)

end

/-! ### what the tables say -/

/-- The row gives a code with the property `Q` for the value. -/
def Fires (row : Dict PyStr (Option PyStr)) (value : PyStr) (Q : PyStr → Prop) : Prop :=
  ∃ c, row.get? value = some (some c) ∧ Q c

/-- The reason of the first row of the verifier rule that matches. -/
def verifierReasonV1 (identity : VerifierIdentityStatus)
    (independence : VerifierIndependenceStatus) : Option PyStr :=
  (verifierRuleV1.find? fun row =>
    row.matches (StrEnum.value identity) (StrEnum.value independence)).bind fun row => row.reason

section
variable {rt : Runtime} {Q : PyStr → Prop}

theorem find_verifierRuleV1 (q : VerifierRuleRowArgs → Bool) :
    ((mergeEligibilityPolicyV1 rt).verifierRule.find? fun row => q row.toVerifierRuleRowArgs).map
      (fun row => row.toVerifierRuleRowArgs) = verifierRuleV1.find? q := by
  have hmap : ((mergeEligibilityPolicyV1 rt).verifierRule.map
      fun row => row.toVerifierRuleRowArgs) = verifierRuleV1 := by
    show (List.pmap _ _ _).map _ = _
    rw [List.map_pmap, List.pmap_eq_map, List.map_id']
  rw [← hmap, List.find?_map]
  rfl

theorem enumFacts_fire (f : EligibilityFacts) :
    (∃ a ∈ f.enumAttrs, ∃ row, enumFactReasonsV1.get? a.1 = some row ∧ Fires row a.2 Q) ↔
      Fires taskContextRow (StrEnum.value f.taskContextCurrent) Q ∨
      Fires candidateBindingRow (StrEnum.value f.candidateBindingCurrent) Q ∨
      Fires repositorySnapshotRow (StrEnum.value f.repositorySnapshotCurrent) Q ∨
      Fires repositoryReleaseRow (StrEnum.value f.repositoryReleaseClean) Q ∨
      Fires policyContextRow (StrEnum.value f.policyContextCurrent) Q ∨
      Fires evidenceContextRow (StrEnum.value f.evidenceContextStatus) Q ∨
      Fires scopeRow (StrEnum.value f.scopeStatus) Q ∨
      Fires approvalRow (StrEnum.value f.approvalStatus) Q ∨
      Fires authorityRow (StrEnum.value f.authorityStatus) Q := by
  have row : ∀ a ∈ enumFactReasonsV1.items, enumFactReasonsV1.get? a.1 = some a.2 := fun a ha =>
    assoc_of_mem enumFactReasonsV1.nodup ha
  simp only [enumFactReasonsV1, List.forall_mem_cons, List.not_mem_nil, false_imp_iff, implies_true,
    and_true] at row
  obtain ⟨h1, h2, h3, h4, h5, h6, h7, h8, h9⟩ := row
  simp only [EligibilityFacts.enumAttrs, List.exists_mem_cons_iff, List.not_mem_nil, false_and,
    exists_false, or_false, enumFactReasonsV1, h1, h2, h3, h4, h5, h6, h7, h8, h9,
    Option.some.injEq, exists_eq_left']

theorem setFacts_fire (f : EligibilityFacts) :
    (∃ a ∈ f.setAttrs, a.2 ≠ [] ∧ ∃ c, setFactTriggersV1.get? a.1 = some (some c) ∧ Q c) ↔
      (f.invalidRequirementIds ≠ [] ∧ Q (py "REQUIRED_EVIDENCE_INVALID")) ∨
      (f.missingRequirementIds ≠ [] ∧ Q (py "REQUIRED_EVIDENCE_MISSING")) ∨
      (f.invalidProvenanceEvidenceIds ≠ [] ∧ Q (py "EVIDENCE_PROVENANCE_INVALID")) := by
  simp [EligibilityFacts.setAttrs, setFactTriggersV1, Dict.get?, assoc_cons]

/-- A triggered reason comes from a row, from a violation tag, from one of three identifier sets
or from the verifier rule. -/
theorem exists_triggered_iff (f : EligibilityFacts) :
    (∃ c, Triggered f (mergeEligibilityPolicyV1 rt) c ∧ Q c) ↔
      (Fires taskContextRow (StrEnum.value f.taskContextCurrent) Q ∨
        Fires candidateBindingRow (StrEnum.value f.candidateBindingCurrent) Q ∨
        Fires repositorySnapshotRow (StrEnum.value f.repositorySnapshotCurrent) Q ∨
        Fires repositoryReleaseRow (StrEnum.value f.repositoryReleaseClean) Q ∨
        Fires policyContextRow (StrEnum.value f.policyContextCurrent) Q ∨
        Fires evidenceContextRow (StrEnum.value f.evidenceContextStatus) Q ∨
        Fires scopeRow (StrEnum.value f.scopeStatus) Q ∨
        Fires approvalRow (StrEnum.value f.approvalStatus) Q ∨
        Fires authorityRow (StrEnum.value f.authorityStatus) Q) ∨
      (∃ tag ∈ f.evidenceContextViolations,
        ∃ c, violationTagReasonsV1.get? (StrEnum.value tag) = some c ∧ Q c) ∨
      ((f.invalidRequirementIds ≠ [] ∧ Q (py "REQUIRED_EVIDENCE_INVALID")) ∨
        (f.missingRequirementIds ≠ [] ∧ Q (py "REQUIRED_EVIDENCE_MISSING")) ∨
        (f.invalidProvenanceEvidenceIds ≠ [] ∧ Q (py "EVIDENCE_PROVENANCE_INVALID"))) ∨
      ∃ c, verifierReasonV1 f.verifierIdentityStatus f.verifierIndependenceStatus = some c ∧
        Q c := by
  rw [← enumFacts_fire, ← setFacts_fire]
  constructor
  · rintro ⟨c, h, hQ⟩
    cases h with
    | enumFact ha hr hc => exact Or.inl ⟨_, ha, _, hr, c, hc, hQ⟩
    | violation ht hc => exact Or.inr (Or.inl ⟨_, ht, c, hc, hQ⟩)
    | setFact ha hne hc => exact Or.inr (Or.inr (Or.inl ⟨_, ha, hne, c, hc, hQ⟩))
    | verifier hr hc =>
      refine Or.inr (Or.inr (Or.inr ⟨c, ?_, hQ⟩))
      unfold verifierReasonV1
      rw [← @find_verifierRuleV1 rt, hr]
      exact hc
  · rintro (⟨a, ha, row, hr, c, hc, hQ⟩ | ⟨tag, ht, c, hc, hQ⟩ | ⟨a, ha, hne, c, hc, hQ⟩ |
      ⟨c, hc, hQ⟩)
    · exact ⟨c, .enumFact ha hr hc, hQ⟩
    · exact ⟨c, .violation ht hc, hQ⟩
    · exact ⟨c, .setFact ha hne hc, hQ⟩
    · unfold verifierReasonV1 at hc
      rw [← @find_verifierRuleV1 rt, Option.bind_map] at hc
      obtain ⟨row, hr, hc⟩ := Option.bind_eq_some_iff.mp hc
      exact ⟨c, .verifier hr hc, hQ⟩

/-! ### what the facts must be -/

/-- No fact of a kind that the policy blocks. -/
structure Unblocked (f : EligibilityFactsArgs) : Prop where
  taskContext : f.taskContextCurrent = .current
  candidateBinding : f.candidateBindingCurrent = .current
  repositorySnapshot : f.repositorySnapshotCurrent = .current
  releaseClean : f.repositoryReleaseClean = .clean
  policyContext : f.policyContextCurrent = .current
  evidenceContext : f.evidenceContextStatus = .coherent
  scope : f.scopeStatus = .compliant ∨ f.scopeStatus = .semanticUncertain
  approval : f.approvalStatus = .valid
  authority : f.authorityStatus = .valid
  identity : f.verifierIdentityStatus = .attested ∨ f.verifierIdentityStatus = .presentUnattested
  independence :
    f.verifierIndependenceStatus = .independent ∨ f.verifierIndependenceStatus = .unknown
  missing : f.missingRequirementIds = []
  invalid : f.invalidRequirementIds = []
  invalidProvenance : f.invalidProvenanceEvidenceIds = []

/-- A fact that calls for a review: an uncertain scope, a verifier that is not attested or whose
independence is unknown. -/
def Uncertain (f : EligibilityFactsArgs) : Prop :=
  f.scopeStatus = .semanticUncertain ∨ f.verifierIdentityStatus = .presentUnattested ∨
    f.verifierIndependenceStatus = .unknown

/-- Every fact as it should be. -/
structure Eligible (f : EligibilityFactsArgs) : Prop where
  taskContext : f.taskContextCurrent = .current
  candidateBinding : f.candidateBindingCurrent = .current
  repositorySnapshot : f.repositorySnapshotCurrent = .current
  releaseClean : f.repositoryReleaseClean = .clean
  policyContext : f.policyContextCurrent = .current
  evidenceContext : f.evidenceContextStatus = .coherent
  scope : f.scopeStatus = .compliant
  approval : f.approvalStatus = .valid
  authority : f.authorityStatus = .valid
  identity : f.verifierIdentityStatus = .attested
  independence : f.verifierIndependenceStatus = .independent
  missing : f.missingRequirementIds = []
  invalid : f.invalidRequirementIds = []
  invalidProvenance : f.invalidProvenanceEvidenceIds = []
  satisfied : f.satisfiedRequirementIds = f.requiredRequirementIds

theorem satisfied_eq_required (f : EligibilityFacts) (hm : f.missingRequirementIds = [])
    (hi : f.invalidRequirementIds = []) : f.satisfiedRequirementIds = f.requiredRequirementIds := by
  have hv := f.valid
  refine strict_sorted_ext hv.satisfied.strict hv.required.strict fun x => ?_
  rw [hv.partition, hm, hi]
  simp only [List.not_mem_nil, or_false]

theorem eligible_iff (f : EligibilityFacts) :
    Eligible f.toEligibilityFactsArgs ↔
      Unblocked f.toEligibilityFactsArgs ∧ ¬ Uncertain f.toEligibilityFactsArgs := by
  constructor
  · rintro ⟨h1, h2, h3, h4, h5, h6, h7, h8, h9, h10, h11, h12, h13, h14, _⟩
    refine ⟨⟨h1, h2, h3, h4, h5, h6, Or.inl h7, h8, h9, Or.inl h10, Or.inl h11, h12, h13, h14⟩, ?_⟩
    unfold Uncertain
    rw [h7, h10, h11]
    simp
  · rintro ⟨⟨h1, h2, h3, h4, h5, h6, h7, h8, h9, h10, h11, h12, h13, h14⟩, hu⟩
    unfold Uncertain at hu
    push Not at hu
    exact ⟨h1, h2, h3, h4, h5, h6, h7.resolve_right hu.1, h8, h9, h10.resolve_right hu.2.1,
      h11.resolve_right hu.2.2, h12, h13, h14, satisfied_eq_required f h12 h13⟩

/-! ### reasons that block, reasons for a review -/

/-- `Q` holds of every code that blocks. -/
def OnBlocking (Q : PyStr → Prop) : Prop :=
  ∀ r ∈ reasonDefinitionsV1, r.defaultDisposition = .block → Q r.code

theorem fires_iff (hQ : OnBlocking Q) (f : EligibilityFactsArgs) :
    (Fires taskContextRow (StrEnum.value f.taskContextCurrent) Q ↔
      f.taskContextCurrent ≠ .current) ∧
    (Fires candidateBindingRow (StrEnum.value f.candidateBindingCurrent) Q ↔
      f.candidateBindingCurrent ≠ .current) ∧
    (Fires repositorySnapshotRow (StrEnum.value f.repositorySnapshotCurrent) Q ↔
      f.repositorySnapshotCurrent ≠ .current) ∧
    (Fires repositoryReleaseRow (StrEnum.value f.repositoryReleaseClean) Q ↔
      f.repositoryReleaseClean ≠ .clean) ∧
    (Fires policyContextRow (StrEnum.value f.policyContextCurrent) Q ↔
      f.policyContextCurrent ≠ .current) ∧
    (Fires evidenceContextRow (StrEnum.value f.evidenceContextStatus) Q ↔
      f.evidenceContextStatus = .unknown) ∧
    (Fires scopeRow (StrEnum.value f.scopeStatus) Q ↔
      ¬ (f.scopeStatus = .compliant ∨ f.scopeStatus = .semanticUncertain) ∨
        f.scopeStatus = .semanticUncertain ∧ Q (py "SCOPE_UNCERTAIN")) ∧
    (Fires approvalRow (StrEnum.value f.approvalStatus) Q ↔ f.approvalStatus ≠ .valid) ∧
    (Fires authorityRow (StrEnum.value f.authorityStatus) Q ↔ f.authorityStatus ≠ .valid) := by
  simp only [OnBlocking, reasonDefinitionsV1, List.forall_mem_cons, reduceCtorEq, false_imp_iff,
    true_imp_iff, true_and] at hQ
  refine ⟨?_, ?_, ?_, ?_, ?_, ?_, ?_, ?_, ?_⟩
  · cases f.taskContextCurrent <;>
      simp [Fires, taskContextRow, Dict.get?, assoc_cons, StrEnum.value, hQ]
  · cases f.candidateBindingCurrent <;>
      simp [Fires, candidateBindingRow, Dict.get?, assoc_cons, StrEnum.value, hQ]
  · cases f.repositorySnapshotCurrent <;>
      simp [Fires, repositorySnapshotRow, Dict.get?, assoc_cons, StrEnum.value, hQ]
  · cases f.repositoryReleaseClean <;>
      simp [Fires, repositoryReleaseRow, Dict.get?, assoc_cons, StrEnum.value, hQ]
  · cases f.policyContextCurrent <;>
      simp [Fires, policyContextRow, Dict.get?, assoc_cons, StrEnum.value, hQ]
  · cases f.evidenceContextStatus <;>
      simp [Fires, evidenceContextRow, Dict.get?, assoc_cons, StrEnum.value, hQ]
  · cases f.scopeStatus <;>
      simp [Fires, scopeRow, Dict.get?, assoc_cons, StrEnum.value, hQ]
  · cases f.approvalStatus <;>
      simp [Fires, approvalRow, Dict.get?, assoc_cons, StrEnum.value, hQ]
  · cases f.authorityStatus <;>
      simp [Fires, authorityRow, Dict.get?, assoc_cons, StrEnum.value, hQ]

theorem violation_fires (hQ : OnBlocking Q) (tag : EvidenceContextViolation) :
    ∃ c, violationTagReasonsV1.get? (StrEnum.value tag) = some c ∧ Q c := by
  simp only [OnBlocking, reasonDefinitionsV1, List.forall_mem_cons, reduceCtorEq, false_imp_iff,
    true_imp_iff, true_and] at hQ
  cases tag <;> simp [violationTagReasonsV1, Dict.get?, assoc_cons, StrEnum.value, hQ]

theorem verifier_fires (hQ : OnBlocking Q) (a : VerifierIdentityStatus)
    (b : VerifierIndependenceStatus) :
    (∃ c, verifierReasonV1 a b = some c ∧ Q c) ↔
      ¬ (a = .attested ∨ a = .presentUnattested) ∨ ¬ (b = .independent ∨ b = .unknown) ∨
        (a = .presentUnattested ∨ b = .unknown) ∧ Q (py "VERIFIER_INDEPENDENCE_UNKNOWN") := by
  simp only [OnBlocking, reasonDefinitionsV1, List.forall_mem_cons, reduceCtorEq, false_imp_iff,
    true_imp_iff, true_and] at hQ
  cases a <;> cases b <;>
    simp [verifierReasonV1, verifierRuleV1, VerifierRuleRowArgs.matches, StrEnum.value, hQ]

theorem coherent_iff (f : EligibilityFacts) :
    f.evidenceContextStatus ≠ .coherent ↔
      f.evidenceContextStatus = .unknown ∨ f.evidenceContextViolations ≠ [] := by
  rw [← f.valid.coherence]
  cases f.evidenceContextStatus <;> simp

theorem not_unblocked_iff (f : EligibilityFactsArgs) : ¬ Unblocked f ↔
    f.taskContextCurrent ≠ .current ∨ f.candidateBindingCurrent ≠ .current ∨
    f.repositorySnapshotCurrent ≠ .current ∨ f.repositoryReleaseClean ≠ .clean ∨
    f.policyContextCurrent ≠ .current ∨ f.evidenceContextStatus ≠ .coherent ∨
    ¬ (f.scopeStatus = .compliant ∨ f.scopeStatus = .semanticUncertain) ∨
    f.approvalStatus ≠ .valid ∨ f.authorityStatus ≠ .valid ∨
    ¬ (f.verifierIdentityStatus = .attested ∨ f.verifierIdentityStatus = .presentUnattested) ∨
    ¬ (f.verifierIndependenceStatus = .independent ∨ f.verifierIndependenceStatus = .unknown) ∨
    f.missingRequirementIds ≠ [] ∨ f.invalidRequirementIds ≠ [] ∨
    f.invalidProvenanceEvidenceIds ≠ [] := by
  simp only [ne_eq, ← not_and_or]
  exact not_congr
    ⟨fun ⟨h1, h2, h3, h4, h5, h6, h7, h8, h9, h10, h11, h12, h13, h14⟩ =>
      ⟨h1, h2, h3, h4, h5, h6, h7, h8, h9, h10, h11, h12, h13, h14⟩,
    fun ⟨h1, h2, h3, h4, h5, h6, h7, h8, h9, h10, h11, h12, h13, h14⟩ =>
      ⟨h1, h2, h3, h4, h5, h6, h7, h8, h9, h10, h11, h12, h13, h14⟩⟩

theorem exists_triggered (hQ : OnBlocking Q) (f : EligibilityFacts) :
    (∃ c, Triggered f (mergeEligibilityPolicyV1 rt) c ∧ Q c) ↔
      ¬ Unblocked f.toEligibilityFactsArgs ∨
      (f.scopeStatus = .semanticUncertain ∧ Q (py "SCOPE_UNCERTAIN")) ∨
      ((f.verifierIdentityStatus = .presentUnattested ∨
        f.verifierIndependenceStatus = .unknown) ∧ Q (py "VERIFIER_INDEPENDENCE_UNKNOWN")) := by
  have htags : (∃ tag ∈ f.evidenceContextViolations,
      ∃ c, violationTagReasonsV1.get? (StrEnum.value tag) = some c ∧ Q c) ↔
      f.evidenceContextViolations ≠ [] := by
    simp only [violation_fires hQ, and_true]
    constructor
    · rintro ⟨tag, h⟩
      exact List.ne_nil_of_mem h
    · exact List.exists_mem_of_ne_nil _
  obtain ⟨h1, h2, h3, h4, h5, h6, h7, h8, h9⟩ := fires_iff hQ f.toEligibilityFactsArgs
  rw [exists_triggered_iff, htags, verifier_fires hQ, not_unblocked_iff, coherent_iff, h1, h2, h3,
    h4, h5, h6, h7, h8, h9]
  simp only [OnBlocking, reasonDefinitionsV1, List.forall_mem_cons, reduceCtorEq, false_imp_iff,
    true_imp_iff, true_and] at hQ
  simp only [hQ, and_true]
  exact Iff.of_eq (by ac_rfl)

theorem dispositionV1 {c : PyStr} {d : Disposition} :
    (mergeEligibilityPolicyV1 rt).dispositionByCode c = some d ↔
      ∃ r ∈ reasonDefinitionsV1, r.code = c ∧ r.defaultDisposition = d := by
  have htable : ((mergeEligibilityPolicyV1 rt).reasonDefinitions.map fun r =>
      (r.code, r.defaultDisposition)) = reasonDefinitionsV1.map fun r =>
      (r.code, r.defaultDisposition) :=
    map_reasonDefinitionsV1 rt fun r => (r.code, r.defaultDisposition)
  have hnd := (mergeEligibilityPolicyV1 rt).valid.codes_nodup
  unfold MergeEligibilityPolicyArgs.dispositionByCode
  rw [htable, assoc_eq_some_iff]
  · simp only [List.mem_map, Prod.mk.injEq]
  · rw [List.map_map]
    exact codesV1 rt ▸ hnd

theorem scope_uncertain_not_block :
    (mergeEligibilityPolicyV1 rt).dispositionByCode (py "SCOPE_UNCERTAIN") ≠ some .block := by
  rw [Ne, dispositionV1]
  simp [reasonDefinitionsV1]

theorem verifier_unknown_not_block : (mergeEligibilityPolicyV1 rt).dispositionByCode
    (py "VERIFIER_INDEPENDENCE_UNKNOWN") ≠ some .block := by
  rw [Ne, dispositionV1]
  simp [reasonDefinitionsV1]

theorem blocked_iff (f : EligibilityFacts) :
    (∃ c, Triggered f (mergeEligibilityPolicyV1 rt) c ∧
      (mergeEligibilityPolicyV1 rt).dispositionByCode c = some .block) ↔
      ¬ Unblocked f.toEligibilityFactsArgs := by
  rw [exists_triggered fun r hr hb => dispositionV1.mpr ⟨r, hr, rfl, hb⟩]
  simp only [scope_uncertain_not_block, verifier_unknown_not_block, and_false, or_false]

theorem triggered_iff (f : EligibilityFacts) :
    (∃ c, Triggered f (mergeEligibilityPolicyV1 rt) c) ↔
      ¬ Unblocked f.toEligibilityFactsArgs ∨ Uncertain f.toEligibilityFactsArgs := by
  have h := @exists_triggered rt (fun _ => True) (fun _ _ _ => trivial) f
  simp only [and_true] at h
  exact h

theorem dispositionV1_ne_eligible (c : PyStr) :
    (mergeEligibilityPolicyV1 rt).dispositionByCode c ≠ some .eligibleToMergeUnderPolicy := by
  rw [Ne, dispositionV1]
  have h : ∀ r ∈ reasonDefinitionsV1, r.defaultDisposition ≠ .eligibleToMergeUnderPolicy := by
    simp [reasonDefinitionsV1]
  exact fun ⟨r, hr, _, hd⟩ => h r hr hd

theorem evaluate_policyV1 (i : MergeEligibilityPolicyInput rt) :
    ∃ core, evaluateDecisionCore i (mergeEligibilityPolicyV1 rt) = .ok core ∧
      (core.disposition = .eligibleToMergeUnderPolicy ↔
        Unblocked i.facts.toEligibilityFactsArgs ∧ ¬ Uncertain i.facts.toEligibilityFactsArgs) ∧
      (core.disposition = .reviewRequired ↔
        Unblocked i.facts.toEligibilityFactsArgs ∧ Uncertain i.facts.toEligibilityFactsArgs) ∧
      (core.disposition = .block ↔ ¬ Unblocked i.facts.toEligibilityFactsArgs) := by
  obtain ⟨core, hok, hspec⟩ := evaluateDecisionCore_ok i (mergeEligibilityPolicyV1 rt)
    fun c _ => dispositionV1_ne_eligible c
  have hblock := hspec.block_iff.trans (blocked_iff i.facts)
  have helig : core.disposition = .eligibleToMergeUnderPolicy ↔
      Unblocked i.facts.toEligibilityFactsArgs ∧ ¬ Uncertain i.facts.toEligibilityFactsArgs := by
    rw [hspec.eligible_iff, ← not_exists, triggered_iff, not_or, not_not]
  refine ⟨core, hok, helig, ?_, hblock⟩
  cases hd : core.disposition with
  | eligibleToMergeUnderPolicy =>
    exact iff_of_false (by simp) fun h => (helig.mp hd).2 h.2
  | reviewRequired =>
    have h1 := mt hblock.mpr (by rw [hd]; simp)
    have h2 := mt helig.mpr (by rw [hd]; simp)
    exact iff_of_true rfl ⟨not_not.mp h1, by by_contra hu; exact h2 ⟨not_not.mp h1, hu⟩⟩
  | block => exact iff_of_false (by simp) fun h => hblock.mp hd h.1

/-- **The production policy is fail-closed.**  It returns a result for every input; the result is
ELIGIBLE exactly on the `Eligible` facts, REVIEW_REQUIRED exactly on the facts that are unblocked
and uncertain, and BLOCK on all others. -/
theorem policyV1_disposition (i : MergeEligibilityPolicyInput rt) :
    ∃ core, evaluateDecisionCore i (mergeEligibilityPolicyV1 rt) = .ok core ∧
      (core.disposition = .eligibleToMergeUnderPolicy ↔
        Eligible i.facts.toEligibilityFactsArgs) ∧
      (core.disposition = .reviewRequired ↔
        Unblocked i.facts.toEligibilityFactsArgs ∧ Uncertain i.facts.toEligibilityFactsArgs) ∧
      (core.disposition = .block ↔ ¬ Unblocked i.facts.toEligibilityFactsArgs) := by
  simp only [eligible_iff]
  exact evaluate_policyV1 i

end

/-! ### an input -/

theorem idSet_nil : IdSet [] := ⟨by simp, by simp, List.Pairwise.nil⟩

/-- Facts whose required requirements `ids` are all satisfied, all as they should be but for the
verifier. -/
def attestedFacts (ids : List PyStr) (hids : IdSet ids) (identity : VerifierIdentityStatus)
    (independence : VerifierIndependenceStatus) : EligibilityFacts where
  taskContextCurrent := .current
  candidateBindingCurrent := .current
  repositorySnapshotCurrent := .current
  repositoryReleaseClean := .clean
  policyContextCurrent := .current
  evidenceContextStatus := .coherent
  evidenceContextViolations := []
  scopeStatus := .compliant
  approvalStatus := .valid
  authorityStatus := .valid
  verifierIdentityStatus := identity
  verifierIndependenceStatus := independence
  requiredRequirementIds := ids
  satisfiedRequirementIds := ids
  invalidRequirementIds := []
  missingRequirementIds := []
  rejectedEvidenceIds := []
  invalidProvenanceEvidenceIds := []
  unexpectedEvidenceIds := []
  postInit_ok := by
    rw [EligibilityFactsArgs.postInit_ok_iff]
    have h := idSet_nil
    exact ⟨List.Pairwise.nil, hids, hids, h, h, h, h, h, by simp, by simp, by simp, by simp, by simp⟩

def policyInputV1 (rt : Runtime) (facts : EligibilityFacts) : MergeEligibilityPolicyInput rt where
  taskId := py "TASK-1"
  taskContractDigest := majorityPolicyDigest
  candidateDigest := majorityPolicyDigest
  repositorySnapshotDigest := majorityPolicyDigest
  verificationBundleDigest := majorityPolicyDigest
  approvalDigestOrSentinel := approvalSentinel
  authorityBindingDigest := majorityPolicyDigest
  verifierBindingDigest := majorityPolicyDigest
  policyDigest := majorityPolicyDigest
  policyVersion := majorityPolicyVersion
  evaluatorVersion := py "v1"
  evaluationMode := .enforce
  policyRecordSchemaVersion := Tomtit.policyRecordSchemaVersion
  policyRecordSchemaDigest := Tomtit.policyRecordSchemaDigest rt
  canonicalizationVersion := Tomtit.canonicalizationVersion
  canonicalizationContractDigest := Tomtit.canonicalizationContractDigest rt
  facts := facts
  postInit_ok := by
    rw [MergeEligibilityPolicyInputArgs.postInit_ok_iff]
    obtain ⟨hv, hd⟩ := majorityPolicy_grammar
    refine ⟨?_, hd, hd, hd, hd, Or.inl rfl, hd, hd, hd, hv, ?_, rfl, rfl, rfl, rfl⟩
    · show tokenGrammar (py _) = true
      rw [py_ofList]
      decide
    · show tokenGrammar (py _) = true
      rw [py_ofList]
      decide

/-- A verifier that is independent but not attested: the only deviation from eligible facts is
neither an uncertain scope nor an unknown independence, and still a review is required. -/
theorem policyV1_review_of_unattested :
    ∃ core, evaluateDecisionCore
        (policyInputV1 (small 4300) (attestedFacts [] idSet_nil .presentUnattested .independent))
        (mergeEligibilityPolicyV1 (small 4300)) = .ok core ∧
      core.disposition = .reviewRequired ∧
      (attestedFacts [] idSet_nil .presentUnattested .independent).scopeStatus ≠
        .semanticUncertain ∧
      (attestedFacts [] idSet_nil .presentUnattested .independent).verifierIndependenceStatus ≠
        .unknown := by
  obtain ⟨core, hok, _, hreview, _⟩ := evaluate_policyV1
    (policyInputV1 (small 4300) (attestedFacts [] idSet_nil .presentUnattested .independent))
  refine ⟨core, hok, hreview.mpr ⟨?_, Or.inr (Or.inl rfl)⟩, by decide, by decide⟩
  exact ⟨rfl, rfl, rfl, rfl, rfl, rfl, Or.inl rfl, rfl, rfl, Or.inr rfl, Or.inl rfl, rfl, rfl, rfl⟩

end Tomtit
