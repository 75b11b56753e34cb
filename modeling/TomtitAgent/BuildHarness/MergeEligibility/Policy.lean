import TomtitAgent.BuildHarness.MergeEligibility.Facts

/-!
# `merge_eligibility.py`: policy data

* `PolicyIdentity`, `ReasonDefinition`, `VerifierRuleRow`, `MergeEligibilityPolicy`   the
  arguments that the constructors accept;
* `MergeEligibilityPolicyArgs.Valid`   what the policy constructor establishes: unique codes and
  ranks, total tables over known codes, a verifier rule that covers every combination;
* `resolveVerifierReason`   the first matching row of the verifier rule.

A mapping is a `Dict`.  The constructor stores fresh copies that are equal to its arguments, so a
policy keeps the arguments.  In a verifier row a status and its value are the same string.
-/

open Py

namespace Tomtit

section
variable (rt : Runtime)

/-! ### identities -/

structure PolicyIdentityArgs where
  policyVersion : PyStr
  policyDigest : PyStr
deriving DecidableEq

def PolicyIdentityArgs.postInit (p : PolicyIdentityArgs) : Except PyExc Unit := do
  requireVersion rt (py "policy_version") p.policyVersion
  requireDigest rt (py "policy_digest") p.policyDigest

/-- The full mandatory pair of version and digest. -/
@[ext]
structure PolicyIdentity extends PolicyIdentityArgs where
  postInit_ok : toPolicyIdentityArgs.postInit rt = .ok ()

theorem PolicyIdentityArgs.postInit_ok_iff {p : PolicyIdentityArgs} {u : Unit} :
    p.postInit rt = .ok u ↔ tokenGrammar p.policyVersion = true ∧ digestRe p.policyDigest = true := by
  unfold postInit requireVersion
  simp only [bind_eq_ok, exists_const, requireToken_ok, requireDigest_ok]

/-! ### reasons -/

/-- `[A-Z][A-Z0-9_]*` -/
def machineCodeRe : PyStr → Bool := wordRe isUpper fun c => isUpper c || isDigit c || c == 95

/-- `OD-[A-Z0-9-]+` -/
def ownerDecisionRe (s : PyStr) : Bool :=
  s.take 3 == py "OD-" && !(s.drop 3).isEmpty &&
    (s.drop 3).all fun c => isUpper c || isDigit c || c == 45

def reasonCategories : List PyStr :=
  [py "SCOPE", py "REPO_STATE", py "INDEPENDENCE", py "EVIDENCE", py "FRESHNESS", py "INTEGRITY",
   py "APPROVAL", py "CONTEXT"]

def reasonKinds : List PyStr := [py "FACTUAL", py "SEMANTIC"]

structure ReasonDefinitionArgs where
  code : PyStr
  precedenceRank : Int
  category : PyStr
  kind : PyStr
  defaultDisposition : Disposition
  ownerDecisionPending : Option PyStr

def ReasonDefinitionArgs.postInit (r : ReasonDefinitionArgs) : Except PyExc Unit := do
  raiseIf (dollar machineCodeRe r.code = false) (mergeEligibilityInputError
    (py "ReasonDefinition.code " ++ reprStr rt r.code ++ py " must match [A-Z][A-Z0-9_]*"))
  raiseIf (r.precedenceRank ≤ 0)
    (mergeEligibilityInputError (py "ReasonDefinition.precedence_rank must be positive"))
  raiseIf (r.category ∉ reasonCategories) (mergeEligibilityInputError
    (py "ReasonDefinition.category " ++ reprStr rt r.category ++ py " is not a committed category"))
  raiseIf (r.kind ∉ reasonKinds) (mergeEligibilityInputError
    (py "ReasonDefinition.kind " ++ reprStr rt r.kind ++ py " is not a committed kind"))
  raiseIf (∃ d ∈ r.ownerDecisionPending, dollar ownerDecisionRe d = false)
    (mergeEligibilityInputError
      (py "ReasonDefinition.owner_decision_pending must be None or match OD-*"))

structure ReasonDefinition extends ReasonDefinitionArgs where
  postInit_ok : toReasonDefinitionArgs.postInit rt = .ok ()

theorem ReasonDefinition.code_ne_nil {rt : Runtime} (r : ReasonDefinition rt) : r.code ≠ [] := by
  have h := r.postInit_ok
  unfold ReasonDefinitionArgs.postInit at h
  simp only [bind_eq_ok, raiseIf_eq_ok, exists_const] at h
  intro he
  exact h.1 (by rw [he]; rfl)

/-! ### verifier rule -/

structure VerifierRuleRowArgs where
  identity : Option (List PyStr)
  independence : Option (List PyStr)
  reason : Option PyStr

/-- The check of entry `i` of a row and of those after it. -/
def requireEnumEntries (α : Type) [StrEnum α] (field : PyStr) : Nat → List PyStr → Except PyExc Unit
  | _, [] => .ok ()
  | i, value :: rest => do
    raiseIf (value ∉ StrEnum.values α) (mergeEligibilityInputError
      (field ++ py "[" ++ natText i ++ py "] " ++ reprStr rt value ++ py " is not a valid " ++
        StrEnum.clsName α))
    requireEnumEntries α field (i + 1) rest

def VerifierRuleRowArgs.postInit (r : VerifierRuleRowArgs) : Except PyExc Unit := do
  requireEnumEntries rt VerifierIdentityStatus (py "verifier_rule.identity") 0
    (r.identity.getD [])
  requireEnumEntries rt VerifierIndependenceStatus (py "verifier_rule.independence") 0
    (r.independence.getD [])

structure VerifierRuleRow extends VerifierRuleRowArgs where
  postInit_ok : toVerifierRuleRowArgs.postInit rt = .ok ()

def VerifierRuleRowArgs.matches (r : VerifierRuleRowArgs) (identity independence : PyStr) : Bool :=
  let identityOk := match r.identity with
    | none => true
    | some xs => identity ∈ xs
  let independenceOk := match r.independence with
    | none => true
    | some xs => independence ∈ xs
  identityOk && independenceOk

/-! ### policy -/

/-- `_ENUM_FACT_FIELDS`: the nine facts with the values of their classes. -/
def enumFactFields : List (PyStr × List PyStr) :=
  [(py "task_context_current", StrEnum.values TaskContextCurrency),
   (py "candidate_binding_current", StrEnum.values CandidateBindingCurrency),
   (py "repository_snapshot_current", StrEnum.values RepositorySnapshotCurrency),
   (py "repository_release_clean", StrEnum.values ReleaseCleanliness),
   (py "policy_context_current", StrEnum.values PolicyContextCurrency),
   (py "evidence_context_status", StrEnum.values EvidenceContextStatus),
   (py "scope_status", StrEnum.values ScopeStatus),
   (py "approval_status", StrEnum.values ApprovalStatus),
   (py "authority_status", StrEnum.values AuthorityStatus)]

def setFactFields : List PyStr :=
  [py "required_requirement_ids", py "satisfied_requirement_ids", py "invalid_requirement_ids",
   py "missing_requirement_ids", py "rejected_evidence_ids", py "invalid_provenance_evidence_ids",
   py "unexpected_evidence_ids"]

structure MergeEligibilityPolicyArgs where
  declaredIdentity : PolicyIdentity rt
  reasonDefinitions : List (ReasonDefinition rt)
  enumFactReasons : Dict PyStr (Dict PyStr (Option PyStr))
  violationTagReasons : Dict PyStr PyStr
  setFactTriggers : Dict PyStr (Option PyStr)
  verifierRule : List (VerifierRuleRow rt)

/-- `for key, reason_code in row.items()`: every code of the row is known. -/
def requireKnownCodes (knownCodes : List PyStr) (error : PyStr → PyStr) :
    List (PyStr × Option PyStr) → Except PyExc Unit
  | [] => .ok ()
  | (_, none) :: rest => requireKnownCodes knownCodes error rest
  | (_, some code) :: rest => do
    raiseIf (code ∉ knownCodes) (mergeEligibilityInputError (error code))
    requireKnownCodes knownCodes error rest

/-- The loop over `_ENUM_FACT_FIELDS`. -/
def validateEnumFactRows (top : Dict PyStr (Dict PyStr (Option PyStr))) (knownCodes : List PyStr) :
    List (PyStr × List PyStr) → Except PyExc Unit
  | [] => .ok ()
  | (factName, expected) :: rest => do
    let field := py "MergeEligibilityPolicy.enum_fact_reasons[" ++ reprStr rt factName ++ py "]"
    match top.get? factName with
    | none => .error (keyError (reprStr rt factName))
    | some row =>
      raiseIf (setEq row.keys expected = false) (mergeEligibilityInputError
        (field ++ py " must be total over the closed enum domain (missing or extra value)"))
      requireKnownCodes knownCodes
        (fun code => field ++ py " references unknown reason code " ++ reprStr rt code) row.items
      validateEnumFactRows top knownCodes rest

def validateEnumFactReasons (top : Dict PyStr (Dict PyStr (Option PyStr)))
    (knownCodes : List PyStr) : Except PyExc Unit := do
  raiseIf (setEq top.keys (enumFactFields.map Prod.fst) = false) (mergeEligibilityInputError
    (py ("MergeEligibilityPolicy.enum_fact_reasons must have exactly the " ++
      "committed 9 enum-fact keys (missing or extra row)")))
  validateEnumFactRows rt top knownCodes enumFactFields

def validateViolationTagReasons (top : Dict PyStr PyStr) (knownCodes : List PyStr) :
    Except PyExc Unit := do
  raiseIf (setEq top.keys (StrEnum.values EvidenceContextViolation) = false)
    (mergeEligibilityInputError (py ("MergeEligibilityPolicy.violation_tag_reasons must be total " ++
      "over the closed violation-tag domain (missing or extra row)")))
  requireKnownCodes knownCodes
    (fun code => py ("MergeEligibilityPolicy.violation_tag_reasons references unknown reason " ++
      "code ") ++ reprStr rt code) (top.items.map fun kv => (kv.1, some kv.2))

def validateSetFactTriggers (top : Dict PyStr (Option PyStr)) (knownCodes : List PyStr) :
    Except PyExc Unit := do
  raiseIf (setEq top.keys setFactFields = false) (mergeEligibilityInputError
    (py ("MergeEligibilityPolicy.set_fact_triggers must have exactly the committed 7 set-fact " ++
      "keys (missing or extra row)")))
  requireKnownCodes knownCodes
    (fun code => py "MergeEligibilityPolicy.set_fact_triggers references unknown reason code " ++
      reprStr rt code) top.items

def verifierRuleCoversAllCombinations (rule : List (VerifierRuleRow rt)) : Bool :=
  (StrEnum.members (α := VerifierIdentityStatus)).all fun identity =>
    (StrEnum.members (α := VerifierIndependenceStatus)).all fun independence =>
      rule.any fun row => row.matches (StrEnum.value identity) (StrEnum.value independence)

namespace MergeEligibilityPolicyArgs
variable {rt}

def codes (p : MergeEligibilityPolicyArgs rt) : List PyStr := p.reasonDefinitions.map fun r => r.code

def ranks (p : MergeEligibilityPolicyArgs rt) : List Int :=
  p.reasonDefinitions.map fun r => r.precedenceRank

/-- `MergeEligibilityPolicy.__post_init__` -/
def postInit (p : MergeEligibilityPolicyArgs rt) : Except PyExc Unit := do
  raiseIf (distinct p.codes = false) (mergeEligibilityInputError
    (py "MergeEligibilityPolicy: duplicate reason code in reason_definitions"))
  raiseIf (distinct p.ranks = false) (mergeEligibilityInputError
    (py "MergeEligibilityPolicy: duplicate precedence_rank in reason_definitions"))
  validateEnumFactReasons rt p.enumFactReasons p.codes
  validateViolationTagReasons rt p.violationTagReasons p.codes
  validateSetFactTriggers rt p.setFactTriggers p.codes
  requireKnownCodes p.codes
    (fun code => py "MergeEligibilityPolicy.verifier_rule references unknown reason code " ++
      reprStr rt code) (p.verifierRule.map fun row => ([], row.reason))
  raiseIf (verifierRuleCoversAllCombinations rt p.verifierRule = false) (mergeEligibilityInputError
    (py ("MergeEligibilityPolicy.verifier_rule must resolve all 12 identity x independence " ++
      "combinations via first match")))

/-- What the constructor establishes of a policy. -/
structure Valid (p : MergeEligibilityPolicyArgs rt) : Prop where
  codes_nodup : p.codes.Nodup
  ranks_nodup : p.ranks.Nodup
  enum_names : ∀ n, n ∈ p.enumFactReasons.keys ↔ n ∈ enumFactFields.map Prod.fst
  enum_rows : ∀ a ∈ enumFactFields, ∃ row, p.enumFactReasons.get? a.1 = some row ∧
    (∀ v, v ∈ row.keys ↔ v ∈ a.2) ∧ ∀ kv ∈ row.items, ∀ c ∈ kv.2, c ∈ p.codes
  tags : ∀ t, t ∈ p.violationTagReasons.keys ↔ t ∈ StrEnum.values EvidenceContextViolation
  tag_codes : ∀ kv ∈ p.violationTagReasons.items, kv.2 ∈ p.codes
  set_names : ∀ n, n ∈ p.setFactTriggers.keys ↔ n ∈ setFactFields
  set_codes : ∀ kv ∈ p.setFactTriggers.items, ∀ c ∈ kv.2, c ∈ p.codes
  rule_codes : ∀ row ∈ p.verifierRule, ∀ c ∈ row.reason, c ∈ p.codes
  rule_covers : ∀ (a : VerifierIdentityStatus) (b : VerifierIndependenceStatus),
    ∃ row ∈ p.verifierRule, row.matches (StrEnum.value a) (StrEnum.value b) = true

end MergeEligibilityPolicyArgs

theorem requireKnownCodes_ok {known : List PyStr} {error : PyStr → PyStr}
    {kvs : List (PyStr × Option PyStr)} {u : Unit} :
    requireKnownCodes known error kvs = .ok u ↔ ∀ kv ∈ kvs, ∀ c ∈ kv.2, c ∈ known := by
  induction kvs with
  | nil => exact iff_of_true rfl fun kv hkv => absurd hkv List.not_mem_nil
  | cons kv kvs ih =>
    obtain ⟨k, code⟩ := kv
    rw [List.forall_mem_cons, ← ih]
    cases code with
    | none => exact (and_iff_right fun c hc => absurd hc (by simp)).symm
    | some code =>
      rw [requireKnownCodes]
      simp only [bind_eq_ok, raiseIf_eq_ok, exists_const, not_not, Option.mem_some_iff,
        forall_eq']

theorem validateEnumFactRows_ok {top : Dict PyStr (Dict PyStr (Option PyStr))}
    {known : List PyStr} {fields : List (PyStr × List PyStr)} {u : Unit} :
    validateEnumFactRows rt top known fields = .ok u ↔
      ∀ a ∈ fields, ∃ row, top.get? a.1 = some row ∧ (∀ v, v ∈ row.keys ↔ v ∈ a.2) ∧
        ∀ kv ∈ row.items, ∀ c ∈ kv.2, c ∈ known := by
  induction fields with
  | nil => exact iff_of_true rfl fun a ha => absurd ha List.not_mem_nil
  | cons a fields ih =>
    obtain ⟨name, expected⟩ := a
    rw [List.forall_mem_cons, ← ih, validateEnumFactRows]
    cases top.get? name with
    | none => exact iff_of_false (by simp) fun h => by simpa using h.1
    | some row =>
      simp only [bind_eq_ok, raiseIf_eq_ok, exists_const, requireKnownCodes_ok, Bool.not_eq_false,
        setEq_iff, Option.some.injEq, exists_eq_left', and_assoc]

theorem verifierRuleCovers_iff {rule : List (VerifierRuleRow rt)} :
    verifierRuleCoversAllCombinations rt rule = true ↔
      ∀ (a : VerifierIdentityStatus) (b : VerifierIndependenceStatus),
        ∃ row ∈ rule, row.matches (StrEnum.value a) (StrEnum.value b) = true := by
  unfold verifierRuleCoversAllCombinations
  simp only [List.all_eq_true, List.any_eq_true]
  exact ⟨fun h a b => h a (StrEnum.mem_members a) b (StrEnum.mem_members b), fun h a _ b _ => h a b⟩

theorem MergeEligibilityPolicyArgs.postInit_ok_iff {p : MergeEligibilityPolicyArgs rt} {u : Unit} :
    p.postInit = .ok u ↔ p.Valid := by
  unfold postInit validateEnumFactReasons validateViolationTagReasons validateSetFactTriggers
  simp only [bind_eq_ok, raiseIf_eq_ok, exists_const, requireKnownCodes_ok, Bool.not_eq_false,
    setEq_iff, distinct_iff, validateEnumFactRows_ok, verifierRuleCovers_iff, List.forall_mem_map,
    Option.mem_some_iff, forall_eq']
  constructor
  · rintro ⟨h1, h2, ⟨h3, h4⟩, ⟨h5, h6⟩, ⟨h7, h8⟩, h9, h10⟩
    exact ⟨h1, h2, h3, h4, h5, h6, h7, h8, h9, h10⟩
  · rintro ⟨h1, h2, h3, h4, h5, h6, h7, h8, h9, h10⟩
    exact ⟨h1, h2, ⟨h3, h4⟩, ⟨h5, h6⟩, ⟨h7, h8⟩, h9, h10⟩

/-- A policy that the constructor accepted. -/
structure MergeEligibilityPolicy extends MergeEligibilityPolicyArgs rt where
  postInit_ok : toMergeEligibilityPolicyArgs.postInit = .ok ()

end

namespace MergeEligibilityPolicy
variable {rt : Runtime}

theorem valid (p : MergeEligibilityPolicy rt) : p.Valid :=
  (MergeEligibilityPolicyArgs.postInit_ok_iff rt).mp p.postInit_ok

/-- First-match resolution over the ordered rule table. -/
def resolveVerifierReason (p : MergeEligibilityPolicy rt) (identity independence : PyStr) :
    Except PyExc (Option PyStr) :=
  match p.verifierRule.find? fun row => row.matches identity independence with
  | some row => .ok row.reason
  | none => .error (mergeEligibilityInputError (py "no verifier_rule row matches (" ++
      reprStr rt identity ++ py ", " ++ reprStr rt independence ++ py ")"))

end MergeEligibilityPolicy

end Tomtit
