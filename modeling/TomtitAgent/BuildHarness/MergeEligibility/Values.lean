import TomtitAgent.BuildHarness.Accepted
import TomtitAgent.Python.StrEnum

/-!
# `merge_eligibility.py`: closed values and boundary checks

* the fifteen `StrEnum` classes of the contract;
* `requireStr`, `requireTaskId`, `requireVersion`, `requireDigest`, `requireDigestOrSentinel`,
  `requireExactSortedUniqueStrTupleStrict`, `requireExactSortedUniqueEnumTupleStrict`   the checks
  of the constructors, with their messages;
* `IdSet`   what an identifier set that passed its check is.

The types of the model stand for the exact-type guards of the source: a field of type `PyStr` is
an exact `str`, a `List` an exact tuple, an enum an exact member.
-/

open Py

namespace Tomtit

def mergeEligibilityInputError (msg : PyStr) : PyExc :=
  ⟨["MergeEligibilityInputError", "P09BValidationError", "ValueError"], msg⟩

def mergeEligibilityEvaluationError (msg : PyStr) : PyExc :=
  ⟨["MergeEligibilityEvaluationError"], msg⟩

/-! ### closed values -/

inductive TaskContextCurrency | current | stale | unknown
deriving DecidableEq

inductive CandidateBindingCurrency | current | stale | unknown
deriving DecidableEq

inductive RepositorySnapshotCurrency | current | mismatch | unknown
deriving DecidableEq

inductive ReleaseCleanliness | clean | dirty | unknown
deriving DecidableEq

inductive PolicyContextCurrency | current | stale | unknown
deriving DecidableEq

inductive EvidenceContextStatus | coherent | incoherent | unknown
deriving DecidableEq

inductive EvidenceContextViolation
  | taskMismatch | runMismatch | candidateMismatch | provenanceInvalid | duplicateIdentity
deriving DecidableEq

inductive ScopeStatus | compliant | violation | semanticUncertain | notEvaluated
deriving DecidableEq

inductive ApprovalStatus | valid | missing | stale | unknown
deriving DecidableEq

inductive AuthorityStatus | valid | invalid | unknown
deriving DecidableEq

inductive VerifierIdentityStatus | attested | presentUnattested | absent | invalid
deriving DecidableEq

inductive VerifierIndependenceStatus | independent | notIndependent | unknown
deriving DecidableEq

inductive EvaluationMode | enforce | shadow
deriving DecidableEq

inductive Disposition | eligibleToMergeUnderPolicy | reviewRequired | block
deriving DecidableEq

inductive DecisionAuthority | authoritative | advisoryOnly
deriving DecidableEq

instance : StrEnum TaskContextCurrency where
  clsName := py "TaskContextCurrency"
  members := [.current, .stale, .unknown]
  value
    | .current => py "CURRENT"
    | .stale => py "STALE"
    | .unknown => py "UNKNOWN"
  mem_members a := by cases a <;> simp
  value_inj a b := by cases a <;> cases b <;> simp
  value_ascii a := by cases a <;> exact ascii_lit _ (by decide)

instance : StrEnum CandidateBindingCurrency where
  clsName := py "CandidateBindingCurrency"
  members := [.current, .stale, .unknown]
  value
    | .current => py "CURRENT"
    | .stale => py "STALE"
    | .unknown => py "UNKNOWN"
  mem_members a := by cases a <;> simp
  value_inj a b := by cases a <;> cases b <;> simp
  value_ascii a := by cases a <;> exact ascii_lit _ (by decide)

instance : StrEnum RepositorySnapshotCurrency where
  clsName := py "RepositorySnapshotCurrency"
  members := [.current, .mismatch, .unknown]
  value
    | .current => py "CURRENT"
    | .mismatch => py "MISMATCH"
    | .unknown => py "UNKNOWN"
  mem_members a := by cases a <;> simp
  value_inj a b := by cases a <;> cases b <;> simp
  value_ascii a := by cases a <;> exact ascii_lit _ (by decide)

instance : StrEnum ReleaseCleanliness where
  clsName := py "ReleaseCleanliness"
  members := [.clean, .dirty, .unknown]
  value
    | .clean => py "CLEAN"
    | .dirty => py "DIRTY"
    | .unknown => py "UNKNOWN"
  mem_members a := by cases a <;> simp
  value_inj a b := by cases a <;> cases b <;> simp
  value_ascii a := by cases a <;> exact ascii_lit _ (by decide)

instance : StrEnum PolicyContextCurrency where
  clsName := py "PolicyContextCurrency"
  members := [.current, .stale, .unknown]
  value
    | .current => py "CURRENT"
    | .stale => py "STALE"
    | .unknown => py "UNKNOWN"
  mem_members a := by cases a <;> simp
  value_inj a b := by cases a <;> cases b <;> simp
  value_ascii a := by cases a <;> exact ascii_lit _ (by decide)

instance : StrEnum EvidenceContextStatus where
  clsName := py "EvidenceContextStatus"
  members := [.coherent, .incoherent, .unknown]
  value
    | .coherent => py "COHERENT"
    | .incoherent => py "INCOHERENT"
    | .unknown => py "UNKNOWN"
  mem_members a := by cases a <;> simp
  value_inj a b := by cases a <;> cases b <;> simp
  value_ascii a := by cases a <;> exact ascii_lit _ (by decide)

instance : StrEnum EvidenceContextViolation where
  clsName := py "EvidenceContextViolation"
  members := [.taskMismatch, .runMismatch, .candidateMismatch, .provenanceInvalid,
    .duplicateIdentity]
  value
    | .taskMismatch => py "TASK_MISMATCH"
    | .runMismatch => py "RUN_MISMATCH"
    | .candidateMismatch => py "CANDIDATE_MISMATCH"
    | .provenanceInvalid => py "PROVENANCE_INVALID"
    | .duplicateIdentity => py "DUPLICATE_IDENTITY"
  mem_members a := by cases a <;> simp
  value_inj a b := by cases a <;> cases b <;> simp
  value_ascii a := by cases a <;> exact ascii_lit _ (by decide)

instance : StrEnum ScopeStatus where
  clsName := py "ScopeStatus"
  members := [.compliant, .violation, .semanticUncertain, .notEvaluated]
  value
    | .compliant => py "COMPLIANT"
    | .violation => py "VIOLATION"
    | .semanticUncertain => py "SEMANTIC_UNCERTAIN"
    | .notEvaluated => py "NOT_EVALUATED"
  mem_members a := by cases a <;> simp
  value_inj a b := by cases a <;> cases b <;> simp
  value_ascii a := by cases a <;> exact ascii_lit _ (by decide)

instance : StrEnum ApprovalStatus where
  clsName := py "ApprovalStatus"
  members := [.valid, .missing, .stale, .unknown]
  value
    | .valid => py "VALID"
    | .missing => py "MISSING"
    | .stale => py "STALE"
    | .unknown => py "UNKNOWN"
  mem_members a := by cases a <;> simp
  value_inj a b := by cases a <;> cases b <;> simp
  value_ascii a := by cases a <;> exact ascii_lit _ (by decide)

instance : StrEnum AuthorityStatus where
  clsName := py "AuthorityStatus"
  members := [.valid, .invalid, .unknown]
  value
    | .valid => py "VALID"
    | .invalid => py "INVALID"
    | .unknown => py "UNKNOWN"
  mem_members a := by cases a <;> simp
  value_inj a b := by cases a <;> cases b <;> simp
  value_ascii a := by cases a <;> exact ascii_lit _ (by decide)

instance : StrEnum VerifierIdentityStatus where
  clsName := py "VerifierIdentityStatus"
  members := [.attested, .presentUnattested, .absent, .invalid]
  value
    | .attested => py "ATTESTED"
    | .presentUnattested => py "PRESENT_UNATTESTED"
    | .absent => py "ABSENT"
    | .invalid => py "INVALID"
  mem_members a := by cases a <;> simp
  value_inj a b := by cases a <;> cases b <;> simp
  value_ascii a := by cases a <;> exact ascii_lit _ (by decide)

instance : StrEnum VerifierIndependenceStatus where
  clsName := py "VerifierIndependenceStatus"
  members := [.independent, .notIndependent, .unknown]
  value
    | .independent => py "INDEPENDENT"
    | .notIndependent => py "NOT_INDEPENDENT"
    | .unknown => py "UNKNOWN"
  mem_members a := by cases a <;> simp
  value_inj a b := by cases a <;> cases b <;> simp
  value_ascii a := by cases a <;> exact ascii_lit _ (by decide)

instance : StrEnum EvaluationMode where
  clsName := py "EvaluationMode"
  members := [.enforce, .shadow]
  value
    | .enforce => py "ENFORCE"
    | .shadow => py "SHADOW"
  mem_members a := by cases a <;> simp
  value_inj a b := by cases a <;> cases b <;> simp
  value_ascii a := by cases a <;> exact ascii_lit _ (by decide)

instance : StrEnum Disposition where
  clsName := py "Disposition"
  members := [.eligibleToMergeUnderPolicy, .reviewRequired, .block]
  value
    | .eligibleToMergeUnderPolicy => py "ELIGIBLE_TO_MERGE_UNDER_POLICY"
    | .reviewRequired => py "REVIEW_REQUIRED"
    | .block => py "BLOCK"
  mem_members a := by cases a <;> simp
  value_inj a b := by cases a <;> cases b <;> simp
  value_ascii a := by cases a <;> exact ascii_lit _ (by decide)

instance : StrEnum DecisionAuthority where
  clsName := py "DecisionAuthority"
  members := [.authoritative, .advisoryOnly]
  value
    | .authoritative => py "AUTHORITATIVE"
    | .advisoryOnly => py "ADVISORY_ONLY"
  mem_members a := by cases a <;> simp
  value_inj a b := by cases a <;> cases b <;> simp
  value_ascii a := by cases a <;> exact ascii_lit _ (by decide)

def approvalSentinel : PyStr := py "NO_APPROVAL_SUPPLIED"
def inputPayloadKind : PyStr := py "changegate.merge-eligibility-policy-input.test-oracle.v1"
def policyRecordSchemaVersion : PyStr := py "changegate.policy-evaluation-record.v1"
def canonicalizationVersion : PyStr := py "tomtit.canonical.v1"

/-! ### boundary checks -/

/-- `canonical.reject_control_characters`, with the exception the module translates it into. -/
def rejectControlCharacters (field value : PyStr) : Except PyExc Unit := do
  raiseIf (value.any isControl)
    (mergeEligibilityInputError (field ++ py " contains control characters"))
  raiseIf (0 ∈ value) (mergeEligibilityInputError (field ++ py " contains a NUL character"))

def requireStr (field value : PyStr) : Except PyExc Unit := do
  raiseIf (value = []) (mergeEligibilityInputError (field ++ py " must be a non-empty string"))
  raiseIf (strip value = [])
    (mergeEligibilityInputError (field ++ py " must not be whitespace-only"))
  rejectControlCharacters field value

/-- `[A-Za-z0-9._-]` -/
def tokenChar (c : CodePoint) : Bool := isAlnum c || oneOf [46, 95, 45] c

/-- `[A-Za-z0-9][A-Za-z0-9._-]{0,127}` -/
def tokenGrammar : PyStr → Bool := tokenRe isAlnum tokenChar 127

section
variable (rt : Runtime)

def requirePattern (re : PyStr → Bool) (field value : PyStr) : Except PyExc Unit := do
  requireStr field value
  raiseIf (dollar re value = false) (mergeEligibilityInputError
    (field ++ py " " ++ reprStr rt value ++ py " does not match the required grammar"))

def requireTaskId : PyStr → PyStr → Except PyExc Unit := requirePattern rt tokenGrammar
def requireVersion : PyStr → PyStr → Except PyExc Unit := requirePattern rt tokenGrammar
def requireDigest : PyStr → PyStr → Except PyExc Unit := requirePattern rt digestRe

def requireDigestOrSentinel (field value : PyStr) : Except PyExc Unit := do
  requireStr field value
  if value = approvalSentinel then .ok ()
  else raiseIf (dollar digestRe value = false) (mergeEligibilityInputError
    (field ++ py " " ++ reprStr rt value ++ py " must be a sha256 digest or the exact sentinel " ++
      reprStr rt approvalSentinel))

end

/-- The loop of the tuple check: entry `i` and those after it. -/
def requireItems (field : PyStr) : Nat → List PyStr → Except PyExc Unit
  | _, [] => .ok ()
  | i, item :: rest => do
    raiseIf (item = []) (mergeEligibilityInputError
      (field ++ py "[" ++ natText i ++ py "] must be a non-empty string"))
    rejectControlCharacters (field ++ py "[" ++ natText i ++ py "]") item
    requireItems field (i + 1) rest

def requireExactSortedUniqueStrTupleStrict (field : PyStr) (value : List PyStr) :
    Except PyExc Unit := do
  requireItems field 0 value
  raiseIf (value ≠ sorted value)
    (mergeEligibilityInputError (field ++ py " must be lexicographically sorted"))
  raiseIf (distinct value = false)
    (mergeEligibilityInputError (field ++ py " must not contain duplicate entries"))

def requireExactSortedUniqueEnumTupleStrict {α : Type} [StrEnum α] (field : PyStr)
    (value : List α) : Except PyExc Unit := do
  let values := value.map StrEnum.value
  raiseIf (values ≠ sorted values)
    (mergeEligibilityInputError (field ++ py " must be lexicographically sorted"))
  raiseIf (distinct values = false)
    (mergeEligibilityInputError (field ++ py " must not contain duplicate entries"))

/-! ### what the checks establish -/

def Printable (s : PyStr) : Prop := ∀ c ∈ s, isControl c = false

instance (s : PyStr) : Decidable (Printable s) := List.decidableBAll _ _

def Visible (s : PyStr) : Prop := ∀ c ∈ s, 33 ≤ c.val ∧ c.val < 127

instance (s : PyStr) : Decidable (Visible s) := List.decidableBAll _ _

theorem Printable.no_newline {s : PyStr} (h : Printable s) : newline ∉ s := fun hm =>
  absurd (h _ hm) (by decide)

theorem tokenGrammar_ascii {s : PyStr} (h : tokenGrammar s = true) : Ascii s := by
  intro c hc
  rcases tokenRe_all h c hc with h1 | h1
  · exact isAlnum_lt h1
  · simp only [tokenChar, Bool.or_eq_true] at h1
    rcases h1 with h1 | h1
    · exact isAlnum_lt h1
    · simp only [oneOf, List.contains_cons, List.contains_nil, Bool.or_false, Bool.or_eq_true,
        beq_iff_eq] at h1
      rcases h1 with rfl | rfl | rfl <;> decide

theorem digestRe_ascii {s : PyStr} (h : digestRe s = true) : Ascii s := by
  unfold digestRe at h
  rw [Bool.and_eq_true, beq_iff_eq] at h
  have h1 : Ascii (s.take 7) := h.1 ▸ ascii_lit _ (by decide)
  have h2 : Ascii (s.drop 7) := fun c hc => isHex_lt (exactRe_all h.2 c hc)
  exact List.take_append_drop 7 s ▸ h1.append h2

theorem rejectControlCharacters_ok {field value : PyStr} {u : Unit} :
    rejectControlCharacters field value = .ok u ↔ Printable value := by
  unfold rejectControlCharacters Printable
  simp only [bind_eq_ok, raiseIf_eq_ok, exists_const, Bool.not_eq_true, List.any_eq_false]
  exact and_iff_left_of_imp fun h hm => absurd (h 0 hm) (by decide)

theorem requireStr_ok {field value : PyStr} {u : Unit} :
    requireStr field value = .ok u ↔ strip value ≠ [] ∧ Printable value := by
  unfold requireStr
  simp only [bind_eq_ok, raiseIf_eq_ok, exists_const, rejectControlCharacters_ok]
  refine and_iff_right_of_imp ?_
  rintro ⟨h, _⟩ rfl
  exact h rfl

theorem strip_ne_nil {s : PyStr} (hs : s ≠ []) (h : ∀ c ∈ s, isSpace c = false) :
    strip s ≠ [] := by
  intro he
  obtain ⟨c, cs, rfl⟩ := List.exists_cons_of_ne_nil hs
  have hc := (strip_eq_nil_iff _).mp he c List.mem_cons_self
  rw [h c List.mem_cons_self] at hc
  exact absurd hc (by decide)

theorem graph_not_space {c : CodePoint} (h1 : 33 ≤ c.val) (h2 : c.val < 127) :
    isSpace c = false ∧ isControl c = false := by
  constructor
  · unfold isSpace
    simp only [Bool.or_eq_false_iff, Bool.and_eq_false_iff, decide_eq_false_iff_not,
      beq_eq_false_iff_ne]
    omega
  · unfold isControl
    simp only [Bool.or_eq_false_iff, decide_eq_false_iff_not, beq_eq_false_iff_ne]
    omega

theorem requirePattern_ok (rt : Runtime) {re : PyStr → Bool} (hne : re [] = false)
    (hre : ∀ s, re s = true → Visible s) {field value : PyStr} {u : Unit} :
    requirePattern rt re field value = .ok u ↔ re value = true := by
  unfold requirePattern
  simp only [bind_eq_ok, raiseIf_eq_ok, exists_const, requireStr_ok, Bool.not_eq_false]
  constructor
  · rintro ⟨⟨_, hp⟩, h⟩
    rwa [dollar_of_no_newline hp.no_newline] at h
  · intro h
    have hv := hre value h
    have hp : Printable value := fun c hc => (graph_not_space (hv c hc).1 (hv c hc).2).2
    have h0 : value ≠ [] := by
      rintro rfl
      rw [hne] at h
      exact absurd h (by decide)
    refine ⟨⟨strip_ne_nil h0 fun c hc => (graph_not_space (hv c hc).1 (hv c hc).2).1, hp⟩, ?_⟩
    rwa [dollar_of_no_newline hp.no_newline]

theorem isAlnum_range {c : CodePoint} (h : isAlnum c = true) : 48 ≤ c.val ∧ c.val < 123 := by
  simp only [isAlnum, isDigit, isUpper, isLower, Bool.or_eq_true, Bool.and_eq_true,
    decide_eq_true_eq] at h
  omega

theorem tokenGrammar_visible {s : PyStr} (h : tokenGrammar s = true) : Visible s := by
  intro c hc
  have alnum : isAlnum c = true → 33 ≤ c.val ∧ c.val < 127 := fun h => by
    have := isAlnum_range h
    omega
  rcases tokenRe_all h c hc with h1 | h1
  · exact alnum h1
  · simp only [tokenChar, Bool.or_eq_true] at h1
    rcases h1 with h1 | h1
    · exact alnum h1
    · simp only [oneOf, List.contains_cons, List.contains_nil, Bool.or_false, Bool.or_eq_true,
        beq_iff_eq] at h1
      rcases h1 with rfl | rfl | rfl <;> decide

theorem digestRe_visible {s : PyStr} (h : digestRe s = true) : Visible s := by
  unfold digestRe at h
  rw [Bool.and_eq_true, beq_iff_eq] at h
  intro c hc
  rw [← List.take_append_drop 7 s] at hc
  have hpre : Visible (s.take 7) := by
    rw [h.1, py_ofList]
    decide
  rcases List.mem_append.mp hc with h1 | h1
  · exact hpre c h1
  · have hx := exactRe_all h.2 c h1
    simp only [isHex, isDigit, Bool.or_eq_true, Bool.and_eq_true, decide_eq_true_eq] at hx
    omega

theorem requireToken_ok (rt : Runtime) {field value : PyStr} {u : Unit} :
    requirePattern rt tokenGrammar field value = .ok u ↔ tokenGrammar value = true :=
  requirePattern_ok rt rfl fun _ => tokenGrammar_visible

theorem requireDigest_ok (rt : Runtime) {field value : PyStr} {u : Unit} :
    requireDigest rt field value = .ok u ↔ digestRe value = true :=
  requirePattern_ok rt rfl fun _ => digestRe_visible

theorem requireDigestOrSentinel_ok (rt : Runtime) {field value : PyStr} {u : Unit} :
    requireDigestOrSentinel rt field value = .ok u ↔
      value = approvalSentinel ∨ digestRe value = true := by
  have hd := @requireDigest_ok rt field value u
  unfold requireDigest requirePattern at hd
  unfold requireDigestOrSentinel
  by_cases hs : value = approvalSentinel
  · have hok : requireStr field value = .ok () := by
      subst hs
      refine requireStr_ok.mpr ⟨?_, ?_⟩
      · rw [approvalSentinel, py_ofList]
        decide
      · rw [approvalSentinel, py_ofList]
        decide
    rw [if_pos hs, hok]
    exact iff_of_true rfl (Or.inl hs)
  · rw [if_neg hs, or_iff_right hs, ← hd]
    simp only [bind_eq_ok, raiseIf_eq_ok]

/-- A set of identifiers as a tuple: sorted, duplicate-free, every entry non-empty and without
control characters. -/
structure IdSet (xs : List PyStr) : Prop where
  ne_nil : ∀ x ∈ xs, x ≠ []
  printable : ∀ x ∈ xs, Printable x
  strict : xs.Pairwise (· < ·)

theorem requireItems_ok {field : PyStr} {i : Nat} {xs : List PyStr} {u : Unit} :
    requireItems field i xs = .ok u ↔ ∀ x ∈ xs, x ≠ [] ∧ Printable x := by
  induction xs generalizing i with
  | nil => exact iff_of_true rfl fun x hx => absurd hx List.not_mem_nil
  | cons x xs ih =>
    unfold requireItems
    simp only [bind_eq_ok, raiseIf_eq_ok, exists_const, rejectControlCharacters_ok, ih,
      List.forall_mem_cons, and_assoc, ne_eq]

theorem requireIdSet_ok {field : PyStr} {xs : List PyStr} {u : Unit} :
    requireExactSortedUniqueStrTupleStrict field xs = .ok u ↔ IdSet xs := by
  unfold requireExactSortedUniqueStrTupleStrict
  simp only [bind_eq_ok, raiseIf_eq_ok, exists_const, requireItems_ok, ne_eq, not_not,
    Bool.not_eq_false, strict_iff]
  exact ⟨fun h => ⟨fun x hx => (h.1 x hx).1, fun x hx => (h.1 x hx).2, h.2⟩,
    fun h => ⟨fun x hx => ⟨h.ne_nil x hx, h.printable x hx⟩, h.strict⟩⟩

theorem requireEnumSet_ok {α : Type} [StrEnum α] {field : PyStr} {xs : List α} {u : Unit} :
    requireExactSortedUniqueEnumTupleStrict field xs = .ok u ↔
      (xs.map StrEnum.value).Pairwise (· < ·) := by
  unfold requireExactSortedUniqueEnumTupleStrict
  simp only [bind_eq_ok, raiseIf_eq_ok, exists_const, ne_eq, not_not, Bool.not_eq_false,
    strict_iff]

end Tomtit
