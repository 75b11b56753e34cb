import TomtitAgent.BuildHarness.ChangeGate.Spec

/-!
# `change_gate.py`: the validator of a decision

* `findingShapeError`, `findingError`   why a finding spoils a PASS;
* `validateChangeGateDecision`   the integrity errors of an arbitrary object;
* `ChangeGateDecision.toObject`   a decision of the evaluator as the object the validator reads;
* `producer_validator_agree`   the validator accepts exactly the passing decisions of the evaluator,
                               and nothing that is not a complete PASS.
-/

open Py

namespace Tomtit

/-! ### the closed vocabulary of findings -/

def validSeverities : List PyStr := [py "block", py "info", py "warning"]

/-- `INFO_FINDING_TYPES`: the producer emits none. -/
def infoFindingTypes : List PyStr := []

def reviewFindingTypes : List PyStr :=
  [py "no_changed_files", py "out_of_scope", py "dependency_change", py "missing_evidence",
   py "no_evidence"]

def blockFindingTypes : List PyStr :=
  [py "invalid_changed_path", py "forbidden_path", py "invalid_evidence",
   py "duplicate_evidence_id"]

/-- `_EXPECTED_SEVERITY_BY_TYPE` -/
def expectedSeverity (type : PyStr) : Option PyStr :=
  if type ∈ infoFindingTypes then some (py "info")
  else if type ∈ reviewFindingTypes then some (py "warning")
  else if type ∈ blockFindingTypes then some (py "block")
  else none

/-- `getattr(finding, name, "__missing__")` -/
def findingAttr (finding : PyVal) (name : String) : PyVal :=
  (finding.getattr? (py name)).getD (.str (py "__missing__"))

def isSeverity : PyVal → Bool
  | .str s => s ∈ validSeverities
  | _ => false

def isOptStr : PyVal → Bool
  | .none => true
  | .str _ => true
  | _ => false

section
variable (rt : Runtime)

def findingShapeError (finding : PyVal) : Except PyExc (Option PyStr) :=
  firstError
    [requireAttr rt isText "finding.type must be a non-empty string, got " ""
      (findingAttr finding "type"),
     requireAttr rt isSeverity
      "finding.severity must be one of ['block', 'info', 'warning'], got " ""
      (findingAttr finding "severity"),
     requireAttr rt isText "finding.reason must be a non-empty string, got " ""
      (findingAttr finding "reason"),
     requireAttr rt isOptStr "finding.file must be a string or None, got " ""
      (attr finding "file"),
     requireAttr rt isOptStr "finding.evidence must be a string or None, got " ""
      (attr finding "evidence")]

/-- What the loop over the findings appends for a well-shaped finding. -/
def findingTypeError (type severity : PyStr) : Option PyStr :=
  if severity = py "block" then
    some (py "PASS decision contains a block-severity finding: " ++ reprStr rt type)
  else if severity = py "warning" then
    some (py "PASS decision contains a warning-severity finding: " ++ reprStr rt type)
  else if type ∉ infoFindingTypes then
    if type ∈ blockFindingTypes then
      some (py "PASS decision contains a block finding type relabeled 'info': " ++ reprStr rt type)
    else if type ∈ reviewFindingTypes then
      some (py "PASS decision contains a review finding type relabeled 'info': " ++ reprStr rt type)
    else some (py "PASS decision contains an unknown finding type at 'info': " ++ reprStr rt type)
  else if expectedSeverity type ≠ some severity then
    some (py "finding " ++ reprStr rt type ++ py " has severity " ++ reprStr rt severity ++
      py " inconsistent with its classification (" ++
      (match expectedSeverity type with
        | some expected => reprStr rt expected
        | none => py "None") ++ py ")")
  else none

/-- One turn of the loop over the findings: the shape of a finding without a type passes, but it cannot be read. -/
def findingError (finding : PyVal) : Except PyExc (Option PyStr) := do
  let shapeError ← findingShapeError rt finding
  match shapeError with
  | some shapeError => return some (py "malformed finding in PASS decision: " ++ shapeError)
  | none => do
    let type ← readAttr finding "type"
    let severity ← readAttr finding "severity"
    return findingTypeError rt (type.asStr.getD []) (severity.asStr.getD [])

def findingErrors : List PyVal → Except PyExc (List PyStr)
  | [] => .ok []
  | finding :: rest => do
    let error ← findingError rt finding
    let errors ← findingErrors rest
    return error.toList ++ errors

/-- A collection of the decision: its items when it is a list, else the error and the fallback. -/
def listOr (fallback : List PyVal) (error : Except PyExc PyStr) :
    PyVal → Except PyExc (List PyStr × List PyVal)
  | .list xs => .ok ([], xs)
  | _ => do
    let error ← error
    return ([error], fallback)

def coverageErrors (required : List PyStr) (matched missing : List PyVal) :
    Except PyExc (List PyStr) := do
  let missingError ← if missing = [] then .ok [] else do
    let text ← reprVal rt (.list missing)
    pure [py "missing_required_evidence is non-empty: " ++ text]
  return missingError ++
    ((required.filter fun r => ¬ ∃ m ∈ matched, m.asStr = some r).map fun r =>
      py "required evidence not in matched set: " ++ r) ++
    (if required ≠ [] ∧ matched = [] then
      [py "contract has required evidence but matched set is empty"] else [])

def validateChangeGateDecision (contract : TaskContract) (decision : PyVal) :
    Except PyExc (List PyStr) :=
  let dec := attr decision "decision"
  match dec.asStr with
  | some text =>
    if text = py "PASS" then do
      let findings ← listOr [] (do
        let shown ← reprVal rt (attr decision "findings")
        return py "findings is not a list: " ++ shown) (attr decision "findings")
      let matched ← listOr [] (.ok (py "matched_required_evidence is not a list"))
        (attr decision "matched_required_evidence")
      let missing ← listOr [.str (py "<unknown>")]
        (.ok (py "missing_required_evidence is not a list"))
        (attr decision "missing_required_evidence")
      let covered ← coverageErrors rt contract.requiredEvidence matched.2 missing.2
      let spoiled ← findingErrors rt findings.2
      return findings.1 ++ matched.1 ++ missing.1 ++ covered ++ spoiled
    else if text = py "REVIEW_REQUIRED" ∨ text = py "BLOCK" then do
      let shown ← strVal rt dec
      return [py "decision is " ++ shown ++ py ", not PASS"]
    else do
      let shown ← reprVal rt dec
      return [py "unknown decision value " ++ shown]
  | none => do
    let shown ← reprVal rt dec
    return [py "unknown decision value " ++ shown]

/-! ### decisions of the evaluator as objects -/

/-- The dataclass `Finding` of a finding. -/
def Finding.toObject (f : Finding) : PyVal :=
  .obj (py "Finding")
    (py "Finding(type=" ++ reprStr rt f.type ++ py ", severity=" ++ reprStr rt f.severity ++
      py ", file=" ++ (match f.file with
        | some file => reprStr rt file
        | none => py "None") ++ py ", reason=" ++ reprStr rt f.reason ++ py ", evidence=" ++
      (match f.evidence with
        | some evidence => reprStr rt evidence
        | none => py "None") ++ py ")")
    [(py "type", .str f.type), (py "severity", .str f.severity), (py "file", .optStr f.file),
     (py "reason", .str f.reason), (py "evidence", .optStr f.evidence)]

def RejectedEvidence.toDict (r : RejectedEvidence) : PyVal :=
  .record [(py "evidence_id", r.evidenceId), (py "command", .str r.command),
    (py "reason", .str r.reason)]

/-- The dataclass `ChangeGateDecision`; `repr` is its text, which the validator never reads. -/
def ChangeGateDecision.toObject (repr : PyStr) (d : ChangeGateDecision) : PyVal :=
  .obj (py "ChangeGateDecision") repr
    [(py "decision", .str d.decision), (py "findings", .list (d.findings.map (Finding.toObject rt))),
     (py "matched_required_evidence", .strList d.matchedRequiredEvidence),
     (py "missing_required_evidence", .strList d.missingRequiredEvidence),
     (py "rejected_evidence", .list (d.rejectedEvidence.map RejectedEvidence.toDict)),
     (py "expected_commit_sha", .str d.expectedCommitSha)]

/-! ### acceptance -/

theorem findingTypeError_some (type severity : PyStr) :
    findingTypeError rt type severity ≠ none := by
  unfold findingTypeError infoFindingTypes
  rw [if_pos (List.not_mem_nil (a := type))]
  split_ifs <;> simp

theorem findingErrors_nil {findings : List PyVal} :
    findingErrors rt findings = .ok [] ↔ findings = [] := by
  cases findings with
  | nil => exact iff_of_true rfl rfl
  | cons finding rest =>
    refine iff_of_false (fun h => ?_) (by simp)
    obtain ⟨error, he, h⟩ := bind_eq_ok.mp h
    obtain ⟨errors, _, h⟩ := bind_eq_ok.mp h
    have hnone : error = none := by
      have happ := (List.append_eq_nil_iff.mp (Except.ok.inj h)).1
      cases error with
      | none => rfl
      | some text => exact absurd happ (by simp)
    obtain ⟨shape, _, he⟩ := bind_eq_ok.mp he
    rw [hnone] at he
    cases shape with
    | some text => exact absurd (Except.ok.inj he) (by simp)
    | none =>
      obtain ⟨type, _, he⟩ := bind_eq_ok.mp he
      obtain ⟨severity, _, he⟩ := bind_eq_ok.mp he
      exact findingTypeError_some rt _ _ (Except.ok.inj he)

def Covered (required : List PyStr) (matched : List PyVal) : Prop :=
  ∀ r ∈ required, ∃ m ∈ matched, m.asStr = some r

theorem coverageErrors_nil {required : List PyStr} {matched missing : List PyVal} :
    coverageErrors rt required matched missing = .ok [] ↔
      missing = [] ∧ Covered required matched := by
  unfold coverageErrors
  by_cases hm : missing = []
  · rw [if_pos hm, and_iff_right hm]
    show (Except.ok _ : Except PyExc (List PyStr)) = _ ↔ _
    rw [Except.ok.injEq, List.nil_append, List.append_eq_nil_iff, List.map_eq_nil_iff,
      List.filter_eq_nil_iff]
    simp only [decide_eq_true_eq, not_not]
    refine ⟨fun h => h.1, fun h => ⟨h, ?_⟩⟩
    rw [if_neg]
    rintro ⟨hne, hnil⟩
    obtain ⟨r, hr⟩ := List.exists_mem_of_ne_nil _ hne
    obtain ⟨m, hmem, _⟩ := h r hr
    rw [hnil] at hmem
    exact List.not_mem_nil hmem
  · rw [if_neg hm]
    refine iff_of_false (fun h => ?_) fun h => hm h.1
    obtain ⟨errors, he, h⟩ := bind_eq_ok.mp h
    obtain ⟨text, _, he⟩ := bind_eq_ok.mp he
    rw [← Except.ok.inj he] at h
    exact absurd (Except.ok.inj h) (by simp)

theorem listOr_nil {fallback : List PyVal} {error : Except PyExc PyStr} {v : PyVal}
    {xs : List PyVal} : listOr fallback error v = .ok ([], xs) ↔ v = .list xs := by
  cases v with
  | list ys =>
    rw [listOr, Except.ok.injEq, Prod.mk.injEq, PyVal.list.injEq]
    exact and_iff_right rfl
  | _ =>
    refine iff_of_false (fun h => ?_) (by simp)
    obtain ⟨text, _, h⟩ := bind_eq_ok.mp h
    exact absurd (congrArg Prod.fst (Except.ok.inj h)) (by simp)

theorem validateChangeGateDecision_nil {contract : TaskContract} {decision : PyVal} :
    validateChangeGateDecision rt contract decision = .ok [] ↔
      (attr decision "decision").asStr = some (py "PASS") ∧
      attr decision "findings" = .list [] ∧
      attr decision "missing_required_evidence" = .list [] ∧
      ∃ matched, attr decision "matched_required_evidence" = .list matched ∧
        Covered contract.requiredEvidence matched := by
  unfold validateChangeGateDecision
  dsimp only
  cases hdec : (attr decision "decision").asStr with
  | none =>
    refine iff_of_false (fun h => ?_) (by simp)
    obtain ⟨shown, _, h⟩ := bind_eq_ok.mp h
    exact absurd (Except.ok.inj h) (by simp)
  | some text =>
    dsimp only
    by_cases hpass : text = py "PASS"
    · rw [if_pos hpass, hpass, and_iff_right rfl]
      constructor
      · intro h
        obtain ⟨⟨e1, findings⟩, hf, h⟩ := bind_eq_ok.mp h
        obtain ⟨⟨e2, matched⟩, hma, h⟩ := bind_eq_ok.mp h
        obtain ⟨⟨e3, missing⟩, hmi, h⟩ := bind_eq_ok.mp h
        obtain ⟨covered, hc, h⟩ := bind_eq_ok.mp h
        obtain ⟨spoiled, hs, h⟩ := bind_eq_ok.mp h
        have hnil := Except.ok.inj h
        simp only [List.append_eq_nil_iff] at hnil
        obtain ⟨⟨⟨⟨rfl, rfl⟩, rfl⟩, rfl⟩, rfl⟩ := hnil
        obtain ⟨hm, hcov⟩ := (coverageErrors_nil rt).mp hc
        have hfs := (findingErrors_nil rt).mp hs
        dsimp only at hm hfs hcov
        rw [hfs] at hf
        rw [hm] at hmi
        exact ⟨listOr_nil.mp hf, listOr_nil.mp hmi, matched, listOr_nil.mp hma, hcov⟩
      · rintro ⟨hf, hmi, matched, hma, hcov⟩
        refine bind_eq_ok.mpr ⟨([], []), listOr_nil.mpr hf, ?_⟩
        refine bind_eq_ok.mpr ⟨([], matched), listOr_nil.mpr hma, ?_⟩
        refine bind_eq_ok.mpr ⟨([], []), listOr_nil.mpr hmi, ?_⟩
        exact bind_eq_ok.mpr ⟨[], (coverageErrors_nil rt).mpr ⟨rfl, hcov⟩, rfl⟩
    · rw [if_neg hpass]
      refine iff_of_false (fun h => ?_) fun h => hpass (Option.some.inj h.1)
      split_ifs at h
      · obtain ⟨shown, _, h⟩ := bind_eq_ok.mp h
        exact absurd (Except.ok.inj h) (by simp)
      · obtain ⟨shown, _, h⟩ := bind_eq_ok.mp h
        exact absurd (Except.ok.inj h) (by simp)

theorem validate_evaluated {i : ChangeGateInput} {d : ChangeGateDecision} (repr : PyStr)
    (h : evaluateChangeGate rt i = .ok d) :
    validateChangeGateDecision rt i.contract (d.toObject rt repr) = .ok [] ↔
      d.decision = py "PASS" := by
  obtain ⟨outcomes, ho, hmarks, hd, hmatched, hmissing⟩ := evaluateChangeGate_ok rt h
  have hdecision : (attr (d.toObject rt repr) "decision").asStr = some d.decision := by
    simp [ChangeGateDecision.toObject, attr_cons, PyVal.asStr]
  have hfindings : attr (d.toObject rt repr) "findings" =
      .list (d.findings.map (Finding.toObject rt)) := by
    simp [ChangeGateDecision.toObject, attr_cons]
  have hmissingAttr : attr (d.toObject rt repr) "missing_required_evidence" =
      .strList d.missingRequiredEvidence := by
    simp [ChangeGateDecision.toObject, attr_cons]
  have hmatchedAttr : attr (d.toObject rt repr) "matched_required_evidence" =
      .strList d.matchedRequiredEvidence := by
    simp [ChangeGateDecision.toObject, attr_cons]
  rw [validateChangeGateDecision_nil, hdecision, hfindings, hmissingAttr, hmatchedAttr,
    Option.some.injEq]
  refine ⟨fun h => h.1, fun hpass => ⟨hpass, ?_⟩⟩
  have hp : Passing rt i := by
    rw [hd] at hpass
    exact hmarks.decision.2.1.mp hpass
  have hall : ∀ o ∈ outcomes, o.2.1 = true := by
    have hwell : ∀ ev ∈ i.testEvidence, wellFormedEvidence ev = true := fun ev hev => by
      by_contra hbad
      exact hp.not_blocked (Or.inr (Or.inr (Or.inl ⟨ev, hev, Bool.not_eq_true _ ▸ hbad⟩)))
    intro o hmem
    rw [ho.satisfied o hmem]
    have hreq : o.1 ∈ i.contract.requiredEvidence := by
      rw [← ho.requirements]
      exact List.mem_map_of_mem hmem
    exact (exists_usable_iff hwell fun hdup => hp.not_blocked (Or.inr (Or.inr (Or.inr hdup)))).mpr
      (hp.evidence o.1 hreq)
  have hnone : d.missingRequiredEvidence = [] := by
    rw [hmissing, List.map_eq_nil_iff, List.filter_eq_nil_iff]
    intro o hmem
    rw [hall o hmem]
    simp
  have heverything : d.matchedRequiredEvidence = i.contract.requiredEvidence := by
    rw [hmatched, List.filter_eq_self.mpr fun o hmem => decide_eq_true (hall o hmem),
      ho.requirements]
  rw [hmarks.nil.mpr hp, hnone, heverything]
  exact ⟨rfl, rfl, _, rfl, fun r hr => ⟨.str r, List.mem_map_of_mem hr, rfl⟩⟩

/-- **Producer and validator agree.**  Of the decisions of the evaluator the validator accepts
exactly the PASSes; and whatever object it accepts is a PASS without findings, with nothing missing
and every requirement of the contract matched. -/
theorem producer_validator_agree (contract : TaskContract) :
    (∀ i d repr, i.contract = contract → evaluateChangeGate rt i = .ok d →
      (validateChangeGateDecision rt contract (d.toObject rt repr) = .ok [] ↔
        d.decision = py "PASS")) ∧
    ∀ decision, validateChangeGateDecision rt contract decision = .ok [] →
      (attr decision "decision").asStr = some (py "PASS") ∧
      attr decision "findings" = .list [] ∧
      attr decision "missing_required_evidence" = .list [] ∧
      ∃ matched, attr decision "matched_required_evidence" = .list matched ∧
        Covered contract.requiredEvidence matched := by
  refine ⟨fun i d repr hi h => ?_, fun decision h => (validateChangeGateDecision_nil rt).mp h⟩
  rw [← hi]
  exact validate_evaluated rt repr h

end

/-- A run of `pytest` that passed. -/
theorem producer_validator_agree_pytest : ∃ d,
    evaluateChangeGate (small 4300) (pytestInput 0) = .ok d ∧ d.decision = py "PASS" ∧
    validateChangeGateDecision (small 4300) (pytestInput 0).contract
      (d.toObject (small 4300) []) = .ok [] := by
  have hrender : Renderable (small 4300) (pytestInput 0) := by
    refine ⟨fun ev hev => ?_, fun required _ => ?_⟩
    · obtain rfl := List.mem_singleton.mp hev
      exact bodyRenders_of_wellFormed _ (pytestRun_wellFormed 0)
    · rw [pytestInput_usable]
      intro before ev after he _ _ hfit
      have hmem : ev ∈ [(⟨py "pytest", 0, true, py "abc", py "e1"⟩ : CommandEvidence)] := by
        rw [he]
        simp
      rw [List.mem_singleton.mp hmem, intFits_zero] at hfit
      cases hfit
  obtain ⟨d, h⟩ := (exists_evaluateChangeGate _ _).mpr hrender
  have hpath : normalizeRepoPath (small 4300) (py "a.py") = .ok (py "a.py") := by
    rw [py_ofList]
    rfl
  have hpassing : Passing (small 4300) (pytestInput 0) := by
    have hsat : Satisfies (pytestInput 0) (py "pytest")
        (CommandEvidence.ofObject (pytestRun 0)) := by
      rw [pytestRun_ofObject]
      refine ⟨rfl, rfl, rfl, ?_, rfl⟩
      show py "abc" ≠ []
      rw [py_ofList]
      simp
    refine ⟨?_, List.cons_ne_nil _ _, fun _ _ _ _ => Or.inl rfl, fun _ => ⟨rfl, ?_⟩, ?_,
      Or.inl (List.cons_ne_nil _ _)⟩
    · rintro (⟨raw, hraw, hbad⟩ | ⟨raw, _, f, _, hbad⟩ | ⟨ev, hev, hbad⟩ | hdup)
      · rw [List.mem_singleton.mp hraw] at hbad
        exact hbad _ hpath
      · cases hbad
      · rw [List.mem_singleton.mp hev, pytestRun_wellFormed] at hbad
        cases hbad
      · exact duplicateIds_nil.mp (pytestInput_distinct 0) hdup
    · intro raw hraw f hf
      rw [List.mem_singleton.mp hraw, hpath] at hf
      have hname : pathName (py "a.py") = py "a.py" := by
        rw [py_ofList]
        rfl
      rw [← Except.ok.inj hf, hname]
      simp [dependencyFiles]
    · intro required hreq
      rw [List.mem_singleton.mp hreq]
      exact ⟨pytestRun 0, List.mem_cons_self, hsat⟩
  have hpass : d.decision = py "PASS" := (evaluateChangeGate_gateSpec _ h).pass.mpr hpassing
  exact ⟨d, h, hpass, ((producer_validator_agree (small 4300) _).1 _ d [] rfl h).mpr hpass⟩

end Tomtit
