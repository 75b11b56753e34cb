import TomtitAgent.BuildHarness.ChangeGate.Validate
import TomtitAgent.BuildHarness.Reports
import TomtitAgent.BuildHarness.State

/-!
# `process_guard.py`: did the delivery process happen?

* `reportIdentityError`, `gateState`   what the guard trusts;
* `evaluateProcessGuard`   its decision, for a shipping action or for `continue`;
* `Complete`   everything a PASS of `continue` asks for: the reports, the gate and the human;
* `evaluateProcessGuard_pass`   when the guard passes: `Complete`, and for a shipping action also a
                                task state the action is legal from.
-/

open Py

namespace Tomtit

inductive IntendedAction
  | continue
  | merge
  | push
  | deploy
  | done
deriving DecidableEq

instance : StrEnum IntendedAction where
  clsName := py "IntendedAction"
  members := [.continue, .merge, .push, .deploy, .done]
  value
    | .continue => py "continue"
    | .merge => py "merge"
    | .push => py "push"
    | .deploy => py "deploy"
    | .done => py "done"
  mem_members a := by cases a <;> simp
  value_inj a b := by cases a <;> cases b <;> simp
  value_ascii a := by cases a <;> exact ascii_lit _ (by decide)

/-- `_SHIP_ACTIONS` -/
def shipActions : List IntendedAction := [.merge, .push, .deploy, .done]

/-- `_VALID_SHIP_STATES`; `continue` has no row. -/
def validShipStates : IntendedAction → List TaskState
  | .merge => [.readyForMerge, .approved]
  | .push => [.approved]
  | .deploy => [.approved]
  | .done => [.approved, .done]
  | .continue => []

/-- `_APPROVAL_HARD_ACTIONS` -/
def approvalHardActions : List IntendedAction := [.push, .deploy]

/-- The gate decision is any object, `None` among them. -/
structure ProcessGuardInput where
  contract : TaskContract
  taskState : TaskState
  implementerReport : Option AgentReport
  verifierReport : Option AgentReport
  changegateDecision : PyVal
  humanApproved : Bool
  intendedAction : PyVal

structure ProcessGuardDecision where
  decision : PyStr
  missingSteps : List PyStr
  reason : PyStr

/-- `f"{value}"` of a string or `None`. -/
def showOptStr : Option PyStr → PyStr
  | some s => s
  | none => py "None"

section
variable (rt : Runtime)

def reportIdentityError (contract : TaskContract) (expectedRole : PyStr) :
    Option AgentReport → Option PyStr
  | none => none
  | some report =>
    if report.parseOk = false then
      some (expectedRole ++ py " report is unparseable: " ++ showOptStr report.parseError)
    else if report.taskId ≠ contract.taskId then
      some (expectedRole ++ py " report belongs to task " ++ reprStr rt report.taskId ++
        py ", contract is " ++ reprStr rt contract.taskId)
    else if report.role ≠ expectedRole then
      some (py "report in the " ++ expectedRole ++ py " slot has role " ++ reprStr rt report.role)
    else if isAllowedStatusResult report.role report.status report.result = false then
      some (expectedRole ++ py " report has a contradictory status/result: status=" ++
        reprStr rt report.status ++ py ", result=" ++ reprStr rt report.result)
    else none

/-- `IntendedAction(raw)`, where it does not raise; a member of another string enum with the value
is as good. -/
def actionOf (raw : PyVal) : Option IntendedAction := raw.asStr.bind StrEnum.ofValue?

def isPass (gate : PyVal) : Bool := (attr gate "decision").asStr = some (py "PASS")

/-- `gate_integrity_errors` -/
def gateIntegrityErrors (g : ProcessGuardInput) : Except PyExc (List PyStr) :=
  if isPass g.changegateDecision then
    validateChangeGateDecision rt g.contract g.changegateDecision
  else .ok []

def missingArtifacts (g : ProcessGuardInput) (gateErrors : List PyStr) : List PyStr :=
  (if g.implementerReport.map AgentReport.result ≠ some (py "PASS") then
    [py "implementer_report_pass"] else []) ++
  (if g.verifierReport.map AgentReport.result ≠ some (py "PASS") then
    [py "verifier_report_pass"] else []) ++
  (if isPass g.changegateDecision = false then [py "changegate_pass"]
    else if gateErrors ≠ [] then [py "valid_changegate_decision"] else [])

def shippingDecision (g : ProcessGuardInput) (action : IntendedAction) (gateErrors : List PyStr) :
    ProcessGuardDecision :=
  let missing := (if g.taskState ∉ validShipStates action then
      [py "valid_task_state_for_" ++ StrEnum.value action] else []) ++ missingArtifacts g gateErrors
  if missing ≠ [] then
    ⟨py "BLOCK", missing, py "cannot ship from task_state=" ++ StrEnum.value g.taskState ++
      py ": missing " ++ joinWith (py ", ") missing ++
      if py "valid_changegate_decision" ∈ missing then
        py "; ChangeGateDecision marked PASS is internally inconsistent: " ++
          joinWith (py "; ") gateErrors
      else []⟩
  else if action ∈ approvalHardActions ∧ g.humanApproved = false then
    ⟨py "BLOCK", [py "human_approval"],
      py "cannot " ++ StrEnum.value action ++ py " without human approval"⟩
  else if g.humanApproved = false then
    ⟨py "REVIEW_REQUIRED", [py "human_approval"],
      py "all gates pass but human approval is missing"⟩
  else ⟨py "PASS", [], py "all reports, gates, and human approval are in place"⟩

def continuationDecision (g : ProcessGuardInput) (gateErrors : List PyStr) :
    ProcessGuardDecision :=
  let missing := missingArtifacts g gateErrors ++
    if g.humanApproved = false then [py "human_approval"] else []
  if missing ≠ [] then
    ⟨py "REVIEW_REQUIRED", missing, py "workflow incomplete: " ++ joinWith (py ", ") missing⟩
  else ⟨py "PASS", [], py "workflow complete"⟩

def evaluateProcessGuard (g : ProcessGuardInput) : Except PyExc ProcessGuardDecision :=
  match actionOf g.intendedAction with
  | none => do
    let shown ← reprVal rt g.intendedAction
    return ⟨py "BLOCK", [py "valid_intended_action"], py "unknown intended_action " ++ shown ++
      py "; allowed: ['continue', 'merge', 'push', 'deploy', 'done']"⟩
  | some action =>
    match reportIdentityError rt g.contract (py "implementer") g.implementerReport with
    | some error => .ok ⟨py "BLOCK", [py "trusted_implementer_report"], error⟩
    | none =>
    match reportIdentityError rt g.contract (py "verifier") g.verifierReport with
    | some error => .ok ⟨py "BLOCK", [py "trusted_verifier_report"], error⟩
    | none =>
      let implResult := g.implementerReport.map AgentReport.result
      let verifierResult := g.verifierReport.map AgentReport.result
      if implResult = some (py "BLOCKED") ∨ verifierResult = some (py "BLOCKED") then
        .ok ⟨py "BLOCK", [], py "an agent report is BLOCKED; resolve it before proceeding"⟩
      else if verifierResult = some (py "NEEDS_FIX") then
        .ok ⟨py "BLOCK", [py "fix_and_reverify"], py "verifier returned NEEDS_FIX"⟩
      else do
        let gateErrors ← gateIntegrityErrors rt g
        if action ∈ shipActions then return shippingDecision g action gateErrors
        else return continuationDecision g gateErrors

/-! ### when the guard passes -/

/-- The report fills its slot: parsed, of this task and role, with an allowed PASS. -/
structure Passed (contract : TaskContract) (role : PyStr) (report : AgentReport) : Prop where
  parsed : report.parseOk = true
  taskId : report.taskId = contract.taskId
  role : report.role = role
  result : report.result = py "PASS"

/-- The slots hold reports that passed, the gate decision is a PASS that the validator accepts, and
a human approved. -/
structure Complete (g : ProcessGuardInput) : Prop where
  implementer : ∃ r ∈ g.implementerReport, Passed g.contract (py "implementer") r
  verifier : ∃ r ∈ g.verifierReport, Passed g.contract (py "verifier") r
  gate : isPass g.changegateDecision = true ∧
    validateChangeGateDecision rt g.contract g.changegateDecision = .ok []
  human : g.humanApproved = true

def StatusesAgree (g : ProcessGuardInput) : Prop :=
  (∀ r ∈ g.implementerReport, r.status = py "IMPLEMENTED") ∧
  ∀ r ∈ g.verifierReport, r.status = py "VERIFIED_PASS"

structure Trusted (contract : TaskContract) (role : PyStr) (report : AgentReport) : Prop where
  parsed : report.parseOk = true
  taskId : report.taskId = contract.taskId
  role : report.role = role
  allowed : isAllowedStatusResult report.role report.status report.result = true

theorem reportIdentityError_some {contract : TaskContract} {role : PyStr} {report : AgentReport} :
    reportIdentityError rt contract role (some report) = none ↔ Trusted contract role report := by
  unfold reportIdentityError
  dsimp only
  by_cases h1 : report.parseOk = false
  · rw [if_pos h1]
    exact iff_of_false (by simp) fun h => by rw [h.parsed] at h1; cases h1
  rw [if_neg h1]
  by_cases h2 : report.taskId ≠ contract.taskId
  · rw [if_pos h2]
    exact iff_of_false (by simp) fun h => h2 h.taskId
  rw [if_neg h2]
  by_cases h3 : report.role ≠ role
  · rw [if_pos h3]
    exact iff_of_false (by simp) fun h => h3 h.role
  rw [if_neg h3]
  by_cases h4 : isAllowedStatusResult report.role report.status report.result = false
  · rw [if_pos h4]
    exact iff_of_false (by simp) fun h => by rw [h.allowed] at h4; cases h4
  · rw [if_neg h4]
    exact iff_of_true rfl
      ⟨Bool.not_eq_false _ ▸ h1, not_not.mp h2, not_not.mp h3, Bool.not_eq_false _ ▸ h4⟩

theorem reportIdentityError_none {contract : TaskContract} {role : PyStr}
    {slot : Option AgentReport} :
    reportIdentityError rt contract role slot = none ↔ ∀ r ∈ slot, Trusted contract role r := by
  cases slot with
  | none => exact iff_of_true rfl fun r hr => by cases hr
  | some report =>
    rw [reportIdentityError_some]
    exact ⟨fun h r hr => Option.some.inj hr ▸ h, fun h => h report rfl⟩

theorem trusted_pass {contract : TaskContract} {role passStatus : PyStr} {slot : Option AgentReport}
    (hrole : ∀ status, isAllowedStatusResult role status (py "PASS") = true ↔ status = passStatus) :
    ((∀ r ∈ slot, Trusted contract role r) ∧ slot.map AgentReport.result = some (py "PASS")) ↔
      (∃ r ∈ slot, Passed contract role r) ∧ ∀ r ∈ slot, r.status = passStatus := by
  cases slot with
  | none => exact iff_of_false (fun h => by cases h.2) fun h => by obtain ⟨r, hr, _⟩ := h.1; cases hr
  | some report =>
    rw [Option.map_some, Option.some.injEq]
    constructor
    · intro ⟨h, hpass⟩
      have ht := h report rfl
      have hallowed := ht.allowed
      rw [ht.role, hpass] at hallowed
      refine ⟨⟨report, rfl, ht.parsed, ht.taskId, ht.role, hpass⟩, fun r hr => ?_⟩
      rw [← Option.some.inj hr]
      exact (hrole report.status).mp hallowed
    · intro ⟨⟨r, hr, h⟩, hstatus⟩
      obtain rfl := Option.some.inj hr
      refine ⟨fun r' hr' => ?_, h.result⟩
      rw [← Option.some.inj hr']
      refine ⟨h.parsed, h.taskId, h.role, ?_⟩
      rw [h.role, h.result]
      exact (hrole report.status).mpr (hstatus report rfl)

theorem allowed_implementer_pass (status : PyStr) :
    isAllowedStatusResult (py "implementer") status (py "PASS") = true ↔
      status = py "IMPLEMENTED" := by
  unfold isAllowedStatusResult allowedStatusResultByRole
  simp [assoc_cons]

theorem allowed_verifier_pass (status : PyStr) :
    isAllowedStatusResult (py "verifier") status (py "PASS") = true ↔
      status = py "VERIFIED_PASS" := by
  unfold isAllowedStatusResult allowedStatusResultByRole
  simp [assoc_cons]

theorem missingArtifacts_nil {g : ProcessGuardInput} {gateErrors : List PyStr} :
    missingArtifacts g gateErrors = [] ↔
      g.implementerReport.map AgentReport.result = some (py "PASS") ∧
      g.verifierReport.map AgentReport.result = some (py "PASS") ∧
      isPass g.changegateDecision = true ∧ gateErrors = [] := by
  unfold missingArtifacts
  rw [List.append_eq_nil_iff, List.append_eq_nil_iff, and_assoc]
  refine and_congr ?_ (and_congr ?_ ?_)
  · by_cases h : g.implementerReport.map AgentReport.result = some (py "PASS") <;> simp [h]
  · by_cases h : g.verifierReport.map AgentReport.result = some (py "PASS") <;> simp [h]
  · by_cases h : isPass g.changegateDecision = true <;> simp [h]

def InOrder (g : ProcessGuardInput) : Prop :=
  reportIdentityError rt g.contract (py "implementer") g.implementerReport = none ∧
  reportIdentityError rt g.contract (py "verifier") g.verifierReport = none ∧
  ∃ gateErrors, gateIntegrityErrors rt g = .ok gateErrors ∧ missingArtifacts g gateErrors = []

theorem inOrder_iff {g : ProcessGuardInput} :
    InOrder rt g ∧ g.humanApproved = true ↔ Complete rt g ∧ StatusesAgree g := by
  have himpl := @trusted_pass g.contract _ _ g.implementerReport allowed_implementer_pass
  have hver := @trusted_pass g.contract _ _ g.verifierReport allowed_verifier_pass
  unfold InOrder gateIntegrityErrors
  simp only [reportIdentityError_none, missingArtifacts_nil]
  constructor
  · rintro ⟨⟨h1, h2, gateErrors, he, h3, h4, h5, rfl⟩, h6⟩
    obtain ⟨hp1, hs1⟩ := himpl.mp ⟨h1, h3⟩
    obtain ⟨hp2, hs2⟩ := hver.mp ⟨h2, h4⟩
    rw [if_pos h5] at he
    exact ⟨⟨hp1, hp2, ⟨h5, he⟩, h6⟩, hs1, hs2⟩
  · rintro ⟨⟨hp1, hp2, ⟨h5, he⟩, h6⟩, hs1, hs2⟩
    obtain ⟨h1, h3⟩ := himpl.mpr ⟨hp1, hs1⟩
    obtain ⟨h2, h4⟩ := hver.mpr ⟨hp2, hs2⟩
    refine ⟨⟨h1, h2, [], ?_, h3, h4, h5, rfl⟩, h6⟩
    rw [if_pos h5]
    exact he

theorem shippingDecision_pass {g : ProcessGuardInput} {action : IntendedAction}
    {gateErrors : List PyStr} :
    (shippingDecision g action gateErrors).decision = py "PASS" ↔
      g.taskState ∈ validShipStates action ∧ missingArtifacts g gateErrors = [] ∧
        g.humanApproved = true := by
  unfold shippingDecision
  dsimp only
  rw [← and_assoc]
  have hmissing : (if g.taskState ∉ validShipStates action then
        [py "valid_task_state_for_" ++ StrEnum.value action] else []) ++
        missingArtifacts g gateErrors = [] ↔
      g.taskState ∈ validShipStates action ∧ missingArtifacts g gateErrors = [] := by
    rw [List.append_eq_nil_iff]
    refine and_congr ?_ Iff.rfl
    by_cases h : g.taskState ∈ validShipStates action <;> simp [h]
  rw [← hmissing]
  by_cases h1 : (if g.taskState ∉ validShipStates action then
        [py "valid_task_state_for_" ++ StrEnum.value action] else []) ++
        missingArtifacts g gateErrors = []
  · rw [if_neg (not_not.mpr h1), and_iff_right h1]
    by_cases h2 : g.humanApproved = true
    · rw [if_neg (by simp [h2]), if_neg (by simp [h2])]
      exact iff_of_true rfl h2
    · have hfalse := Bool.not_eq_true _ ▸ h2
      refine iff_of_false ?_ h2
      split_ifs <;> simp
  · rw [if_pos h1]
    exact iff_of_false (by simp) fun h => h1 h.1

theorem continuationDecision_pass {g : ProcessGuardInput} {gateErrors : List PyStr} :
    (continuationDecision g gateErrors).decision = py "PASS" ↔
      missingArtifacts g gateErrors = [] ∧ g.humanApproved = true := by
  unfold continuationDecision
  dsimp only
  have hmissing : missingArtifacts g gateErrors ++
      (if g.humanApproved = false then [py "human_approval"] else []) = [] ↔
        missingArtifacts g gateErrors = [] ∧ g.humanApproved = true := by
    rw [List.append_eq_nil_iff]
    refine and_congr Iff.rfl ?_
    by_cases h : g.humanApproved = true <;> simp [h]
  rw [← hmissing]
  by_cases h : missingArtifacts g gateErrors ++
      (if g.humanApproved = false then [py "human_approval"] else []) = []
  · rw [if_neg (not_not.mpr h)]
    exact iff_of_true rfl h
  · rw [if_pos h]
    exact iff_of_false (by simp) h

/-- **When the guard passes.**  The reports, the gate and the human are in place, and for a
shipping action the task state is one it is legal from; `continue` asks for no state. -/
theorem evaluateProcessGuard_pass {g : ProcessGuardInput} :
    (∃ d, evaluateProcessGuard rt g = .ok d ∧ d.decision = py "PASS") ↔
      ∃ action, actionOf g.intendedAction = some action ∧
        (action = .continue ∨ g.taskState ∈ validShipStates action) ∧
        Complete rt g ∧ StatusesAgree g := by
  rw [← inOrder_iff]
  unfold evaluateProcessGuard InOrder
  cases haction : actionOf g.intendedAction with
  | none =>
    refine iff_of_false ?_ (by simp)
    rintro ⟨d, h, hd⟩
    obtain ⟨shown, _, h⟩ := bind_eq_ok.mp h
    rw [← Except.ok.inj h] at hd
    exact absurd hd (by simp)
  | some action =>
    dsimp only
    cases h1 : reportIdentityError rt g.contract (py "implementer") g.implementerReport with
    | some error => exact iff_of_false (by simp) (by simp)
    | none =>
    dsimp only
    cases h2 : reportIdentityError rt g.contract (py "verifier") g.verifierReport with
    | some error => exact iff_of_false (by simp) (by simp)
    | none =>
    dsimp only
    by_cases h3 : g.implementerReport.map AgentReport.result = some (py "BLOCKED") ∨
        g.verifierReport.map AgentReport.result = some (py "BLOCKED")
    · rw [if_pos h3]
      refine iff_of_false (by simp) ?_
      rintro ⟨_, _, _, ⟨_, _, gateErrors, _, hm⟩, _⟩
      obtain ⟨hp1, hp2, _⟩ := missingArtifacts_nil.mp hm
      rw [hp1, hp2] at h3
      simp at h3
    rw [if_neg h3]
    by_cases h4 : g.verifierReport.map AgentReport.result = some (py "NEEDS_FIX")
    · rw [if_pos h4]
      refine iff_of_false (by simp) ?_
      rintro ⟨_, _, _, ⟨_, _, gateErrors, _, hm⟩, _⟩
      rw [(missingArtifacts_nil.mp hm).2.1] at h4
      simp at h4
    rw [if_neg h4]
    constructor
    · rintro ⟨d, h, hd⟩
      obtain ⟨gateErrors, he, h⟩ := bind_eq_ok.mp h
      refine ⟨action, rfl, ?_⟩
      by_cases hship : action ∈ shipActions
      · rw [if_pos hship] at h
        rw [← Except.ok.inj h, shippingDecision_pass] at hd
        exact ⟨Or.inr hd.1, ⟨rfl, rfl, gateErrors, he, hd.2.1⟩, hd.2.2⟩
      · rw [if_neg hship] at h
        rw [← Except.ok.inj h, continuationDecision_pass] at hd
        have hcontinue : action = .continue := by
          cases action <;> simp [shipActions] at hship ⊢
        exact ⟨Or.inl hcontinue, ⟨rfl, rfl, gateErrors, he, hd.1⟩, hd.2⟩
    · rintro ⟨action', hsome, hstate, ⟨_, _, gateErrors, he, hm⟩, hhuman⟩
      obtain rfl := Option.some.inj hsome
      by_cases hship : action ∈ shipActions
      · have hmem : g.taskState ∈ validShipStates action := by
          refine hstate.resolve_left fun hcontinue => ?_
          rw [hcontinue] at hship
          exact absurd hship (by decide)
        refine ⟨_, bind_eq_ok.mpr ⟨gateErrors, he, ?_⟩, shippingDecision_pass.mpr ⟨hmem, hm, hhuman⟩⟩
        rw [if_pos hship]
        rfl
      · refine ⟨_, bind_eq_ok.mpr ⟨gateErrors, he, ?_⟩, continuationDecision_pass.mpr ⟨hm, hhuman⟩⟩
        rw [if_neg hship]
        rfl

end

end Tomtit
