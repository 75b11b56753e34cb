import TomtitAgent.BuildHarness.ProcessGuard
import TomtitAgent.BuildHarness.PromptGenerator
import TomtitAgent.Python.Case
import TomtitAgent.Python.SmallRuntime

/-!
# `next_action.py`: the recommender

* `recommendNextAction`   the cascade over the artifacts collected so far;
* `Ready`   the guard and the recommender, run on the same values, recommend the release;
* `ReleaseSafe`   what a release asks for, the task state included;
* `ready_iff`, `release_safe_iff`   a recommended release is safe unless the action is `continue`
                                    and the task state is not one to ship from.
-/

open Py

namespace Tomtit

structure NextAction where
  action : PyStr
  reason : PyStr
  prompt : Option PyStr := none

/-! ### attributes of an arbitrary gate decision -/

/-- The items that `for item in value` goes through. -/
def iterate : PyVal → Except PyExc (List PyVal)
  | .list xs => .ok xs
  | .tuple xs => .ok xs
  | .dict kvs => .ok (kvs.map Prod.fst)
  | .str s => .ok (s.map fun c => .str [c])
  | v => .error (typeError (py "'" ++ v.typeName ++ py "' object is not iterable"))

/-- The reasons of the findings that a generator picks, in order. -/
def findingReasons (pick : PyVal → Except PyExc Bool) : List PyVal → Except PyExc (List PyVal)
  | [] => .ok []
  | f :: fs => do
    let picked ← pick f
    if picked then do
      let reason ← readAttr f "reason"
      let reasons ← findingReasons pick fs
      return reason :: reasons
    else findingReasons pick fs

/-- The strings of `"; ".join(items)`. -/
def joinable (index : Nat) : List PyVal → Except PyExc (List PyStr)
  | [] => .ok []
  | v :: vs => match v.asStr with
    | some s => do
      let rest ← joinable (index + 1) vs
      return s :: rest
    | none => .error (typeError (py "sequence item " ++ natText index ++
        py ": expected str instance, " ++ v.typeName ++ py " found"))

/-- `"; ".join(f.reason for f in gate.findings if pick(f))` -/
def joinedReasons (gate : PyVal) (pick : PyVal → Except PyExc Bool) : Except PyExc PyStr := do
  let value ← readAttr gate "findings"
  let findings ← iterate value
  let reasons ← findingReasons pick findings
  let texts ← joinable 0 reasons
  return joinWith (py "; ") texts

/-- `f.severity == "block"` -/
def blockFinding (f : PyVal) : Except PyExc Bool := do
  let severity ← readAttr f "severity"
  return decide (severity.asStr = some (py "block"))

/-! ### the cascade -/

section
variable (rt : Runtime) (cases : CaseMap)

/-- `_identity_error` -/
def handoffIdentityError (contract : TaskContract) (expectedRole : PyStr) :
    Option AgentReport → Option PyStr
  | none => none
  | some report =>
    if report.parseOk = false then none
    else if report.taskId ≠ contract.taskId then
      some (expectedRole ++ py " report belongs to task " ++ reprStr rt report.taskId ++
        py ", contract is " ++ reprStr rt contract.taskId)
    else if report.role ≠ expectedRole then
      some (py "report in the " ++ expectedRole ++ py " slot has role " ++ reprStr rt report.role)
    else none

/-- `x or default` of a string or `None`. -/
def orText (x : Option PyStr) (default : PyStr) : PyStr :=
  match x with
  | some (c :: s) => c :: s
  | _ => default

def fixPrompt (contract : TaskContract) (verifier : AgentReport) : PyStr :=
  generatePrompt contract .implementer ++
    py ("\n\n## Fix context\nThe independent verifier returned NEEDS_FIX. Address the " ++
      "verifier's blockers, then report again:\n") ++
    joinWith [newline] ((if verifier.blockers = [] then [py "(see verifier report)"]
      else verifier.blockers).map fun b => py "- " ++ b)

/-- Branches 6 to 8 and the default: what the guard's decision leads to. -/
def guardBranch (contract : TaskContract) (decision : Option ProcessGuardDecision) : NextAction :=
  match decision with
  | none => ⟨py "REQUEST_HUMAN_REVIEW",
      py "workflow state is ambiguous; a human should inspect the evidence", none⟩
  | some guard =>
    if guard.decision = py "BLOCK" then
      ⟨py "REQUEST_HUMAN_REVIEW", py "ProcessGuard blocked the workflow: " ++ guard.reason, none⟩
    else if guard.decision = py "REVIEW_REQUIRED" ∧ py "human_approval" ∈ guard.missingSteps then
      ⟨py "REQUEST_HUMAN_APPROVAL", py "all gates pass but human approval is missing", none⟩
    else if guard.decision = py "PASS" then
      ⟨py "READY_FOR_MERGE_OR_PUSH", py "all reports, gates, and human approval are in place",
        some (generatePrompt contract .releaseOperator)⟩
    else ⟨py "REQUEST_HUMAN_REVIEW",
      py "workflow state is ambiguous; a human should inspect the evidence", none⟩

/-- Branch 5: what the gate's decision leads to, before the guard is asked. -/
def gateBranch (contract : TaskContract) (gate : PyVal) (decision : Option ProcessGuardDecision) :
    Except PyExc NextAction :=
  match gate with
  | .none => .ok (guardBranch contract decision)
  | gate => do
    let dec ← readAttr gate "decision"
    if dec.asStr = some (py "BLOCK") then do
      let reasons ← joinedReasons gate blockFinding
      return ⟨py "SEND_FIX_PROMPT_TO_IMPLEMENTER", py "ChangeGate blocked the change: " ++ reasons,
        some (generatePrompt contract .implementer)⟩
    else if dec.asStr = some (py "REVIEW_REQUIRED") then do
      let reasons ← joinedReasons gate fun _ => .ok true
      return ⟨py "REQUEST_HUMAN_REVIEW", py "ChangeGate requires human review: " ++ reasons, none⟩
    else return guardBranch contract decision

def recommendNextAction (contract : TaskContract)
    (implementerReport verifierReport : Option AgentReport) (changegateDecision : PyVal)
    (processguardDecision : Option ProcessGuardDecision) : Except PyExc NextAction :=
  match (handoffIdentityError rt contract (py "implementer") implementerReport).or
      (handoffIdentityError rt contract (py "verifier") verifierReport) with
  | some error =>
    .ok ⟨py "ESCALATE_TO_HUMAN", py "report identity is invalid: " ++ error, none⟩
  | none =>
  match implementerReport with
  | none => .ok ⟨py "SEND_TO_IMPLEMENTER",
      py "no implementer report has been ingested for this task",
      some (generatePrompt contract .implementer)⟩
  | some implementer =>
    if implementer.parseOk = false ∨ cases.upper implementer.result = py "BLOCKED" then
      .ok ⟨py "ESCALATE_TO_HUMAN", py "implementer report is BLOCKED or unparseable: " ++
        orText implementer.parseError (py "reported blocked"), none⟩
    else
  match verifierReport with
  | none => .ok ⟨py "SEND_TO_VERIFIER",
      py "implementer reported PASS; independent verification is missing",
      some (generatePrompt contract .verifier)⟩
  | some verifier =>
    if cases.upper verifier.result = py "NEEDS_FIX" then
      .ok ⟨py "SEND_FIX_PROMPT_TO_IMPLEMENTER", py "verifier returned NEEDS_FIX",
        some (fixPrompt contract verifier)⟩
    else gateBranch contract changegateDecision processguardDecision

/-! ### the release branch -/

/-- Both gates of the release, run on the same values. -/
def Ready (g : ProcessGuardInput) : Prop :=
  ∃ guard next, evaluateProcessGuard rt g = .ok guard ∧
    recommendNextAction rt cases g.contract g.implementerReport g.verifierReport
      g.changegateDecision (some guard) = .ok next ∧ next.action = py "READY_FOR_MERGE_OR_PUSH"

def Shippable (state : TaskState) : Prop := ∃ action ∈ shipActions, state ∈ validShipStates action

/-- What the release asks for. -/
structure ReleaseSafe (g : ProcessGuardInput) : Prop where
  complete : Complete rt g
  state : Shippable g.taskState

theorem guardBranch_ready {contract : TaskContract} {guard : ProcessGuardDecision} :
    (guardBranch contract (some guard)).action = py "READY_FOR_MERGE_OR_PUSH" ↔
      guard.decision = py "PASS" := by
  unfold guardBranch
  dsimp only
  by_cases h1 : guard.decision = py "BLOCK"
  · rw [if_pos h1, h1]
    simp
  rw [if_neg h1]
  by_cases h2 : guard.decision = py "REVIEW_REQUIRED" ∧ py "human_approval" ∈ guard.missingSteps
  · rw [if_pos h2, h2.1]
    simp
  rw [if_neg h2]
  by_cases h3 : guard.decision = py "PASS"
  · rw [if_pos h3]
    exact iff_of_true rfl h3
  · rw [if_neg h3]
    exact iff_of_false (by simp) h3

theorem gateBranch_ready {contract : TaskContract} {gate : PyVal} {guard : ProcessGuardDecision}
    {next : NextAction} (h : gateBranch contract gate (some guard) = .ok next)
    (hready : next.action = py "READY_FOR_MERGE_OR_PUSH") : guard.decision = py "PASS" := by
  unfold gateBranch at h
  split at h
  · rw [← Except.ok.inj h] at hready
    exact guardBranch_ready.mp hready
  · obtain ⟨dec, _, h⟩ := bind_eq_ok.mp h
    split_ifs at h
    · obtain ⟨reasons, _, h⟩ := bind_eq_ok.mp h
      rw [← Except.ok.inj h] at hready
      exact absurd hready (by simp)
    · obtain ⟨reasons, _, h⟩ := bind_eq_ok.mp h
      rw [← Except.ok.inj h] at hready
      exact absurd hready (by simp)
    · rw [← Except.ok.inj h] at hready
      exact guardBranch_ready.mp hready

theorem recommend_ready {contract : TaskContract} {implementer verifier : Option AgentReport}
    {gate : PyVal} {guard : ProcessGuardDecision} {next : NextAction}
    (h : recommendNextAction rt cases contract implementer verifier gate (some guard) = .ok next)
    (hready : next.action = py "READY_FOR_MERGE_OR_PUSH") : guard.decision = py "PASS" := by
  unfold recommendNextAction at h
  split at h
  · rw [← Except.ok.inj h] at hready
    exact absurd hready (by simp)
  split at h
  · rw [← Except.ok.inj h] at hready
    exact absurd hready (by simp)
  split_ifs at h
  · rw [← Except.ok.inj h] at hready
    exact absurd hready (by simp)
  split at h
  · rw [← Except.ok.inj h] at hready
    exact absurd hready (by simp)
  split_ifs at h
  · rw [← Except.ok.inj h] at hready
    exact absurd hready (by simp)
  · exact gateBranch_ready h hready

theorem handoffIdentityError_passed {contract : TaskContract} {role : PyStr} {r : AgentReport}
    (h : Passed contract role r) : handoffIdentityError rt contract role (some r) = none := by
  unfold handoffIdentityError
  dsimp only
  rw [if_neg (by simp [h.parsed]), if_neg (not_not.mpr h.taskId), if_neg (not_not.mpr h.role)]

theorem upper_pass : cases.upper (py "PASS") = py "PASS" := by
  have hascii : Ascii (py "PASS") := ascii_lit _ (by decide)
  rw [cases.upper_ascii _ hascii, py_ofList]
  decide

theorem recommend_complete {g : ProcessGuardInput} {guard : ProcessGuardDecision}
    (h : Complete rt g) :
    recommendNextAction rt cases g.contract g.implementerReport g.verifierReport
      g.changegateDecision (some guard) = .ok (guardBranch g.contract (some guard)) := by
  obtain ⟨⟨r1, hr1, h1⟩, ⟨r2, hr2, h2⟩, ⟨hpass, _⟩, _⟩ := h
  have hdec := of_decide_eq_true hpass
  have hgate : gateBranch g.contract g.changegateDecision (some guard) =
      .ok (guardBranch g.contract (some guard)) := by
    unfold gateBranch
    split
    · rfl
    · have hread : ∃ dec, readAttr g.changegateDecision "decision" = .ok dec ∧
          dec.asStr = some (py "PASS") := by
        unfold readAttr
        unfold attr at hdec
        cases hattr : g.changegateDecision.getattr? (py "decision") with
        | none =>
          rw [hattr] at hdec
          cases hdec
        | some dec =>
          rw [hattr] at hdec
          exact ⟨dec, rfl, hdec⟩
      obtain ⟨dec, hread, hstr⟩ := hread
      rw [hread]
      show (if dec.asStr = some (py "BLOCK") then _ else _) = _
      rw [hstr, if_neg (by simp), if_neg (by simp)]
      rfl
  unfold recommendNextAction
  rw [Option.mem_def.mp hr1, Option.mem_def.mp hr2, handoffIdentityError_passed rt h1,
    handoffIdentityError_passed rt h2]
  dsimp only [Option.or]
  rw [h1.result, h2.result, upper_pass, if_neg (by simp [h1.parsed]), if_neg (by simp)]
  exact hgate

/-- **When the release is recommended.** -/
theorem ready_iff {g : ProcessGuardInput} :
    Ready rt cases g ↔ ∃ action, actionOf g.intendedAction = some action ∧
      (action = .continue ∨ g.taskState ∈ validShipStates action) ∧
      Complete rt g ∧ StatusesAgree g := by
  rw [← evaluateProcessGuard_pass]
  constructor
  · intro ⟨guard, next, hguard, hnext, hready⟩
    exact ⟨guard, hguard, recommend_ready rt cases hnext hready⟩
  · intro ⟨guard, hguard, hpass⟩
    have hcomplete : Complete rt g := by
      obtain ⟨_, _, _, h, _⟩ := (evaluateProcessGuard_pass rt).mp ⟨guard, hguard, hpass⟩
      exact h
    exact ⟨guard, _, hguard, recommend_complete rt cases hcomplete, guardBranch_ready.mpr hpass⟩

/-- **Release safety.**  A recommended release is safe, unless the action is `continue`, everything
else is complete and no shipping action is legal from the task state. -/
theorem release_safe_iff (g : ProcessGuardInput) :
    (Ready rt cases g → ReleaseSafe rt g) ↔
      ¬ (actionOf g.intendedAction = some .continue ∧ Complete rt g ∧ StatusesAgree g ∧
        ¬ Shippable g.taskState) := by
  rw [ready_iff]
  constructor
  · intro h ⟨haction, hcomplete, hstatus, hstate⟩
    exact hstate (h ⟨.continue, haction, Or.inl rfl, hcomplete, hstatus⟩).state
  · intro h ⟨action, haction, hstate, hcomplete, hstatus⟩
    refine ⟨hcomplete, ?_⟩
    by_contra hship
    rcases hstate with rfl | hstate
    · exact h ⟨haction, hcomplete, hstatus, hship⟩
    · refine hship ⟨action, ?_, hstate⟩
      cases action with
      | «continue» => exact absurd hstate List.not_mem_nil
      | _ => simp [shipActions]

end

/-! ### a release from DRAFT -/

/-- A task whose artifacts are complete, still in DRAFT, with the action `continue`. -/
def draftRelease : ProcessGuardInput where
  contract := { taskId := py "t1", title := py "t", goal := py "g" }
  taskState := .draft
  implementerReport := some { taskId := py "t1", role := py "implementer",
                              status := py "IMPLEMENTED", result := py "PASS" }
  verifierReport := some { taskId := py "t1", role := py "verifier",
                           status := py "VERIFIED_PASS", result := py "PASS" }
  changegateDecision := ChangeGateDecision.toObject (small 4300) []
    { decision := py "PASS", findings := [], matchedRequiredEvidence := [],
      missingRequiredEvidence := [] }
  humanApproved := true
  intendedAction := .str (py "continue")

theorem draftRelease_unsafe : ¬ (Ready (small 4300) asciiCase draftRelease →
    ReleaseSafe (small 4300) draftRelease) := by
  have hgate : isPass draftRelease.changegateDecision = true ∧
      validateChangeGateDecision (small 4300) draftRelease.contract
        draftRelease.changegateDecision = .ok [] := by
    have hpass : (attr draftRelease.changegateDecision "decision").asStr = some (py "PASS") := by
      simp [draftRelease, ChangeGateDecision.toObject, attr_cons, PyVal.asStr]
    refine ⟨decide_eq_true hpass, (validateChangeGateDecision_nil _).mpr ⟨hpass, ?_, ?_, [], ?_, ?_⟩⟩
    · simp [draftRelease, ChangeGateDecision.toObject, attr_cons]
    · simp [draftRelease, ChangeGateDecision.toObject, attr_cons, PyVal.strList]
    · simp [draftRelease, ChangeGateDecision.toObject, attr_cons, PyVal.strList]
    · exact fun r hr => absurd hr List.not_mem_nil
  have haction : actionOf draftRelease.intendedAction = some .continue :=
    StrEnum.ofValue?_eq_some.mpr rfl
  have hcomplete : Complete (small 4300) draftRelease :=
    ⟨⟨_, rfl, rfl, rfl, rfl, rfl⟩, ⟨_, rfl, rfl, rfl, rfl, rfl⟩, hgate, rfl⟩
  have hready : Ready (small 4300) asciiCase draftRelease := by
    rw [ready_iff]
    refine ⟨.continue, haction, Or.inl rfl, hcomplete, fun r hr => ?_, fun r hr => ?_⟩
    · rw [← Option.some.inj hr]
    · rw [← Option.some.inj hr]
  intro h
  obtain ⟨action, _, hstate⟩ := (h hready).state
  cases action <;> simp [validShipStates, draftRelease] at hstate

end Tomtit
