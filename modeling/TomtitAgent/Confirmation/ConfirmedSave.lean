import TomtitAgent.State.AgentState
import TomtitAgent.Memory.Contracts

/-!
# `run_confirmed_save`: the one required write of a confirmed decision

* `toCandidate`                  `ConfirmedMemoryWritePolicy.to_candidate`;
* `validateRequiredWriteResponse`   one outcome, or a `RequiredWriteConsistencyError`;
* `MemoryClient`                 any client: it answers or raises, and may remember its writes;
* `runConfirmedSave`             the path of the runtime agent, with the log of its client writes;
* `OneOutcome`, `Accepted`       what the saving run is for: exactly one outcome of one write;
* `confirmed_save_once`          any number of calls write at most once and never claim a success.
-/

open Py

namespace Tomtit

/-! ### errors -/

def confirmedWriteError (cls : String) (msg : PyStr) : PyExc :=
  ⟨[cls, "ConfirmedWriteError", "RuntimeError"], msg⟩

def confirmedWriteValidationError (msg : PyStr) : PyExc :=
  confirmedWriteError "ConfirmedWriteValidationError" msg

def requiredWriteConsistencyError (msg : PyStr) : PyExc :=
  confirmedWriteError "RequiredWriteConsistencyError" msg

/-! ### the policy -/

section
variable {μ : Type}

/-- `to_candidate` of the operation that the state carries; the two are one object. -/
def toCandidate (operation : ConfirmedSaveOperation) (state : AgentState μ) :
    Except PyExc MemoryCandidate := do
  raiseIf (blank state.taskId) (confirmedWriteValidationError (py "state task_id is blank"))
  raiseIf (blank (state.userId.getD [])) (confirmedWriteValidationError (py "state user_id is blank"))
  raiseIf (operation.taskId ≠ state.taskId)
    (confirmedWriteValidationError (py "operation task_id differs from state task_id"))
  raiseIf (operation.sessionId ≠ state.sessionId)
    (confirmedWriteValidationError (py "operation session_id differs from state session_id"))
  let decision := operation.decision
  raiseIf (decision.confirmationId = [])
    (confirmedWriteValidationError (py "confirmation_id is blank"))
  raiseIf (decision.content = []) (confirmedWriteValidationError (py "content is blank"))
  let expected ← confirmedMemoryRequestId decision.confirmationId
  raiseIf (operation.requestId ≠ expected)
    (confirmedWriteValidationError (py "request_id differs from memory-write:<confirmation_id>"))
  let evidence := decision.confirmationEvidence
  raiseIf (evidence.content ≠ decision.content)
    (confirmedWriteValidationError (py "evidence content differs from normalized decision content"))
  raiseIf (evidence.sourceType ≠ .user)
    (confirmedWriteValidationError (py "evidence source_type is not USER"))
  raiseIf (evidence.trustLevel ≠ .trustedInstruction)
    (confirmedWriteValidationError (py "evidence trust_level is not TRUSTED_INSTRUCTION"))
  let expectedSourceRef :=
    py "user-explicit:" ++ operation.taskId ++ py ":" ++ decision.confirmationId
  raiseIf (evidence.sourceRef ≠ some expectedSourceRef)
    (confirmedWriteValidationError
      (py "evidence source_ref is absent or does not match the expected reference"))
  return {
    type := .decision
    content := decision.content
    importance := weight05.float
    confidence := weight1.float
    evidenceRef := evidence.sourceRef
    metadata := [(.str (py "candidate_id"), .str decision.confirmationId)] }

end

/-! ### the response -/

inductive RequiredWriteStatus where
  | written | skippedDuplicate
deriving DecidableEq

structure RequiredWriteOutcome where
  status : RequiredWriteStatus
  memoryId : Option PyStr := none

/-- What a client returns: an object with two lists, or one whose lists cannot be read. -/
inductive ClientResponse where
  | lists (writtenIds skipped : List PyVal)
  | unreadable (e : PyExc)

def noOutcome : PyExc :=
  requiredWriteConsistencyError (py "required write response did not contain exactly one decision outcome")

/-- `validate_required_write_response` -/
def validateRequiredWriteResponse (response : ClientResponse) (expectedCandidateId : PyStr) :
    Except PyExc RequiredWriteOutcome :=
  match response with
  | .unreadable e => .error e
  | .lists writtenIds skipped =>
    if blank expectedCandidateId then
      .error (requiredWriteConsistencyError (py "expected_candidate_id must be nonblank"))
    else if writtenIds ≠ [] ∧ skipped ≠ [] then
      .error (requiredWriteConsistencyError (py "response has both written and skipped results"))
    else match writtenIds, skipped with
      | [memoryId], [] =>
        match memoryId.asStr with
        | some id =>
          if blank id then .error (requiredWriteConsistencyError (py "written memory_id is blank"))
          else .ok ⟨.written, some id⟩
        | none => .error (requiredWriteConsistencyError (py "written memory_id is blank"))
      | [], [candidateId] =>
        if candidateId.asStr ≠ some expectedCandidateId then
          .error (requiredWriteConsistencyError
            (py "skipped candidate_id differs from expected candidate_id"))
        else .ok ⟨.skippedDuplicate, none⟩
      | _, _ => .error noOutcome

def requiredOutcome (answer : Except PyExc ClientResponse) (confirmationId : PyStr) :
    Except PyExc RequiredWriteOutcome := do
  let response ← answer
  validateRequiredWriteResponse response confirmationId

/-! ### the run -/

/-- One call of `write_memory_candidates`. -/
structure WriteCall where
  candidates : List MemoryCandidate
  userId : Option PyStr
  sessionId : Option PyStr
  taskId : PyStr
  requestId : PyStr

/-- A client that answers or raises an `Exception`, as it likes, given the calls before. -/
structure MemoryClient where
  supportsRequiredWrite : Bool
  writeMemoryCandidates : List WriteCall → WriteCall → Except PyExc ClientResponse

/-- A state, and the client writes that were made with it, each with its answer. -/
structure SaveRun (μ : Type) where
  state : AgentState μ
  writes : List (WriteCall × Except PyExc ClientResponse) := []

def confirmedSaveFailedMessage : PyStr := py "Decision was not saved."

section
variable {μ : Type}

/-- `state.errors.append(f"confirmed_write:{reason}")` and `state.fail` -/
def AgentState.failSave (reason : PyStr) (s : AgentState μ) : AgentState μ :=
  (s.addError (py "confirmed_write:" ++ reason)).fail confirmedSaveFailedMessage

/-- The three `except` clauses around the write differ in what they log. -/
def AgentState.failWrite (e : PyExc) (s : AgentState μ) : AgentState μ :=
  { s with memoryWriteFailed := true }.failSave (excName e)

def savedMessage (outcome : RequiredWriteOutcome) (sourceRef : Option PyStr) : PyStr :=
  match outcome.status with
  | .written => py "Decision saved.\nMemory ID: " ++ outcome.memoryId.getD (py "None") ++
      py "\nProvenance: " ++ sourceRef.getD (py "None")
  | .skippedDuplicate => py "Decision already existed.\nProvenance: " ++ sourceRef.getD (py "None")

def writeCall (operation : ConfirmedSaveOperation) (candidate : MemoryCandidate) (s : AgentState μ) :
    WriteCall :=
  ⟨[candidate], s.userId, s.sessionId, s.taskId, operation.requestId⟩

/-- `run_confirmed_save` of an agent with the client. -/
def runConfirmedSave (memoryClient : Option MemoryClient) (r : SaveRun μ) : Except PyExc (SaveRun μ) :=
  let state := r.state
  if state.done ∨ state.status ≠ .created then .ok r
  else match state.confirmedSaveOperation with
    | none => .ok { r with state := state.failSave (py "missing_operation") }
    | some operation =>
      match memoryClient.filter (·.supportsRequiredWrite) with
      | none => .ok { r with state := state.failSave (py "backend_not_capable") }
      | some client =>
        match toCandidate operation state with
        | .error e =>
          if e.isA "ConfirmedWriteValidationError" then .ok { r with state := state.failSave (excName e) }
          else .error e
        | .ok candidate =>
          let call := writeCall operation candidate state
          let answer := client.writeMemoryCandidates (r.writes.map Prod.fst) call
          let writes := r.writes ++ [(call, answer)]
          match requiredOutcome answer operation.decision.confirmationId with
          | .error e => .ok ⟨state.failWrite e, writes⟩
          | .ok outcome =>
            .ok ⟨state.complete (savedMessage outcome
              operation.decision.confirmationEvidence.sourceRef), writes⟩

end

/-! ### one outcome -/

/-- One identifier written and nothing skipped, or nothing written and the confirmed decision skipped. -/
def OneOutcome (confirmationId : PyStr) : ClientResponse → Prop
  | .unreadable _ => False
  | .lists writtenIds skipped =>
    (∃ v id, writtenIds = [v] ∧ v.asStr = some id ∧ blank id = false ∧ skipped = []) ∨
    (writtenIds = [] ∧ ∃ v, skipped = [v] ∧ v.asStr = some confirmationId)

theorem validate_ok_iff {confirmationId : PyStr} (hid : blank confirmationId = false)
    (response : ClientResponse) :
    (∃ outcome, validateRequiredWriteResponse response confirmationId = .ok outcome) ↔
      OneOutcome confirmationId response := by
  cases response with
  | unreadable e => exact ⟨fun ⟨_, h⟩ => absurd h (by simp [validateRequiredWriteResponse]), False.elim⟩
  | lists writtenIds skipped =>
    unfold validateRequiredWriteResponse OneOutcome
    dsimp only
    rw [if_neg (by rw [hid]; exact Bool.false_ne_true)]
    match writtenIds, skipped with
    | [], [] => simp
    | [], [v] =>
      by_cases hv : v.asStr = some confirmationId
      · simp [hv]
      · simp [hv]
    | [], v :: w :: rest => simp
    | [v], [] =>
      cases hv : v.asStr with
      | none => simp [hv]
      | some id => cases hb : blank id <;> simp [hv, hb]
    | v :: w :: rest, [] => simp
    | v :: vs, w :: ws => simp

/-- The answer of the client is a response with one outcome. -/
def Answered (confirmationId : PyStr) (answer : Except PyExc ClientResponse) : Prop :=
  ∃ response, answer = .ok response ∧ OneOutcome confirmationId response

theorem ConfirmedDecision.id_not_blank (d : ConfirmedDecision) : blank d.confirmationId = false := by
  apply blank_eq_false.mpr
  rw [d.id_stripped]
  exact d.id_nonempty

theorem answered_iff (d : ConfirmedDecision) (answer : Except PyExc ClientResponse) :
    (∃ outcome, requiredOutcome answer d.confirmationId = .ok outcome) ↔
      Answered d.confirmationId answer := by
  unfold Answered requiredOutcome
  cases answer with
  | error e => exact ⟨fun ⟨_, h⟩ => absurd h (by simp [bind, Except.bind]), fun ⟨_, h, _⟩ => absurd h (by simp)⟩
  | ok response =>
    have h := validate_ok_iff d.id_not_blank response
    exact ⟨fun ⟨o, ho⟩ => ⟨response, rfl, h.mp ⟨o, ho⟩⟩, fun ⟨r, hr, ho⟩ => h.mpr (Except.ok.inj hr ▸ ho)⟩

/-! ### one call -/

section
variable {μ : Type}

theorem toCandidate_raises (operation : ConfirmedSaveOperation) (state : AgentState μ) :
    RaisesOnly "ConfirmedWriteValidationError" (toCandidate operation state) := by
  have hraise : ∀ (cond : Prop) [Decidable cond] (msg : PyStr),
      RaisesOnly "ConfirmedWriteValidationError" (raiseIf cond (confirmedWriteValidationError msg)) := by
    intro cond _ msg
    unfold raiseIf
    split
    · exact .error rfl
    · exact .ok ()
  have hrequest : RaisesOnly "ConfirmedWriteValidationError"
      (confirmedMemoryRequestId operation.decision.confirmationId) := by
    rw [operation.decision.requestId]
    exact .ok _
  unfold toCandidate
  apply (hraise _ _).bind fun _ => (hraise _ _).bind fun _ => (hraise _ _).bind fun _ => ?_
  apply (hraise _ _).bind fun _ => (hraise _ _).bind fun _ => (hraise _ _).bind fun _ => ?_
  apply hrequest.bind fun _ => (hraise _ _).bind fun _ => (hraise _ _).bind fun _ => ?_
  apply (hraise _ _).bind fun _ => (hraise _ _).bind fun _ => (hraise _ _).bind fun _ => .ok _

/-- What the state, the client and the policy must grant before anything is written. -/
structure Permitted (client : Option MemoryClient) (s : AgentState μ)
    (write : WriteCall × Except PyExc ClientResponse) : Prop where
  created : s.status = .created
  live : s.done = false
  granted : ∃ operation c candidate, s.confirmedSaveOperation = some operation ∧ client = some c ∧
    c.supportsRequiredWrite = true ∧ toCandidate operation s = .ok candidate ∧
    write.1 = writeCall operation candidate s ∧ write.2 = c.writeMemoryCandidates [] write.1

def AgentState.confirmationId (s : AgentState μ) : Option PyStr :=
  s.confirmedSaveOperation.map fun operation => operation.decision.confirmationId

inductive SaveEnd (client : Option MemoryClient) (s : AgentState μ) : SaveRun μ → Prop
  | refused (reason : PyStr) : SaveEnd client s ⟨s.failSave reason, []⟩
  | failed (e : PyExc) (id : PyStr) (write : WriteCall × Except PyExc ClientResponse)
      (hwrite : Permitted client s write) (hid : s.confirmationId = some id)
      (hanswer : ¬ Answered id write.2) : SaveEnd client s ⟨s.failWrite e, [write]⟩
  | saved (message id : PyStr) (write : WriteCall × Except PyExc ClientResponse)
      (hwrite : Permitted client s write) (hid : s.confirmationId = some id)
      (hanswer : Answered id write.2) : SaveEnd client s ⟨s.complete message, [write]⟩

theorem runConfirmedSave_settled {client : Option MemoryClient} {r : SaveRun μ}
    (h : r.state.done = true ∨ r.state.status ≠ .created) : runConfirmedSave client r = .ok r := if_pos h

theorem runConfirmedSave_created (client : Option MemoryClient) {s : AgentState μ}
    (hstatus : s.status = .created) (hlive : s.done = false) :
    ∃ r, runConfirmedSave client ⟨s, []⟩ = .ok r ∧ SaveEnd client s r := by
  unfold runConfirmedSave
  rw [if_neg (by rw [hstatus, hlive]; simp)]
  cases hop : s.confirmedSaveOperation with
  | none => exact ⟨_, rfl, .refused _⟩
  | some operation =>
    dsimp only
    cases hclient : client.filter (·.supportsRequiredWrite) with
    | none => exact ⟨_, rfl, .refused _⟩
    | some c =>
      obtain ⟨hc, hsupports⟩ := Option.filter_eq_some_iff.mp hclient
      dsimp only
      cases hcand : toCandidate operation s with
      | error e =>
        refine ⟨_, if_pos (toCandidate_raises operation s e hcand), .refused _⟩
      | ok candidate =>
        have hid : s.confirmationId = some operation.decision.confirmationId := by
          unfold AgentState.confirmationId
          rw [hop]
          rfl
        dsimp only
        generalize hanswer : c.writeMemoryCandidates _ (writeCall operation candidate s) = answer
        have hwrite : Permitted client s (writeCall operation candidate s, answer) :=
          ⟨hstatus, hlive, operation, c, candidate, hop, hc, hsupports, hcand, rfl, hanswer.symm⟩
        have hanswered := answered_iff operation.decision answer
        cases hv : requiredOutcome answer operation.decision.confirmationId with
        | error e =>
          refine ⟨_, rfl, .failed e _ _ hwrite hid fun hans => ?_⟩
          obtain ⟨o, ho⟩ := hanswered.mpr hans
          rw [ho] at hv
          exact absurd hv (by simp)
        | ok outcome => exact ⟨_, rfl, .saved _ _ _ hwrite hid (hanswered.mp ⟨outcome, hv⟩)⟩

theorem SaveEnd.settled {client : Option MemoryClient} {s : AgentState μ} {r : SaveRun μ}
    (h : SaveEnd client s r) : r.state.done = true := by
  cases h <;> rfl

/-! ### any number of calls -/

/-- `run_confirmed_save` called with one state after another, each time by some agent. -/
def saveCalls (clients : List (Option MemoryClient)) (r : SaveRun μ) : Except PyExc (SaveRun μ) :=
  clients.foldlM (fun r client => runConfirmedSave client r) r

theorem saveCalls_settled {r : SaveRun μ} (h : r.state.done = true ∨ r.state.status ≠ .created)
    (clients : List (Option MemoryClient)) : saveCalls clients r = .ok r := by
  unfold saveCalls
  induction clients with
  | nil => rfl
  | cons client clients ih =>
    rw [List.foldlM_cons, runConfirmedSave_settled h]
    exact ih

theorem saveCalls_created (client : Option MemoryClient) (clients : List (Option MemoryClient))
    {s : AgentState μ} (hstatus : s.status = .created) (hlive : s.done = false) :
    ∃ r, saveCalls (client :: clients) ⟨s, []⟩ = .ok r ∧ SaveEnd client s r := by
  obtain ⟨r, hr, hend⟩ := runConfirmedSave_created client hstatus hlive
  refine ⟨r, ?_, hend⟩
  show (clients.foldlM (fun r client => runConfirmedSave client r) =<< runConfirmedSave client ⟨s, []⟩) = _
  rw [hr]
  exact saveCalls_settled (.inl hend.settled) clients

structure AgentState.Fresh (s : AgentState μ) : Prop where
  created : s.status = .created
  live : s.done = false
  unwritten : s.memoryWriteFailed = false

structure SafeEnd (s : AgentState μ) (r : SaveRun μ) : Prop where
  completed : r.state.status = .completed ↔
    ∃ id write, s.confirmationId = some id ∧ r.writes = [write] ∧ Answered id write.2
  failed : r.state.status ≠ .completed → r.state.status = .failed
  writeFailed : r.state.memoryWriteFailed = true ↔
    ∃ id write, s.confirmationId = some id ∧ r.writes = [write] ∧ ¬ Answered id write.2

theorem SaveEnd.safe {client : Option MemoryClient} {s : AgentState μ} {r : SaveRun μ} (hs : s.Fresh)
    (h : SaveEnd client s r) : SafeEnd s r := by
  cases h with
  | refused reason =>
    refine ⟨⟨fun h => ?_, fun ⟨_, _, _, h, _⟩ => ?_⟩, fun _ => rfl, ⟨fun h => ?_, fun ⟨_, _, _, h, _⟩ => ?_⟩⟩
    · exact absurd (show AgentStatus.failed = .completed from h) (by decide)
    · exact absurd h (List.cons_ne_nil _ _).symm
    · exact absurd (hs.unwritten.symm.trans h) Bool.false_ne_true
    · exact absurd h (List.cons_ne_nil _ _).symm
  | failed e id write hwrite hid hanswer =>
    refine ⟨⟨fun h => ?_, fun ⟨id', w, hid', hw, hans⟩ => ?_⟩, fun _ => rfl,
      ⟨fun _ => ⟨id, write, hid, rfl, hanswer⟩, fun _ => rfl⟩⟩
    · exact absurd (show AgentStatus.failed = .completed from h) (by decide)
    · rw [← Option.some.inj (hid.symm.trans hid'), ← List.head_eq_of_cons_eq hw] at hans
      exact absurd hans hanswer
  | saved message id write hwrite hid hanswer =>
    refine ⟨⟨fun _ => ⟨id, write, hid, rfl, hanswer⟩, fun _ => rfl⟩, fun h => absurd rfl h,
      ⟨fun h => ?_, fun ⟨id', w, hid', hw, hans⟩ => ?_⟩⟩
    · exact absurd (hs.unwritten.symm.trans h) Bool.false_ne_true
    · rw [← Option.some.inj (hid.symm.trans hid'), ← List.head_eq_of_cons_eq hw] at hans
      exact absurd hanswer hans

theorem SaveEnd.writes {client : Option MemoryClient} {s : AgentState μ} {r : SaveRun μ}
    (h : SaveEnd client s r) : r.writes.length ≤ 1 ∧ ∀ w ∈ r.writes, Permitted client s w := by
  cases h with
  | refused reason => exact ⟨Nat.zero_le 1, fun w hw => absurd hw List.not_mem_nil⟩
  | failed e id write hwrite hid hanswer =>
    exact ⟨Nat.le_refl 1, fun w hw => List.mem_singleton.mp hw ▸ hwrite⟩
  | saved message id write hwrite hid hanswer =>
    exact ⟨Nat.le_refl 1, fun w hw => List.mem_singleton.mp hw ▸ hwrite⟩

/-- Whatever the state, the clients and their answers: the calls return, at most one of them writes,
and only with every permission; a fresh state completes exactly when that write had one outcome, else
it fails, and its write counts as failed exactly when there was one without one outcome. -/
theorem confirmed_save_once (clients : List (Option MemoryClient)) (s : AgentState μ) :
    ∃ r, saveCalls clients ⟨s, []⟩ = .ok r ∧ r.writes.length ≤ 1 ∧
      (∀ w ∈ r.writes, ∃ client ∈ clients, Permitted client s w) ∧
      (s.Fresh → clients ≠ [] → SafeEnd s r) := by
  by_cases hs : s.done = true ∨ s.status ≠ .created
  · refine ⟨_, saveCalls_settled hs clients, Nat.zero_le 1, fun w hw => absurd hw List.not_mem_nil, ?_⟩
    intro hfresh _
    rcases hs with hdone | hstatus
    · exact absurd (hfresh.live.symm.trans hdone) Bool.false_ne_true
    · exact absurd hfresh.created hstatus
  · rw [not_or, not_not, Bool.not_eq_true] at hs
    cases clients with
    | nil => exact ⟨_, rfl, Nat.zero_le 1, fun w hw => absurd hw List.not_mem_nil, fun _ h => absurd rfl h⟩
    | cons client clients =>
      obtain ⟨r, hr, hend⟩ := saveCalls_created client clients hs.2 hs.1
      refine ⟨r, hr, hend.writes.1, fun w hw => ⟨client, List.mem_cons_self, hend.writes.2 w hw⟩, ?_⟩
      exact fun hfresh _ => hend.safe hfresh

end
end Tomtit
