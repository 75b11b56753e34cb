import TomtitAgent.Memory.Records

/-!
# `confirmation/models.py`: a decision that the user confirmed, and the operation that saves it

* `EvidenceEnvelope`          the content, source and trust of a confirmation; its metadata is not read;
* `ConfirmedDecision`, `ConfirmedDecision.init`   the texts are stripped and not blank;
* `ConfirmedSaveOperation`, `ConfirmedSaveOperation.init`   the request id is the one of the decision.
-/

open Py

namespace Tomtit

inductive TrustLevel where
  | trustedInstruction | trustedConfiguration | untrustedEvidence
deriving DecidableEq, Repr

structure EvidenceEnvelope where
  content : PyStr
  sourceType : SourceType
  trustLevel : TrustLevel
  sourceRef : Option PyStr := none

/-- `not s.strip()` -/
def blank (s : PyStr) : Bool := (strip s).isEmpty

/-- `confirmed_memory_request_id` -/
def confirmedMemoryRequestId (confirmationId : PyStr) : Except PyExc PyStr :=
  if blank confirmationId then .error (valueError (py "confirmation_id must be nonblank"))
  else .ok (py "memory-write:" ++ strip confirmationId)

structure ConfirmedDecision where
  confirmationId : PyStr
  content : PyStr
  confirmationEvidence : EvidenceEnvelope
  id_stripped : strip confirmationId = confirmationId
  id_nonempty : confirmationId ≠ []
  content_stripped : strip content = content
  content_nonempty : content ≠ []

theorem blank_eq_false {s : PyStr} : blank s = false ↔ strip s ≠ [] := by
  unfold blank
  rw [List.isEmpty_eq_false_iff]

/-- `ConfirmedDecision.__post_init__` -/
def ConfirmedDecision.init (confirmationId content : PyStr) (evidence : EvidenceEnvelope) :
    Except PyExc ConfirmedDecision :=
  if hid : strip confirmationId = [] then .error (valueError (py "confirmation_id must be nonblank"))
  else if hcontent : strip content = [] then .error (valueError (py "content must be nonblank"))
  else .ok ⟨strip confirmationId, strip content, evidence, strip_strip _, hid, strip_strip _, hcontent⟩

theorem ConfirmedDecision.requestId (d : ConfirmedDecision) :
    confirmedMemoryRequestId d.confirmationId = .ok (py "memory-write:" ++ d.confirmationId) := by
  have hb : blank d.confirmationId = false := by
    apply blank_eq_false.mpr
    rw [d.id_stripped]
    exact d.id_nonempty
  unfold confirmedMemoryRequestId
  rw [hb, if_neg Bool.false_ne_true, d.id_stripped]

structure ConfirmedSaveOperation where
  requestId : PyStr
  taskId : PyStr
  sessionId : Option PyStr
  decision : ConfirmedDecision
  requestId_decision : requestId = py "memory-write:" ++ decision.confirmationId
  taskId_nonempty : taskId ≠ []
  sessionId_nonempty : sessionId ≠ some []

/-- `ConfirmedSaveOperation.__post_init__` -/
def ConfirmedSaveOperation.init (requestId taskId : PyStr) (sessionId : Option PyStr)
    (decision : ConfirmedDecision) : Except PyExc ConfirmedSaveOperation :=
  if strip requestId = [] then .error (valueError (py "request_id must be nonblank"))
  else if htask : strip taskId = [] then .error (valueError (py "task_id must be nonblank"))
  else if hsession : sessionId.map strip = some [] then
    .error (valueError (py "session_id must be None or a nonblank string"))
  else if hid : strip requestId = py "memory-write:" ++ decision.confirmationId then
    .ok ⟨strip requestId, strip taskId, sessionId.map strip, decision, hid, htask, hsession⟩
  else .error (valueError (py "request_id must equal memory-write:<decision.confirmation_id>"))

end Tomtit
