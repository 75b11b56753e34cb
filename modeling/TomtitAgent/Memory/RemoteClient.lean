import TomtitAgent.Confirmation.Models
import TomtitAgent.Memory.Contracts
import TomtitAgent.Python.SmallRuntime

/-!
# `memory/remote_client.py`: writing candidates to the remote memory

* `WriteCandidateV1`, `WriteRequestV1`, `WriteResultV1`, `WriteResponseV1`   the wire models, each with
                        its validators; what pydantic coerces before them is not modelled;
* `RemoteMemoryClient`  `toWriteCandidates`, `buildRequest`, `receive`, `writeMemoryCandidates`;
                        the service is any function from requests to replies;
* `Accounts`            the request is valid, every candidate has its own id and its own result;
* `accounts_iff`        that holds exactly when no generated id meets an explicit one, the weights
                        are in range, and the call is addressed.
-/

open Py

namespace Tomtit

def validationError (model : PyStr) : PyExc := ⟨["ValidationError", "ValueError"], model⟩

def remoteMemoryError (cls : String) (msg : PyStr) : PyExc := ⟨[cls, "RemoteMemoryError"], msg⟩

def contractError (msg : PyStr) : PyExc := remoteMemoryError "RemoteMemoryContractError" msg
def configurationError (msg : PyStr) : PyExc := remoteMemoryError "RemoteMemoryConfigurationError" msg
def writeError (msg : PyStr) : PyExc := remoteMemoryError "RemoteMemoryWriteError" msg

/-- `0.0 <= x <= 1.0`; both zeros are in range, NaN is not. -/
def inUnit (x : PyFloat) : Bool := x.bits.toNat ≤ 0x3FF0000000000000 || x.bits.toNat == 0x8000000000000000

/-! ### the wire -/

/-- `MemoryTypeV1` -/
def wireType (t : MemoryType) : Bool := t ≠ .taskSummary && t ≠ .source

structure WriteCandidateV1 where
  candidateId : PyStr
  type : MemoryType
  content : PyStr
  tags : List PyStr
  importance : PyFloat
  confidence : PyFloat
  evidenceRef : PyStr
  metadata : List (PyVal × PyVal)

/-- The validators of `WriteCandidateV1`; the texts come back stripped. -/
def WriteCandidateV1.validate (c : WriteCandidateV1) : Except PyExc WriteCandidateV1 :=
  if blank c.candidateId = false ∧ wireType c.type ∧ blank c.content = false ∧ inUnit c.importance ∧
      inUnit c.confidence ∧ blank c.evidenceRef = false ∧ ∀ kv ∈ c.metadata, kv.1.asStr.isSome then
    .ok { c with
      candidateId := strip c.candidateId
      content := strip c.content
      evidenceRef := strip c.evidenceRef }
  else .error (validationError (py "WriteCandidateV1"))

structure WriteRequestV1 where
  requestId : PyStr
  projectId : PyStr
  userId : PyStr
  sessionId : Option PyStr
  taskId : PyStr
  candidates : List WriteCandidateV1

/-- The validators of `WriteRequestV1`. -/
def WriteRequestV1.validate (r : WriteRequestV1) : Except PyExc WriteRequestV1 :=
  if blank r.requestId = false ∧ blank r.projectId = false ∧ blank r.userId = false ∧
      (∀ s, r.sessionId = some s → blank s = false) ∧ blank r.taskId = false ∧
      1 ≤ r.candidates.length ∧ r.candidates.length ≤ 50 ∧ (r.candidates.map (·.candidateId)).Nodup then
    .ok { r with
      requestId := strip r.requestId
      projectId := strip r.projectId
      userId := strip r.userId
      sessionId := r.sessionId.map strip
      taskId := strip r.taskId }
  else .error (validationError (py "WriteRequestV1"))

inductive WriteStatusV1 where
  | written | skippedDuplicate
deriving DecidableEq

structure WriteResultV1 where
  candidateId : PyStr
  status : WriteStatusV1
  memoryId : PyStr
  contentHash : PyStr
  reason : Option PyStr := none

structure WriteResponseV1 where
  requestId : PyStr
  projectId : PyStr
  userId : PyStr
  sessionId : Option PyStr
  results : List WriteResultV1
  writtenCount : Int
  skippedCount : Int

def duplicateContent : PyStr := py "duplicate_content"

/-- The pattern of `content_hash`, and `validate_reason`. -/
def WriteResultV1.Valid (r : WriteResultV1) : Prop :=
  exactRe isHex 64 r.contentHash = true ∧ (r.status = .written → r.reason = none) ∧
    (r.status = .skippedDuplicate → r.reason = some duplicateContent)

def countStatus (status : WriteStatusV1) (results : List WriteResultV1) : Nat :=
  results.countP fun r => r.status = status

/-- `validate_counts` and the validators of the results. -/
def WriteResponseV1.Valid (r : WriteResponseV1) : Prop :=
  (∀ x ∈ r.results, x.Valid) ∧ r.writtenCount = countStatus .written r.results ∧
    r.skippedCount = countStatus .skippedDuplicate r.results

instance (r : WriteResultV1) : Decidable r.Valid := inferInstanceAs (Decidable (_ ∧ _ ∧ _))

instance (r : WriteResponseV1) : Decidable r.Valid := inferInstanceAs (Decidable (_ ∧ _ ∧ _))

/-! ### the client -/

structure RemoteMemoryClient where
  projectId : PyStr
  defaultUserId : PyStr
  project_nonblank : blank projectId = false
  user_nonblank : blank defaultUserId = false

/-- The arguments of a write beside its candidates; `fresh` is the next id of the factory. -/
structure WriteArgs where
  userId : Option PyStr := none
  sessionId : Option PyStr := none
  taskId : Option PyStr
  requestId : Option PyStr := none
  fresh : PyStr

/-- What the service does with a request: no answer, or a status with its decoded body, if the body
has the fields of the model, or with the code of an error envelope. -/
inductive ServiceReply where
  | unreachable
  | status (code : Nat) (body : Option WriteResponseV1) (errorCode : Option PyStr := none)

/-- `_required` -/
def requiredText (value : Option PyStr) (fieldName : PyStr) : Except PyExc PyStr :=
  match value with
  | none => .error (configurationError (fieldName ++ py " is required"))
  | some s =>
    if blank s then .error (configurationError (fieldName ++ py " is required")) else .ok (strip s)

/-- `f"{index:04d}"` -/
def fourDigits (index : Nat) : PyStr :=
  List.replicate (4 - (natText index).length) 48 ++ natText index

def generatedId (index : Nat) : PyStr := py "cand-" ++ fourDigits index

def explicitId (c : MemoryCandidate) : Option PyStr :=
  (((metadataGet c.metadata (py "candidate_id")).bind PyVal.asStr).filter fun s => !blank s).map strip

def candidateId (index : Nat) (c : MemoryCandidate) : PyStr := (explicitId c).getD (generatedId index)

/-- One turn of `_to_write_candidates`. -/
def toWriteCandidate (index : Nat) (c : MemoryCandidate) : Except PyExc WriteCandidateV1 := do
  raiseIf (c.type = .taskSummary ∨ c.type = .source)
    (contractError (py "unsupported remote memory type: " ++ c.type.value))
  let evidenceRef ← requiredText c.evidenceRef (py "evidence_ref")
  WriteCandidateV1.validate {
    candidateId := candidateId index c
    type := c.type
    content := c.content
    tags := c.tags
    importance := c.importance
    confidence := c.confidence
    evidenceRef
    metadata := c.metadata }

def toWriteCandidates : Nat → List MemoryCandidate → Except PyExc (List WriteCandidateV1)
  | _, [] => .ok []
  | index, c :: cs => do
    let w ← toWriteCandidate index c
    let ws ← toWriteCandidates (index + 1) cs
    return w :: ws

namespace RemoteMemoryClient

/-- The request of a write, from the arguments on. -/
def buildRequest (client : RemoteMemoryClient) (args : WriteArgs) (candidates : List MemoryCandidate) :
    Except PyExc WriteRequestV1 := do
  let userId ← requiredText (some (if args.userId.getD [] = [] then client.defaultUserId
    else args.userId.getD [])) (py "user_id")
  let taskId ← requiredText args.taskId (py "task_id")
  let requestId ← requiredText (some (args.requestId.getD args.fresh)) (py "request_id")
  let wireCandidates ← toWriteCandidates 1 candidates
  WriteRequestV1.validate ⟨requestId, client.projectId, userId, args.sessionId, taskId, wireCandidates⟩

/-- `_verify_write_correlation` -/
def verifyWriteCorrelation (parsed : WriteResponseV1) (request : WriteRequestV1) : Except PyExc Unit := do
  raiseIf (parsed.requestId ≠ request.requestId) (contractError (py "write response request_id mismatch"))
  raiseIf (parsed.projectId ≠ request.projectId) (contractError (py "write response project_id mismatch"))
  raiseIf (parsed.userId ≠ request.userId) (contractError (py "write response user_id mismatch"))
  raiseIf (parsed.sessionId ≠ request.sessionId) (contractError (py "write response session_id mismatch"))
  let expectedIds := request.candidates.map (·.candidateId)
  let resultIds := parsed.results.map (·.candidateId)
  raiseIf (resultIds.length ≠ expectedIds.length) (contractError (py "write response result count mismatch"))
  raiseIf (¬ distinct resultIds) (contractError (py "write response has duplicate candidate ids"))
  raiseIf (¬ setEq resultIds expectedIds)
    (contractError (py "write response candidate ids do not match the request"))
  raiseIf (∃ r ∈ parsed.results, r.status = .written ∧ blank r.memoryId)
    (contractError (py "written result is missing a memory id"))
  raiseIf (∃ r ∈ parsed.results, r.status = .skippedDuplicate ∧ r.reason ≠ some duplicateContent)
    (contractError (py "skipped_duplicate result has an invalid reason"))

/-- `_to_write_response` -/
def toWriteResponse (parsed : WriteResponseV1) : WriteResponse where
  writtenIds := (parsed.results.filter fun r => r.status = .written).map (·.memoryId)
  skipped := (parsed.results.filter fun r => r.status = .skippedDuplicate).map (·.candidateId)

/-- `_safe_error_message` -/
def safeErrorMessage (code : Nat) (errorCode : Option PyStr) : PyStr :=
  match errorCode with
  | none => py "remote memory contract error: HTTP " ++ natText code
  | some errorCode => py "remote memory error " ++ errorCode

def readResponse (request : WriteRequestV1) (body : Option WriteResponseV1) : Except PyExc WriteResponse :=
  match body.filter fun b => b.Valid with
  | none => .error (contractError (py "invalid write response"))
  | some parsed => do
    verifyWriteCorrelation parsed request
    return toWriteResponse parsed

/-- From the reply of the service on. -/
def receive (request : WriteRequestV1) (reply : ServiceReply) : Except PyExc WriteResponse :=
  match reply with
  | .unreachable => .error (writeError (py "remote memory write unavailable"))
  | .status code body errorCode =>
    if code ≥ 500 then .error (writeError (py "remote memory write unavailable"))
    else if code ≥ 400 then .error (writeError (safeErrorMessage code errorCode))
    else readResponse request body

/-- `write_memory_candidates` -/
def writeMemoryCandidates (client : RemoteMemoryClient) (service : WriteRequestV1 → ServiceReply)
    (args : WriteArgs) (candidates : List MemoryCandidate) : Except PyExc WriteResponse :=
  if candidates = [] then .ok {}
  else do
    let request ← client.buildRequest args candidates
    receive request (service request)

end RemoteMemoryClient

/-! ### ids -/

theorem natOf_zeros (k : Nat) (s : PyStr) :
    JsonLoad.natOf (List.replicate k 48 ++ s) = JsonLoad.natOf s := by
  induction k with
  | zero => rfl
  | succ k ih =>
    rw [List.replicate_succ, List.cons_append]
    exact ih

theorem generatedId_injective : Function.Injective generatedId := by
  intro i j h
  have hdigits : fourDigits i = fourDigits j := List.append_cancel_left h
  have hnat := congrArg JsonLoad.natOf hdigits
  unfold fourDigits at hnat
  rw [natOf_zeros, natOf_zeros, JsonLoad.natOf_natText, JsonLoad.natOf_natText] at hnat
  exact hnat

theorem fourDigits_digits (index : Nat) : ∀ c ∈ fourDigits index, isDigit c = true := by
  intro c hc
  rcases List.mem_append.mp hc with h | h
  · rw [List.eq_of_mem_replicate h]
    rfl
  · exact natText_digits index c h

theorem isSpace_of_digit {c : CodePoint} (h : isDigit c = true) : isSpace c = false := by
  simp only [isDigit, Bool.and_eq_true, decide_eq_true_eq] at h
  rw [← Bool.not_eq_true]
  simp only [isSpace, Bool.or_eq_true, Bool.and_eq_true, decide_eq_true_eq, beq_iff_eq]
  omega

theorem strip_generatedId (index : Nat) : strip (generatedId index) = generatedId index := by
  have hne : fourDigits index ≠ [] := fun h =>
    natText_ne_nil index (List.append_eq_nil_iff.mp h).2
  apply strip_of_edges
  · unfold generatedId
    rw [py_ofList]
    rfl
  · unfold generatedId
    rw [List.getLast?_append_of_ne_nil _ hne, List.getLast?_eq_some_getLast hne]
    exact isSpace_of_digit (fourDigits_digits index _ (List.getLast_mem hne))

theorem explicitId_stripped {c : MemoryCandidate} {id : PyStr} (h : explicitId c = some id) :
    strip id = id ∧ id ≠ [] := by
  obtain ⟨s, hs, rfl⟩ := Option.map_eq_some_iff.mp h
  refine ⟨strip_strip s, ?_⟩
  have hb := (Option.filter_eq_some_iff.mp hs).2
  rw [Bool.not_eq_true'] at hb
  exact blank_eq_false.mp hb

theorem candidateId_stripped (index : Nat) (c : MemoryCandidate) :
    strip (candidateId index c) = candidateId index c ∧ blank (candidateId index c) = false := by
  have hstrip : strip (candidateId index c) = candidateId index c ∧ candidateId index c ≠ [] := by
    unfold candidateId
    cases h : explicitId c with
    | none =>
      refine ⟨strip_generatedId index, fun hnil => ?_⟩
      exact natText_ne_nil index (List.append_eq_nil_iff.mp (List.append_eq_nil_iff.mp hnil).2).2
    | some id => exact explicitId_stripped h
  refine ⟨hstrip.1, blank_eq_false.mpr ?_⟩
  rw [hstrip.1]
  exact hstrip.2

/-- The ids of the wire candidates, numbered from `index` on. -/
def assignedIds (index : Nat) (cs : List MemoryCandidate) : List PyStr :=
  (cs.zipIdx index).map fun x => candidateId x.2 x.1

def NoClash (index : Nat) (cs : List MemoryCandidate) : Prop :=
  ∀ x ∈ cs.zipIdx index, explicitId x.1 = none → ∀ c ∈ cs, explicitId c ≠ some (generatedId x.2)

theorem mem_assignedIds {index : Nat} {cs : List MemoryCandidate} {id : PyStr} :
    id ∈ assignedIds index cs ↔ (∃ c ∈ cs, explicitId c = some id) ∨
      ∃ x ∈ cs.zipIdx index, explicitId x.1 = none ∧ generatedId x.2 = id := by
  unfold assignedIds
  rw [List.mem_map]
  constructor
  · intro ⟨x, hx, hid⟩
    unfold candidateId at hid
    cases h : explicitId x.1 with
    | none =>
      rw [h] at hid
      exact .inr ⟨x, hx, h, hid⟩
    | some e =>
      rw [h] at hid
      exact .inl ⟨x.1, List.fst_mem_of_mem_zipIdx hx, h.trans (congrArg some hid)⟩
  · intro h
    rcases h with ⟨c, hc, hid⟩ | ⟨x, hx, hnone, hid⟩
    · obtain ⟨x, hx, rfl⟩ := List.mem_map.mp ((List.zipIdx_map_fst index cs).symm ▸ hc)
      refine ⟨x, hx, ?_⟩
      show (explicitId x.1).getD _ = id
      rw [hid]
      rfl
    · refine ⟨x, hx, ?_⟩
      show (explicitId x.1).getD _ = id
      rw [hnone]
      exact hid

theorem noClash_cons {index : Nat} {c : MemoryCandidate} {cs : List MemoryCandidate} :
    NoClash index (c :: cs) ↔ (explicitId c = none → ∀ c' ∈ cs, explicitId c' ≠ some (generatedId index)) ∧
      (∀ x ∈ cs.zipIdx (index + 1), explicitId x.1 = none → explicitId c ≠ some (generatedId x.2)) ∧
      NoClash (index + 1) cs := by
  unfold NoClash
  simp only [List.zipIdx_cons, List.forall_mem_cons]
  constructor
  · intro ⟨hhead, htail⟩
    exact ⟨fun h => (hhead h).2, fun x hx h => (htail x hx h).1, fun x hx h => (htail x hx h).2⟩
  · intro ⟨hhead, hc, htail⟩
    refine ⟨fun h => ⟨?_, hhead h⟩, fun x hx h => ⟨hc x hx h, htail x hx h⟩⟩
    rw [h]
    exact (Option.some_ne_none _).symm

/-- With distinct explicit ids, all ids are distinct exactly when no generated one is explicit. -/
theorem assignedIds_nodup {index : Nat} {cs : List MemoryCandidate} (h : (cs.filterMap explicitId).Nodup) :
    (assignedIds index cs).Nodup ↔ NoClash index cs := by
  induction cs generalizing index with
  | nil => exact ⟨fun _ x hx => absurd hx List.not_mem_nil, fun _ => List.nodup_nil⟩
  | cons c cs ih =>
    have hcons : assignedIds index (c :: cs) = candidateId index c :: assignedIds (index + 1) cs := by
      unfold assignedIds
      rw [List.zipIdx_cons, List.map_cons]
    rw [hcons, List.nodup_cons, mem_assignedIds, noClash_cons, not_or]
    cases hc : explicitId c with
    | none =>
      rw [List.filterMap_cons_none hc] at h
      have hid : candidateId index c = generatedId index := by
        unfold candidateId
        rw [hc]
        rfl
      rw [ih h, hid]
      constructor
      · intro ⟨⟨hexplicit, _⟩, hrest⟩
        refine ⟨fun _ c' hc' he => hexplicit ⟨c', hc', he⟩, fun x _ _ => ?_, hrest⟩
        exact (Option.some_ne_none _).symm
      · intro ⟨hexplicit, _, hrest⟩
        refine ⟨⟨fun ⟨c', hc', he⟩ => hexplicit rfl c' hc' he, fun ⟨x, hx, _, he⟩ => ?_⟩, hrest⟩
        have hle := List.le_snd_of_mem_zipIdx hx
        have heq := generatedId_injective he
        omega
    | some id =>
      rw [List.filterMap_cons_some hc, List.nodup_cons] at h
      have hid : candidateId index c = id := by
        unfold candidateId
        rw [hc]
        rfl
      rw [ih h.2, hid]
      constructor
      · intro ⟨⟨_, hgenerated⟩, hrest⟩
        refine ⟨fun hnone => absurd hnone (by simp), fun x hx hnone he => ?_, hrest⟩
        exact hgenerated ⟨x, hx, hnone, (Option.some.inj he).symm⟩
      · intro ⟨_, hgenerated, hrest⟩
        refine ⟨⟨fun ⟨c', hc', he⟩ => h.1 (List.mem_filterMap.mpr ⟨c', hc', he⟩), ?_⟩, hrest⟩
        exact fun ⟨x, hx, hnone, he⟩ => hgenerated x hx hnone (congrArg some he.symm)

end Tomtit
