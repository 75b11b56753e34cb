import TomtitAgent.Memory.ContextPacks
import TomtitAgent.Memory.RemoteClient

/-!
# `memory/remote_client.py`: retrieving a context pack from the remote memory

* `ContextRequestV1`, `ContextItemV1`, `ContextResponseV1`   the wire models, each with its validators;
                      what pydantic coerces before them is not modelled;
* `retrieveContextPack`   the request, the reply of the service, and the pack that is made of it;
* `Enforced`          the pack keeps within what the request asked for, or the response is rejected;
* `enforced_iff`      that holds exactly when the service answers within the request: the validators
                      compare the response with itself only.
-/

open Py

namespace Tomtit

/-! ### the wire -/

structure ContextRequestV1 where
  requestId : PyStr
  projectId : PyStr
  userId : PyStr
  sessionId : Option PyStr
  query : PyStr
  tokenBudget : Int
  maxItems : Int

/-- The validators of `ContextRequestV1`; the texts come back stripped. -/
def ContextRequestV1.validate (r : ContextRequestV1) : Except PyExc ContextRequestV1 :=
  if blank r.requestId = false ∧ blank r.projectId = false ∧ blank r.userId = false ∧
      (∀ s, r.sessionId = some s → blank s = false) ∧ blank r.query = false ∧
      0 ≤ r.tokenBudget ∧ r.tokenBudget ≤ 8000 ∧ 0 ≤ r.maxItems ∧ r.maxItems ≤ 50 then
    .ok { r with
      requestId := strip r.requestId
      projectId := strip r.projectId
      userId := strip r.userId
      sessionId := r.sessionId.map strip
      query := strip r.query }
  else .error (validationError (py "ContextRequestV1"))

structure ContextItemV1 where
  memoryId : PyStr
  type : MemoryType
  content : PyStr
  tags : List PyStr := []
  importance : PyFloat
  confidence : PyFloat
  sourceTaskId : Option PyStr := none
  evidenceRef : Option PyStr := none
  score : PyFloat
  tokenCost : Int
  /-- `created_at.isoformat()` -/
  createdAt : PyStr
  /-- `updated_at.isoformat()` -/
  updatedAt : PyStr
  metadata : Dict PyStr PyVal := Dict.empty

/-- The validators of `ContextItemV1`. -/
def ContextItemV1.validate (i : ContextItemV1) : Except PyExc ContextItemV1 :=
  if blank i.memoryId = false ∧ wireType i.type ∧ blank i.content = false ∧ inUnit i.importance ∧
      inUnit i.confidence ∧ inUnit i.score ∧ 0 ≤ i.tokenCost then
    .ok { i with memoryId := strip i.memoryId, content := strip i.content }
  else .error (validationError (py "ContextItemV1"))

def validateItems : List ContextItemV1 → Except PyExc (List ContextItemV1)
  | [] => .ok []
  | i :: is => do
    let item ← i.validate
    let items ← validateItems is
    return item :: items

structure ContextResponseV1 where
  schemaVersion : PyStr
  requestId : PyStr
  projectId : PyStr
  userId : PyStr
  sessionId : Option PyStr := none
  query : PyStr
  memorySource : PyStr
  tokenizerId : PyStr
  items : List ContextItemV1
  totalItems : Int
  tokensUsed : Int
  tokenBudget : Int
  truncated : Bool
  degraded : Bool
  warnings : List PyStr := []

def memoryContractV1 : PyStr := py "memory-contract-v1"
def tomtitMemory : PyStr := py "tomtit-memory"
def cl100kBase : PyStr := py "cl100k_base"

def tokenCosts (items : List ContextItemV1) : Int := (items.map (·.tokenCost)).sum

/-- The validators of `ContextResponseV1`, and `validate_totals`. -/
def ContextResponseV1.validate (r : ContextResponseV1) : Except PyExc ContextResponseV1 := do
  let items ← validateItems r.items
  raiseIf (r.schemaVersion ≠ memoryContractV1 ∨ r.memorySource ≠ tomtitMemory ∨
      r.tokenizerId ≠ cl100kBase ∨ r.degraded = true ∨ r.totalItems < 0 ∨ r.tokensUsed < 0 ∨
      r.tokenBudget < 0 ∨ r.tokenBudget > 8000)
    (validationError (py "ContextResponseV1"))
  raiseIf (r.tokensUsed ≠ tokenCosts items) (validationError (py "ContextResponseV1"))
  raiseIf (r.totalItems < items.length) (validationError (py "ContextResponseV1"))
  raiseIf (r.tokensUsed > r.tokenBudget) (validationError (py "ContextResponseV1"))
  return { r with items }

/-- What the service does with a request: no answer, or a status with its decoded body, if the body
has the fields of the model, or with the code of an error envelope. -/
inductive RetrieveReply where
  | unreachable
  | status (code : Nat) (body : Option ContextResponseV1) (errorCode : Option PyStr := none)

/-! ### the client -/

def optionalStr : Option PyStr → PyVal
  | none => .none
  | some s => .str s

/-- `_to_context_item` -/
def toContextItem (response : ContextResponseV1) (i : ContextItemV1) : RetrievedItem where
  content := i.content
  type := i.type
  score := i.score
  tokens := i.tokenCost
  source := .remoteMemory
  provenance := .remote
  confidence := .normal
  freshness := .fresh
  metadata := (i.metadata.update (Dict.ofItems [
    (py "memory_id", .str i.memoryId), (py "tags", .list (i.tags.map .str)),
    (py "importance", .float i.importance), (py "confidence", .float i.confidence),
    (py "source_task_id", optionalStr i.sourceTaskId), (py "evidence_ref", optionalStr i.evidenceRef),
    (py "created_at", .str i.createdAt), (py "updated_at", .str i.updatedAt),
    (py "tokenizer_id", .str response.tokenizerId),
    (py "warnings", .list (response.warnings.map .str))])).items.map fun kv => (.str kv.1, kv.2)
  sourceRef := some i.memoryId

/-- `_to_context_pack` -/
def toContextPack (response : ContextResponseV1) : RetrievedPack where
  items := response.items.map (toContextItem response)
  totalItems := response.totalItems
  tokensUsed := response.tokensUsed
  tokenBudget := response.tokenBudget
  truncated := response.truncated
  degraded := response.degraded
  memorySource := .remote

/-- `_degraded_pack` -/
def degradedPack (tokenBudget : Int) : RetrievedPack where
  items := []
  totalItems := 0
  tokensUsed := 0
  tokenBudget := tokenBudget
  truncated := false
  degraded := true
  memorySource := .remote

namespace RemoteMemoryClient

/-- The request of a retrieval; `fresh` is the next id of the factory. -/
def buildContextRequest (client : RemoteMemoryClient) (args : RetrieveArgs) (fresh : PyStr) :
    Except PyExc ContextRequestV1 := do
  let userId ← requiredText (some (if args.userId.getD [] = [] then client.defaultUserId
    else args.userId.getD [])) (py "user_id")
  let requestId ← requiredText (some fresh) (py "request_id")
  ContextRequestV1.validate
    ⟨requestId, client.projectId, userId, args.sessionId, args.goal, args.tokenBudget, args.maxItems⟩

def readContext (body : Option ContextResponseV1) : Except PyExc RetrievedPack :=
  match body with
  | none => .error (contractError (py "invalid context response"))
  | some response =>
    match response.validate with
    | .error _ => .error (contractError (py "invalid context response"))
    | .ok parsed => .ok (toContextPack parsed)

def receiveContext (tokenBudget : Int) (reply : RetrieveReply) : Except PyExc RetrievedPack :=
  match reply with
  | .unreachable => .ok (degradedPack tokenBudget)
  | .status code body errorCode =>
    if code = 503 ∨ code ≥ 500 then .ok (degradedPack tokenBudget)
    else if code ≥ 400 then .error (contractError (safeErrorMessage code errorCode))
    else readContext body

def retrieveContextPack (client : RemoteMemoryClient) (service : ContextRequestV1 → RetrieveReply)
    (args : RetrieveArgs) (fresh : PyStr) : Except PyExc RetrievedPack := do
  let request ← client.buildContextRequest args fresh
  receiveContext args.tokenBudget (service request)

end RemoteMemoryClient

/-! ### the budget of a request -/

def Answers (request : ContextRequestV1) (response : ContextResponseV1) : Prop :=
  response.requestId = request.requestId ∧ response.projectId = request.projectId ∧
    response.userId = request.userId ∧ response.sessionId = request.sessionId

/-- The pack keeps within what the request asked for, and the response belongs to the request. -/
structure KeepsWithin (request : ContextRequestV1) (response : ContextResponseV1) (pack : RetrievedPack) :
    Prop where
  items : (pack.items.length : Int) ≤ request.maxItems
  used : pack.tokensUsed ≤ request.tokenBudget
  tokens : (pack.items.map (·.tokens)).sum ≤ request.tokenBudget
  budget : pack.tokenBudget = request.tokenBudget
  belongs : Answers request response

/-- The response is answered by a pack that keeps within the request, or rejected as a contract error. -/
def Enforced (request : ContextRequestV1) (response : ContextResponseV1)
    (result : Except PyExc RetrievedPack) : Prop :=
  (∃ pack, result = .ok pack ∧ KeepsWithin request response pack) ∨
    ∃ msg, result = .error (contractError msg)

theorem validateItems_ok {is items : List ContextItemV1} (h : validateItems is = .ok items) :
    items.length = is.length ∧ items.map (·.tokenCost) = is.map (·.tokenCost) := by
  induction is generalizing items with
  | nil =>
    rw [← Except.ok.inj h]
    exact ⟨rfl, rfl⟩
  | cons i is ih =>
    obtain ⟨item, hitem, h⟩ := bind_eq_ok.mp h
    obtain ⟨rest, hrest, h⟩ := bind_eq_ok.mp h
    obtain ⟨hlen, hcosts⟩ := ih hrest
    have hcost : item.tokenCost = i.tokenCost := by
      unfold ContextItemV1.validate at hitem
      split_ifs at hitem
      rw [← Except.ok.inj hitem]
    rw [← Except.ok.inj h, List.length_cons, List.length_cons, hlen, List.map_cons, List.map_cons, hcost,
      hcosts]
    exact ⟨rfl, rfl⟩

theorem validate_response {response parsed : ContextResponseV1} (h : response.validate = .ok parsed) :
    parsed.items.length = response.items.length ∧ parsed.tokenBudget = response.tokenBudget ∧
      parsed.tokensUsed = tokenCosts parsed.items ∧ parsed.tokensUsed ≤ parsed.tokenBudget := by
  obtain ⟨items, hitems, h⟩ := bind_eq_ok.mp h
  simp only [bind_eq_ok, raiseIf_eq_ok, not_not, exists_unit, not_lt] at h
  obtain ⟨-, hused, -, hbudget, h⟩ := h
  rw [← Except.ok.inj h]
  exact ⟨(validateItems_ok hitems).1, rfl, hused, hbudget⟩

theorem toContextPack_tokens (parsed : ContextResponseV1) :
    ((toContextPack parsed).items.map (·.tokens)).sum = tokenCosts parsed.items := by
  unfold toContextPack tokenCosts
  rw [List.map_map]
  rfl

theorem buildContextRequest_ok {client : RemoteMemoryClient} {args : RetrieveArgs} {fresh : PyStr}
    {request : ContextRequestV1} (h : client.buildContextRequest args fresh = .ok request) :
    request.tokenBudget = args.tokenBudget ∧ request.maxItems = args.maxItems := by
  obtain ⟨_, _, h⟩ := bind_eq_ok.mp h
  obtain ⟨_, _, h⟩ := bind_eq_ok.mp h
  unfold ContextRequestV1.validate at h
  split_ifs at h
  rw [← Except.ok.inj h]
  exact ⟨rfl, rfl⟩

/-- A valid response under a success status is enforced exactly when it answers the request, reports
its budget and has no more items than it asked for. -/
theorem enforced_iff (client : RemoteMemoryClient) (args : RetrieveArgs) (fresh : PyStr)
    (service : ContextRequestV1 → RetrieveReply) {request : ContextRequestV1}
    {response parsed : ContextResponseV1} {code : Nat} {errorCode : Option PyStr}
    (hrequest : client.buildContextRequest args fresh = .ok request)
    (hreply : service request = .status code (some response) errorCode) (hcode : code < 400)
    (hvalid : response.validate = .ok parsed) :
    Enforced request response (client.retrieveContextPack service args fresh) ↔
      (response.items.length : Int) ≤ args.maxItems ∧ response.tokenBudget = args.tokenBudget ∧
        Answers request response := by
  obtain ⟨hlen, hbudget, hused, hwithin⟩ := validate_response hvalid
  obtain ⟨hargs, hmax⟩ := buildContextRequest_ok hrequest
  have hrun : client.retrieveContextPack service args fresh = .ok (toContextPack parsed) := by
    unfold RemoteMemoryClient.retrieveContextPack
    rw [hrequest]
    show RemoteMemoryClient.receiveContext args.tokenBudget (service request) = _
    rw [hreply]
    unfold RemoteMemoryClient.receiveContext RemoteMemoryClient.readContext
    dsimp only
    rw [if_neg (by omega), if_neg (by omega), hvalid]
  have hitems : (toContextPack parsed).items.length = response.items.length := by
    rw [← hlen]
    exact List.length_map _
  rw [hrun]
  constructor
  · rintro (⟨pack, hpack, hkeeps⟩ | ⟨msg, hmsg⟩)
    · obtain rfl := Except.ok.inj hpack
      refine ⟨?_, ?_, hkeeps.belongs⟩
      · rw [← hitems, ← hmax]
        exact hkeeps.items
      · rw [← hbudget, ← hargs]
        exact hkeeps.budget
    · exact absurd hmsg (by simp)
  · intro ⟨hcount, hsame, hanswers⟩
    have hreported : parsed.tokenBudget = request.tokenBudget := by rw [hbudget, hsame, hargs]
    refine .inl ⟨_, rfl, ?_, ?_, ?_, hreported, hanswers⟩
    · rw [hitems, hmax]
      exact hcount
    · rw [← hreported]
      exact hwithin
    · rw [toContextPack_tokens, ← hused, ← hreported]
      exact hwithin

/-! ### a response that ignores the request -/

def askingClient : RemoteMemoryClient := ⟨[112], [117], rfl, rfl⟩

def noItems : RetrieveArgs := { goal := [103], tokenBudget := 0, maxItems := 0 }

def freeItem : ContextItemV1 where
  memoryId := [109]
  type := .fact
  content := [99]
  importance := ⟨0#64⟩
  confidence := ⟨0#64⟩
  score := ⟨0#64⟩
  tokenCost := 0
  createdAt := []
  updatedAt := []

def twoItems : RetrieveArgs := { goal := [103], tokenBudget := 10, maxItems := 2 }

/-- The answer to the requests of `askingClient` with the given items and budget. -/
def answerWith (items : List ContextItemV1) (tokenBudget : Int) : ContextResponseV1 where
  schemaVersion := memoryContractV1
  requestId := [114]
  projectId := [112]
  userId := [117]
  query := [103]
  memorySource := tomtitMemory
  tokenizerId := cl100kBase
  items := items
  totalItems := items.length
  tokensUsed := tokenCosts items
  tokenBudget := tokenBudget
  truncated := false
  degraded := false

theorem twoItems_request :
    askingClient.buildContextRequest twoItems [114] = .ok ⟨[114], [112], [117], none, [103], 10, 2⟩ := rfl

theorem answerWith_validate {items : List ContextItemV1} {tokenBudget : Int} (hitems : validateItems items = .ok items)
    (hcosts : 0 ≤ tokenCosts items ∧ tokenCosts items ≤ tokenBudget) (hbudget : tokenBudget ≤ 8000) :
    (answerWith items tokenBudget).validate = .ok (answerWith items tokenBudget) := by
  have hfields : ¬ (memoryContractV1 ≠ memoryContractV1 ∨ tomtitMemory ≠ tomtitMemory ∨
      cl100kBase ≠ cl100kBase ∨ false = true ∨ (items.length : Int) < 0 ∨ tokenCosts items < 0 ∨
      tokenBudget < 0 ∨ tokenBudget > 8000) := by
    simp only [ne_eq, not_true_eq_false, false_or, Bool.false_eq_true]
    omega
  refine bind_eq_ok.mpr ⟨items, hitems, ?_⟩
  refine bind_eq_ok.mpr ⟨(), raiseIf_eq_ok.mpr hfields, ?_⟩
  refine bind_eq_ok.mpr ⟨(), raiseIf_eq_ok.mpr fun h => h rfl, ?_⟩
  refine bind_eq_ok.mpr ⟨(), raiseIf_eq_ok.mpr (lt_irrefl _), ?_⟩
  exact bind_eq_ok.mpr ⟨(), raiseIf_eq_ok.mpr (not_lt.mpr hcosts.2), rfl⟩

/-- An item of three tokens, within the ten that were asked for. -/
def pricedItem : ContextItemV1 := { freeItem with tokenCost := 3 }

theorem enforced_pricedItem :
    Enforced ⟨[114], [112], [117], none, [103], 10, 2⟩ (answerWith [pricedItem] 10)
      (askingClient.retrieveContextPack (fun _ => .status 200 (some (answerWith [pricedItem] 10))) twoItems [114]) :=
  (enforced_iff askingClient twoItems [114] _ twoItems_request rfl (by decide)
    (answerWith_validate rfl ⟨by decide, by decide⟩ (by decide))).mpr
    ⟨by decide, rfl, rfl, rfl, rfl, rfl⟩

/-- One item and a budget of 8000 where none was asked for. -/
theorem not_enforced : (∃ parsed, (answerWith [freeItem] 8000).validate = .ok parsed) ∧
    ¬ Enforced ⟨[114], [112], [117], none, [103], 0, 0⟩ (answerWith [freeItem] 8000)
      (askingClient.retrieveContextPack (fun _ => .status 200 (some (answerWith [freeItem] 8000))) noItems [114]) := by
  have hvalid : (answerWith [freeItem] 8000).validate = .ok (answerWith [freeItem] 8000) :=
    answerWith_validate rfl ⟨by decide, by decide⟩ (le_refl _)
  refine ⟨⟨_, hvalid⟩, ?_⟩
  have hrun : askingClient.retrieveContextPack (fun _ => .status 200 (some (answerWith [freeItem] 8000))) noItems
      [114] = .ok (toContextPack (answerWith [freeItem] 8000)) := by
    show RemoteMemoryClient.readContext (some (answerWith [freeItem] 8000)) = _
    unfold RemoteMemoryClient.readContext
    dsimp only
    rw [hvalid]
  rw [hrun]
  rintro (⟨pack, hpack, hkeeps⟩ | ⟨msg, hmsg⟩)
  · rw [← Except.ok.inj hpack] at hkeeps
    exact absurd hkeeps.items (by decide)
  · exact absurd hmsg (by simp)

end Tomtit
