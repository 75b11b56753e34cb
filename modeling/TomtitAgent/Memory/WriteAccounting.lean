import TomtitAgent.Memory.RemoteClient

/-!
# Every candidate of a remote write is accounted for

* `Writable`         what the caller gives: one to fifty candidates with their texts, explicit ids apart;
* `Addressed`, `InRange`, `NoClash`   what the request needs beside that;
* `AnswersOnce`      a reply with one result for each candidate of the request;
* `receive_accounts`, `buildRequest_ok_iff`   the two halves of a write;
* `Accounts`, `accounts_iff`   the whole write.
-/

open Py

namespace Tomtit

structure Writable (candidates : List MemoryCandidate) : Prop where
  count : 1 ≤ candidates.length ∧ candidates.length ≤ 50
  types : ∀ c ∈ candidates, wireType c.type = true
  contents : ∀ c ∈ candidates, blank c.content = false
  evidence : ∀ c ∈ candidates, ∃ e, c.evidenceRef = some e ∧ blank e = false
  ids : (candidates.filterMap explicitId).Nodup

/-- The weights are between zero and one, and the metadata have string keys. -/
def InRange (c : MemoryCandidate) : Prop :=
  inUnit c.importance = true ∧ inUnit c.confidence = true ∧ ∀ kv ∈ c.metadata, kv.1.asStr.isSome

/-- The arguments beside the candidates name a task and a request, and are not blank. -/
structure Addressed (args : WriteArgs) : Prop where
  user : ∀ u, args.userId = some u → u ≠ [] → blank u = false
  session : ∀ s, args.sessionId = some s → blank s = false
  task : ∃ t, args.taskId = some t ∧ blank t = false
  request : blank (args.requestId.getD args.fresh) = false

theorem blank_strip (s : PyStr) : blank (strip s) = blank s := by
  unfold blank
  rw [strip_strip]

theorem requiredText_ok {value : Option PyStr} {fieldName t : PyStr} :
    requiredText value fieldName = .ok t ↔ ∃ s, value = some s ∧ blank s = false ∧ t = strip s := by
  unfold requiredText
  cases value with
  | none => exact ⟨fun h => absurd h (by simp), fun ⟨_, h, _⟩ => absurd h (by simp)⟩
  | some s =>
    dsimp only
    cases hb : blank s with
    | true => exact ⟨fun h => absurd h (by simp), fun ⟨s', h, h', _⟩ => by
        rw [← Option.some.inj h, hb] at h'
        exact absurd h' (by simp)⟩
    | false =>
      rw [if_neg Bool.false_ne_true]
      exact ⟨fun h => ⟨s, rfl, hb, (Except.ok.inj h).symm⟩,
        fun ⟨s', h, _, ht⟩ => by rw [ht, ← Option.some.inj h]⟩

/-! ### the request -/

theorem toWriteCandidate_ok {candidates : List MemoryCandidate} (hw : Writable candidates)
    {c : MemoryCandidate} (hc : c ∈ candidates) (index : Nat) :
    ((∃ w, toWriteCandidate index c = .ok w) ↔ InRange c) ∧
      ∀ w, toWriteCandidate index c = .ok w → w.candidateId = candidateId index c := by
  obtain ⟨e, he, hblank⟩ := hw.evidence c hc
  obtain ⟨hstrip, hid⟩ := candidateId_stripped index c
  have htype := hw.types c hc
  have hsupported : ¬ (c.type = .taskSummary ∨ c.type = .source) := by
    intro h
    rcases h with h | h
    · rw [h] at htype
      exact absurd htype (by decide)
    · rw [h] at htype
      exact absurd htype (by decide)
  have hrun : toWriteCandidate index c = WriteCandidateV1.validate ⟨candidateId index c, c.type, c.content,
      c.tags, c.importance, c.confidence, strip e, c.metadata⟩ := by
    unfold toWriteCandidate raiseIf
    rw [if_neg hsupported, requiredText_ok.mpr ⟨e, he, hblank, rfl⟩]
    rfl
  rw [hrun]
  unfold WriteCandidateV1.validate
  dsimp only
  rw [blank_strip, hid, htype, hw.contents c hc, hblank]
  by_cases hr : InRange c
  · rw [if_pos ⟨rfl, rfl, rfl, hr.1, hr.2.1, rfl, hr.2.2⟩]
    refine ⟨⟨fun _ => hr, fun _ => ⟨_, rfl⟩⟩, fun w h => ?_⟩
    rw [← Except.ok.inj h]
    exact hstrip
  · rw [if_neg fun h => hr ⟨h.2.2.2.1, h.2.2.2.2.1, h.2.2.2.2.2.2⟩]
    exact ⟨⟨fun ⟨_, h⟩ => absurd h (by simp), fun h => absurd h hr⟩, fun w h => absurd h (by simp)⟩

theorem toWriteCandidates_ok {candidates : List MemoryCandidate} (hw : Writable candidates)
    {cs : List MemoryCandidate} (hcs : ∀ c ∈ cs, c ∈ candidates) (index : Nat) :
    ((∃ ws, toWriteCandidates index cs = .ok ws) ↔ ∀ c ∈ cs, InRange c) ∧
      ∀ ws, toWriteCandidates index cs = .ok ws → ws.map (·.candidateId) = assignedIds index cs := by
  induction cs generalizing index with
  | nil =>
    refine ⟨⟨fun _ c hc => absurd hc List.not_mem_nil, fun _ => ⟨[], rfl⟩⟩, fun ws h => ?_⟩
    rw [← Except.ok.inj h]
    rfl
  | cons c cs ih =>
    obtain ⟨hok, hid⟩ := toWriteCandidate_ok hw (hcs c List.mem_cons_self) index
    obtain ⟨hrest, hids⟩ := ih (fun c' hc' => hcs c' (List.mem_cons_of_mem c hc')) (index + 1)
    rw [toWriteCandidates, List.forall_mem_cons, ← hok, ← hrest]
    refine ⟨⟨fun ⟨ws, h⟩ => ?_, fun ⟨⟨w, hw'⟩, ws, hws⟩ => ⟨w :: ws, ?_⟩⟩, fun ws h => ?_⟩
    · obtain ⟨w, hw', h'⟩ := bind_eq_ok.mp h
      obtain ⟨ws', hws, -⟩ := bind_eq_ok.mp h'
      exact ⟨⟨w, hw'⟩, ws', hws⟩
    · rw [hw', hws]
      rfl
    · obtain ⟨w, hw', h'⟩ := bind_eq_ok.mp h
      obtain ⟨ws', hws, he⟩ := bind_eq_ok.mp h'
      rw [← Except.ok.inj he, List.map_cons, hid w hw', hids ws' hws]
      unfold assignedIds
      rw [List.zipIdx_cons, List.map_cons]

theorem validateRequest_ok {r r' : WriteRequestV1} (h : r.validate = .ok r') :
    r'.candidates = r.candidates ∧ (r.candidates.map (·.candidateId)).Nodup ∧
      ∀ s, r.sessionId = some s → blank s = false := by
  unfold WriteRequestV1.validate at h
  split at h
  · next hv =>
    rw [← Except.ok.inj h]
    exact ⟨rfl, hv.2.2.2.2.2.2.2, hv.2.2.2.1⟩
  · exact absurd h (by simp)

theorem length_assignedIds (index : Nat) (cs : List MemoryCandidate) :
    (assignedIds index cs).length = cs.length := by
  unfold assignedIds
  rw [List.length_map, List.length_zipIdx]

def resolvedUser (client : RemoteMemoryClient) (args : WriteArgs) : PyStr :=
  if args.userId.getD [] = [] then client.defaultUserId else args.userId.getD []

theorem resolvedUser_blank (client : RemoteMemoryClient) (args : WriteArgs) :
    blank (resolvedUser client args) = false ↔ ∀ u, args.userId = some u → u ≠ [] → blank u = false := by
  unfold resolvedUser
  cases args.userId with
  | none => exact ⟨fun _ u h => absurd h (by simp), fun _ => client.user_nonblank⟩
  | some u =>
    show blank (if u = [] then _ else u) = false ↔ _
    by_cases hu : u = []
    · rw [if_pos hu]
      exact ⟨fun _ u' h hne => absurd (Option.some.inj h ▸ hu) hne, fun _ => client.user_nonblank⟩
    · rw [if_neg hu]
      exact ⟨fun h u' hu' _ => Option.some.inj hu' ▸ h, fun h => h u rfl hu⟩

/-- The request is built exactly when the call is addressed, the weights are in range and the ids do
not clash; its candidates carry the assigned ids. -/
theorem buildRequest_ok_iff (client : RemoteMemoryClient) (args : WriteArgs)
    {candidates : List MemoryCandidate} (hw : Writable candidates) :
    ((∃ request, client.buildRequest args candidates = .ok request) ↔
      Addressed args ∧ (∀ c ∈ candidates, InRange c) ∧ NoClash 1 candidates) ∧
    ∀ request, client.buildRequest args candidates = .ok request →
      request.candidates.map (·.candidateId) = assignedIds 1 candidates ∧
        (assignedIds 1 candidates).Nodup := by
  obtain ⟨hok, hids⟩ := toWriteCandidates_ok hw (fun c hc => hc) 1
  have hparts : ∀ request, client.buildRequest args candidates = .ok request →
      ∃ userId taskId requestId ws, requiredText (some (resolvedUser client args)) (py "user_id") = .ok userId ∧
        requiredText args.taskId (py "task_id") = .ok taskId ∧
        requiredText (some (args.requestId.getD args.fresh)) (py "request_id") = .ok requestId ∧
        toWriteCandidates 1 candidates = .ok ws ∧
        WriteRequestV1.validate ⟨requestId, client.projectId, userId, args.sessionId, taskId, ws⟩ =
          .ok request := by
    intro request h
    obtain ⟨userId, huser, h⟩ := bind_eq_ok.mp h
    obtain ⟨taskId, htask, h⟩ := bind_eq_ok.mp h
    obtain ⟨requestId, hrequest, h⟩ := bind_eq_ok.mp h
    obtain ⟨ws, hws, h⟩ := bind_eq_ok.mp h
    exact ⟨userId, taskId, requestId, ws, huser, htask, hrequest, hws, h⟩
  refine ⟨⟨fun ⟨request, h⟩ => ?_, fun ⟨haddr, hrange, hclash⟩ => ?_⟩, fun request h => ?_⟩
  · obtain ⟨userId, taskId, requestId, ws, huser, htask, hrequest, hws, h⟩ := hparts request h
    obtain ⟨-, hnodup, hsession⟩ := validateRequest_ok h
    obtain ⟨u, hu, hublank, -⟩ := requiredText_ok.mp huser
    obtain ⟨t, ht, htblank, -⟩ := requiredText_ok.mp htask
    obtain ⟨r, hr, hrblank, -⟩ := requiredText_ok.mp hrequest
    rw [hids ws hws] at hnodup
    refine ⟨⟨(resolvedUser_blank client args).mp ?_, hsession, ⟨t, ht, htblank⟩, ?_⟩, hok.mp ⟨ws, hws⟩,
      (assignedIds_nodup hw.ids).mp hnodup⟩
    · rw [Option.some.inj hu]
      exact hublank
    · rw [Option.some.inj hr]
      exact hrblank
  · obtain ⟨ws, hws⟩ := hok.mpr hrange
    obtain ⟨t, ht, htblank⟩ := haddr.task
    have huser := (resolvedUser_blank client args).mpr haddr.user
    have hlen : ws.length = candidates.length := by
      rw [← List.length_map (f := fun w : WriteCandidateV1 => w.candidateId), hids ws hws, length_assignedIds]
    have hvalid : ∃ request, WriteRequestV1.validate ⟨strip (args.requestId.getD args.fresh),
        client.projectId, strip (resolvedUser client args), args.sessionId, strip t, ws⟩ = .ok request := by
      refine ⟨_, if_pos ⟨?_, client.project_nonblank, ?_, haddr.session, ?_, ?_, ?_, ?_⟩⟩
      · exact (blank_strip _).trans haddr.request
      · exact (blank_strip _).trans huser
      · exact (blank_strip _).trans htblank
      · show 1 ≤ ws.length
        rw [hlen]
        exact hw.count.1
      · show ws.length ≤ 50
        rw [hlen]
        exact hw.count.2
      · show (ws.map (·.candidateId)).Nodup
        rw [hids ws hws]
        exact (assignedIds_nodup hw.ids).mpr hclash
    obtain ⟨request, hrequest⟩ := hvalid
    refine ⟨request, ?_⟩
    show (requiredText (some (resolvedUser client args)) _ >>= _) = _
    rw [requiredText_ok.mpr ⟨_, rfl, huser, rfl⟩]
    show (requiredText args.taskId _ >>= _) = _
    rw [requiredText_ok.mpr ⟨t, ht, htblank, rfl⟩]
    show (requiredText (some (args.requestId.getD args.fresh)) _ >>= _) = _
    rw [requiredText_ok.mpr ⟨_, rfl, haddr.request, rfl⟩]
    show (toWriteCandidates 1 candidates >>= _) = _
    rw [hws]
    exact hrequest
  · obtain ⟨userId, taskId, requestId, ws, -, -, -, hws, h⟩ := hparts request h
    obtain ⟨hsame, hnodup, -⟩ := validateRequest_ok h
    rw [hids ws hws] at hnodup
    rw [hsame]
    exact ⟨hids ws hws, hnodup⟩

/-! ### the response -/

/-- A reply of the service that echoes the request and answers each of its candidates once. -/
structure AnswersOnce (request : WriteRequestV1) (body : WriteResponseV1) : Prop where
  valid : body.Valid
  echo : body.requestId = request.requestId ∧ body.projectId = request.projectId ∧
    body.userId = request.userId ∧ body.sessionId = request.sessionId
  once : (body.results.map (·.candidateId)).Perm (request.candidates.map (·.candidateId))
  stored : ∀ r ∈ body.results, r.status = .written → blank r.memoryId = false

theorem verifyWriteCorrelation_ok {parsed : WriteResponseV1} {request : WriteRequestV1}
    (hvalid : parsed.Valid) (hids : (request.candidates.map (·.candidateId)).Nodup) :
    RemoteMemoryClient.verifyWriteCorrelation parsed request = .ok () ↔ AnswersOnce request parsed := by
  unfold RemoteMemoryClient.verifyWriteCorrelation
  simp only [bind_eq_ok, raiseIf_eq_ok, not_not, distinct_iff, setEq_iff, not_exists, not_and,
    Bool.not_eq_true]
  constructor
  · rintro ⟨_, hrequest, _, hproject, _, huser, _, hsession, _, hlen, _, hnodup, _, hset, _, hstored, _⟩
    refine ⟨hvalid, ⟨hrequest, hproject, huser, hsession⟩, ?_, hstored⟩
    exact (List.perm_ext_iff_of_nodup hnodup hids).mpr hset
  · intro h
    obtain ⟨hrequest, hproject, huser, hsession⟩ := h.echo
    have hnodup := h.once.nodup_iff.mpr hids
    refine ⟨(), hrequest, (), hproject, (), huser, (), hsession, (), h.once.length_eq, (), hnodup, (), ?_,
      (), h.stored, fun r hr hstatus => (hvalid.1 r hr).2.2 hstatus⟩
    exact fun id => h.once.mem_iff

theorem toWriteResponse_count (parsed : WriteResponseV1) :
    (RemoteMemoryClient.toWriteResponse parsed).writtenIds.length +
      (RemoteMemoryClient.toWriteResponse parsed).skipped.length = parsed.results.length := by
  unfold RemoteMemoryClient.toWriteResponse
  dsimp only
  rw [List.length_map, List.length_map]
  have hsplit := List.length_eq_length_filter_add (l := parsed.results) fun r => decide (r.status = .written)
  rw [hsplit]
  congr 2
  refine List.filter_congr fun r _ => ?_
  cases r.status <;> rfl

/-- The reply carries a body that answers each candidate of the request once, under a success status. -/
def ReplyAnswers (request : WriteRequestV1) (reply : ServiceReply) : Prop :=
  ∃ code body errorCode, reply = .status code (some body) errorCode ∧ code < 400 ∧ AnswersOnce request body

/-- A reply is accepted exactly when it answers each candidate once; the response then has as many
entries as the request has candidates. -/
theorem receive_accounts {request : WriteRequestV1} (hids : (request.candidates.map (·.candidateId)).Nodup)
    (reply : ServiceReply) :
    ((∃ response, RemoteMemoryClient.receive request reply = .ok response) ↔ ReplyAnswers request reply) ∧
      ∀ response, RemoteMemoryClient.receive request reply = .ok response →
        response.writtenIds.length + response.skipped.length = request.candidates.length := by
  cases reply with
  | unreachable =>
    refine ⟨⟨fun ⟨_, h⟩ => absurd h (by simp [RemoteMemoryClient.receive]), fun ⟨_, _, _, h, _⟩ => absurd h (by simp)⟩,
      fun _ h => absurd h (by simp [RemoteMemoryClient.receive])⟩
  | status code body errorCode =>
    by_cases hcode : code < 400
    · have hsuccess : RemoteMemoryClient.receive request (.status code body errorCode) =
          RemoteMemoryClient.readResponse request body := by
        unfold RemoteMemoryClient.receive
        dsimp only
        rw [if_neg (by omega), if_neg (by omega)]
      rw [hsuccess]
      unfold RemoteMemoryClient.readResponse
      cases hbody : body.filter fun b => b.Valid with
      | none =>
        refine ⟨⟨fun ⟨_, h⟩ => absurd h (by simp), fun ⟨_, b, _, h, _, hb⟩ => ?_⟩, fun _ h => absurd h (by simp)⟩
        obtain ⟨-, hsome, -⟩ := ServiceReply.status.inj h
        rw [hsome, Option.filter_eq_none_iff] at hbody
        exact absurd (decide_eq_true hb.valid) (hbody b rfl)
      | some parsed =>
        obtain ⟨hsome, hvalid⟩ := Option.filter_eq_some_iff.mp hbody
        have hverify := verifyWriteCorrelation_ok (of_decide_eq_true hvalid) hids
        dsimp only
        refine ⟨⟨fun ⟨response, h⟩ => ?_, fun ⟨_, b, _, h, _, hb⟩ => ?_⟩, fun response h => ?_⟩
        · obtain ⟨_, hv, -⟩ := bind_eq_ok.mp h
          exact ⟨code, parsed, errorCode, by rw [hsome], hcode, hverify.mp hv⟩
        · obtain ⟨-, hsome', -⟩ := ServiceReply.status.inj h
          rw [hsome] at hsome'
          rw [← Option.some.inj hsome'] at hb
          rw [hverify.mpr hb]
          exact ⟨_, rfl⟩
        · obtain ⟨_, hv, hr⟩ := bind_eq_ok.mp h
          have honce := (hverify.mp hv).once.length_eq
          rw [List.length_map, List.length_map] at honce
          rw [← Except.ok.inj hr, toWriteResponse_count, honce]
    · have herror : ∃ e, RemoteMemoryClient.receive request (.status code body errorCode) = .error e := by
        unfold RemoteMemoryClient.receive
        dsimp only
        by_cases h500 : code ≥ 500
        · exact ⟨_, if_pos h500⟩
        · rw [if_neg h500, if_pos (by omega)]
          exact ⟨_, rfl⟩
      obtain ⟨e, he⟩ := herror
      rw [he]
      refine ⟨⟨fun ⟨_, h⟩ => absurd h (by simp), fun ⟨c, _, _, h, hc, _⟩ => ?_⟩, fun _ h => absurd h (by simp)⟩
      rw [(ServiceReply.status.inj h).1] at hcode
      exact absurd hc hcode

/-! ### the whole write -/

/-- The write of the candidates is accounted for: a valid request with an id for each candidate is
built, every service that answers each of them once is accepted, and whatever is accepted has one
result and one entry for each. -/
structure Accounts (client : RemoteMemoryClient) (args : WriteArgs) (candidates : List MemoryCandidate) :
    Prop where
  built : ∃ request, client.buildRequest args candidates = .ok request ∧
    request.candidates.length = candidates.length ∧ (request.candidates.map (·.candidateId)).Nodup ∧
    ∀ service, ReplyAnswers request (service request) →
      ∃ response, client.writeMemoryCandidates service args candidates = .ok response
  accepted : ∀ service response, client.writeMemoryCandidates service args candidates = .ok response →
    ∃ request, client.buildRequest args candidates = .ok request ∧ ReplyAnswers request (service request) ∧
      response.writtenIds.length + response.skipped.length = candidates.length

/-- For every list of candidates that may be written: the write is accounted for exactly when it is
addressed, the weights are in range, and no generated id meets an explicit one. -/
theorem accounts_iff (client : RemoteMemoryClient) (args : WriteArgs) (candidates : List MemoryCandidate)
    (hw : Writable candidates) :
    Accounts client args candidates ↔
      Addressed args ∧ (∀ c ∈ candidates, InRange c) ∧ NoClash 1 candidates := by
  obtain ⟨hok, hids⟩ := buildRequest_ok_iff client args hw
  have hne : candidates ≠ [] := by
    intro h
    have hcount := hw.count.1
    rw [h] at hcount
    exact absurd hcount (Nat.not_succ_le_zero 0)
  have hwrite : ∀ service, client.writeMemoryCandidates service args candidates =
      (client.buildRequest args candidates >>= fun request =>
        RemoteMemoryClient.receive request (service request)) := fun _ => if_neg hne
  have hlength : ∀ request, client.buildRequest args candidates = .ok request →
      request.candidates.length = candidates.length := by
    intro request h
    rw [← List.length_map (f := fun w : WriteCandidateV1 => w.candidateId), (hids request h).1,
      length_assignedIds]
  have hnodup : ∀ request, client.buildRequest args candidates = .ok request →
      (request.candidates.map (·.candidateId)).Nodup := by
    intro request h
    rw [(hids request h).1]
    exact (hids request h).2
  rw [← hok]
  constructor
  · intro h
    obtain ⟨request, hrequest, -⟩ := h.built
    exact ⟨request, hrequest⟩
  · intro ⟨request, hrequest⟩
    have hreceive := fun service : WriteRequestV1 → ServiceReply => receive_accounts (hnodup request hrequest) (service request)
    refine ⟨⟨request, hrequest, hlength request hrequest, hnodup request hrequest, fun service hs => ?_⟩,
      fun service response h => ?_⟩
    · rw [hwrite, hrequest]
      exact (hreceive service).1.mpr hs
    · rw [hwrite, hrequest] at h
      refine ⟨request, hrequest, (hreceive service).1.mp ⟨response, h⟩, ?_⟩
      rw [(hreceive service).2 response h]
      exact hlength request hrequest

/-! ### an explicit id that is generated again -/

theorem plainProject_nonblank : blank [112] = false := rfl

theorem plainUser_nonblank : blank [117] = false := rfl

def plainClient : RemoteMemoryClient := ⟨[112], [117], plainProject_nonblank, plainUser_nonblank⟩

def plainArgs : WriteArgs where
  taskId := some [116]
  fresh := [114]

def plainCandidate (metadata : List (PyVal × PyVal)) : MemoryCandidate where
  type := .fact
  content := [99]
  evidenceRef := some [101]
  metadata := metadata

/-- The first candidate is called `cand-0002`, the second is not named. -/
def clashing : List MemoryCandidate :=
  [plainCandidate [(.str (py "candidate_id"), .str (py "cand-0002"))], plainCandidate []]

theorem plain_explicitId : explicitId (plainCandidate []) = none := rfl

theorem named_explicitId {id : PyStr} (hid : strip id = id) (hgiven : blank id = false) :
    explicitId (plainCandidate [(.str (py "candidate_id"), .str id)]) = some id := by
  have hkept : (some id).filter (fun id => !blank id) = some id :=
    Option.filter_some_pos (by rw [hgiven, Bool.not_false])
  unfold explicitId metadataGet plainCandidate
  dsimp only
  rw [List.find?_cons_of_pos (by simp [PyVal.asStr])]
  show ((some id).filter _).map strip = _
  rw [hkept, Option.map_some, hid]

theorem pair_writable {metadata : List (PyVal × PyVal)} {id : PyStr}
    (h : explicitId (plainCandidate metadata) = some id) : Writable [plainCandidate metadata, plainCandidate []] where
  count := ⟨Nat.le_add_left 1 1, by simp⟩
  types c hc := by
    rcases List.mem_cons.mp hc with rfl | hc
    · rfl
    · rw [List.mem_singleton.mp hc]
      rfl
  contents c hc := by
    rcases List.mem_cons.mp hc with rfl | hc
    · rfl
    · rw [List.mem_singleton.mp hc]
      rfl
  evidence c hc := by
    rcases List.mem_cons.mp hc with rfl | hc
    · exact ⟨[101], rfl, rfl⟩
    · rw [List.mem_singleton.mp hc]
      exact ⟨[101], rfl, rfl⟩
  ids := by
    rw [List.filterMap_cons_some h, List.filterMap_cons_none plain_explicitId]
    exact List.nodup_singleton _

theorem clashing_explicitId :
    explicitId (plainCandidate [(.str (py "candidate_id"), .str (py "cand-0002"))]) = some (py "cand-0002") := by
  refine named_explicitId ?_ ?_
  · rw [py_ofList]
    rfl
  · rw [py_ofList]
    rfl

theorem clashing_writable : Writable clashing := pair_writable clashing_explicitId

/-- Two candidates that may be written, whose write builds no request. -/
theorem clashing_not_accounted : Writable clashing ∧ ¬ Accounts plainClient plainArgs clashing := by
  refine ⟨clashing_writable, fun h => ?_⟩
  obtain ⟨request, hrequest, -⟩ := h.built
  obtain ⟨-, -, hclash⟩ := (buildRequest_ok_iff plainClient plainArgs clashing_writable).1.mp ⟨request, hrequest⟩
  refine hclash (plainCandidate [], 2) ?_ plain_explicitId _ List.mem_cons_self ?_
  · exact List.mem_cons_of_mem _ List.mem_cons_self
  · rw [clashing_explicitId]
    unfold generatedId
    rw [py_ofList, py_ofList]
    rfl

/-- The first candidate is called `m`, the second is not named. -/
def unlike : List MemoryCandidate := [plainCandidate [(.str (py "candidate_id"), .str [109])], plainCandidate []]

theorem unlike_explicitId : explicitId (plainCandidate [(.str (py "candidate_id"), .str [109])]) = some [109] :=
  named_explicitId rfl rfl

/-- An id that is never generated, beside a candidate that gets one. -/
theorem unlike_accounted : Accounts plainClient plainArgs unlike := by
  refine (accounts_iff plainClient plainArgs unlike (pair_writable unlike_explicitId)).mpr ⟨?_, ?_, ?_⟩
  · exact ⟨fun u hu => absurd hu (by simp [plainArgs]), fun s hs => absurd hs (by simp [plainArgs]),
      ⟨[116], rfl, rfl⟩, rfl⟩
  · intro c hc
    rcases List.mem_cons.mp hc with rfl | hc
    · exact ⟨rfl, rfl, List.forall_mem_singleton.mpr rfl⟩
    · rw [List.mem_singleton.mp hc]
      exact ⟨rfl, rfl, fun kv hkv => absurd hkv List.not_mem_nil⟩
  · intro x hx hnone c hc
    have hgenerated : ∀ n, generatedId n ≠ [109] := fun n h => by
      unfold generatedId at h
      rw [py_ofList] at h
      exact absurd (List.cons.inj h).1 (by decide)
    rcases List.mem_cons.mp hc with rfl | hc
    · rw [unlike_explicitId]
      exact fun h => hgenerated _ (Option.some.inj h).symm
    · rw [List.mem_singleton.mp hc, plain_explicitId]
      exact (Option.some_ne_none _).symm

end Tomtit
