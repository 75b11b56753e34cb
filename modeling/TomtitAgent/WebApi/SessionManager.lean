import TomtitAgent.Memory.Records
import TomtitAgent.Python.Dict
import TomtitAgent.Python.Reachable

/-!
# `session_manager.py`: the transcripts of web sessions

`send_chat` appends the message of the user, awaits the adapter, and appends the answer.  Between
the two the event loop may run other requests, and the adapter may raise.

* `InMemoryWebStore`, `appendMessage`     `stores.py`;
* `createSession`, `sendChat`, `resumeChat`   the manager, `send_chat` cut in two at its `await`;
* `ChatSystem`, `ChatAction`   the manager, the requests that await their adapter and those that
                               returned; a request arrives, is answered or fails;
* `Paired`                     a transcript is made of one pair for each completed request;
* `Calm`                       what an action must meet for that;
* `paired_of_run`              in calm runs every session without a request in flight is paired.
-/

open Py

namespace Tomtit

structure MessageRecord where
  id : PyStr
  role : PyStr
  content : PyStr
  createdAt : Time
  provenance : List PyVal := []
  sources : List PyVal := []
  status : Option PyStr := none

structure WebSession where
  sessionId : PyStr
  userId : PyStr
  projectId : PyStr
  title : Option PyStr
  createdAt : Time
  updatedAt : Time
  messages : List MessageRecord := []

structure RuntimeChatResult where
  content : PyStr
  status : PyStr
  provenance : List PyVal := []
  sources : List PyVal := []
  runId : Option PyStr := none

structure ChatRequest where
  sessionId : PyStr
  userId : PyStr
  projectId : PyStr
  message : PyStr

structure ChatResponse where
  sessionId : PyStr
  assistantMessage : MessageRecord

def webSessionNotFoundError (sessionId : PyStr) : PyExc :=
  ⟨["WebSessionNotFoundError"], py "Session not found: " ++ sessionId⟩

def projectIdMismatchError (sessionId : PyStr) : PyExc :=
  ⟨["ProjectIdMismatchError"],
    py "Request project_id does not match session project_id for session " ++ sessionId⟩

def projectIdRejectedError : PyExc :=
  ⟨["ProjectIdRejectedError"],
    py "Requested project_id is not accepted by the runtime configuration"⟩

/-! ### the store -/

abbrev InMemoryWebStore := Dict PyStr WebSession

/-- `append_message`; `now` is the second reading of the clock. -/
def InMemoryWebStore.appendMessage (store : InMemoryWebStore) (sessionId : PyStr)
    (message : MessageRecord) (now : Time) : Except PyExc InMemoryWebStore :=
  match store.get? sessionId with
  | none => .error (keyError (py "'Session not found: " ++ sessionId ++ py "'"))
  | some session =>
    .ok (store.set sessionId { session with messages := session.messages ++ [message], updatedAt := now })

/-! ### the manager -/

structure SessionManager where
  configuredProjectId : Option PyStr
  webStore : InMemoryWebStore
  /-- the sessions that have a `RuntimeAdapter` -/
  adapters : List PyStr

/-- What a call reads from outside: an identifier of `uuid4`, and the clock. -/
structure Stamp where
  id : PyStr
  now : Nat → Time

/-- `RuntimeAdapter(...)` with `user_id or None`: what `SessionRuntime.__init__` asks of a user. -/
def runtimeAdapter (userId : PyStr) : Except PyExc Unit :=
  raiseIf (userId ≠ [] ∧ strip userId = []) (valueError (py "user_id must be None or a nonblank string"))

namespace SessionManager

/-- `create_session`; `uuid4` gives no identifier twice.  The session is stored before its adapter is made. -/
def createSession (st : Stamp) (userId projectId : PyStr) (title : Option PyStr)
    (m : SessionManager) : Except PyExc PyStr × SessionManager :=
  if m.configuredProjectId.isSome ∧ m.configuredProjectId ≠ some projectId then
    (.error projectIdRejectedError, m)
  else
    let session : WebSession := ⟨st.id, userId, projectId, title, st.now 0, st.now 0, []⟩
    let stored := { m with webStore := m.webStore.set st.id session }
    match runtimeAdapter userId with
    | .error e => (.error e, stored)
    | .ok _ => (.ok st.id, { stored with adapters := st.id :: m.adapters })

/-- `send_chat` up to its `await`. -/
def sendChat (st : Stamp) (r : ChatRequest) (m : SessionManager) :
    Except PyExc Unit × SessionManager :=
  match m.webStore.get? r.sessionId with
  | none => (.error (webSessionNotFoundError r.sessionId), m)
  | some session =>
    if r.sessionId ∉ m.adapters then (.error (webSessionNotFoundError r.sessionId), m)
    else if r.projectId ≠ session.projectId then (.error (projectIdMismatchError r.sessionId), m)
    else match m.webStore.appendMessage r.sessionId ⟨st.id, py "user", r.message, st.now 0, [], [], none⟩
        (st.now 1) with
      | .error e => (.error e, m)
      | .ok store => (.ok (), { m with webStore := store })

/-- `send_chat` from the result of its `await` on. -/
def resumeChat (st : Stamp) (r : ChatRequest) (result : RuntimeChatResult) (m : SessionManager) :
    Except PyExc ChatResponse × SessionManager :=
  let message : MessageRecord := ⟨st.id, py "assistant", result.content, st.now 0, result.provenance,
    result.sources, some result.status⟩
  match m.webStore.appendMessage r.sessionId message (st.now 1) with
  | .error e => (.error e, m)
  | .ok store => (.ok ⟨r.sessionId, message⟩, { m with webStore := store })

end SessionManager

/-! ### requests in flight -/

structure ChatSystem where
  manager : SessionManager
  /-- the requests that await their adapter -/
  pending : Dict Nat ChatRequest
  /-- the number of the next request -/
  next : Nat
  /-- the requests that returned, each with the result of its adapter -/
  completed : List (ChatRequest × RuntimeChatResult)

inductive ChatAction
  | create (st : Stamp) (userId projectId : PyStr) (title : Option PyStr)
  | receive (st : Stamp) (r : ChatRequest)
  /-- the adapter of the request returned -/
  | answer (st : Stamp) (request : Nat) (result : RuntimeChatResult)
  /-- the adapter of the request raised, or the request was cancelled -/
  | fail (request : Nat)

namespace ChatSystem

def start (configuredProjectId : Option PyStr) : ChatSystem :=
  ⟨⟨configuredProjectId, Dict.empty, []⟩, Dict.empty, 0, []⟩

def step (a : ChatAction) (s : ChatSystem) : ChatSystem :=
  match a with
  | .create st userId projectId title =>
    if st.id ∈ s.manager.webStore.keys then s
    else { s with manager := (s.manager.createSession st userId projectId title).2 }
  | .receive st r => match s.manager.sendChat st r with
    | (.error _, m) => { s with manager := m }
    | (.ok _, m) => { s with manager := m, pending := s.pending.set s.next r, next := s.next + 1 }
  | .answer st request result => match s.pending.get? request with
    | none => s
    | some r => match s.manager.resumeChat st r result with
      | (.error _, m) => { s with manager := m, pending := s.pending.erase request }
      | (.ok _, m) => { s with manager := m, pending := s.pending.erase request,
                               completed := s.completed ++ [(r, result)] }
  | .fail request => { s with pending := s.pending.erase request }

def pendingOf (s : ChatSystem) (sessionId : PyStr) : List ChatRequest :=
  (s.pending.items.filter fun kv => kv.2.sessionId = sessionId).map Prod.snd

def completedOf (s : ChatSystem) (sessionId : PyStr) : List (ChatRequest × RuntimeChatResult) :=
  s.completed.filter fun c => c.1.sessionId = sessionId

end ChatSystem

def MessageRecord.view (m : MessageRecord) : PyStr × PyStr := (m.role, m.content)

def userView (r : ChatRequest) : PyStr × PyStr := (py "user", r.message)

def pairOf (c : ChatRequest × RuntimeChatResult) : List (PyStr × PyStr) :=
  [userView c.1, (py "assistant", c.2.content)]

/-- The transcript of the session is one pair for each completed request, in some order. -/
def Paired (s : ChatSystem) (sessionId : PyStr) : Prop :=
  ∀ session, s.manager.webStore.get? sessionId = some session →
    ∃ pairs : List (ChatRequest × RuntimeChatResult), pairs.Perm (s.completedOf sessionId) ∧
      session.messages.map MessageRecord.view = pairs.flatMap pairOf

/-- A request arrives only while its session has none in flight, and no adapter fails. -/
def Calm : ChatAction → ChatSystem → Prop
  | .create .., _ => True
  | .receive st r, s => (∃ u, (s.manager.sendChat st r).1 = .ok u) → s.pendingOf r.sessionId = []
  | .answer .., _ => True
  | .fail request, s => s.pending.get? request = none

/-! ### the effect of the operations -/

/-- The sessions of `m'` are those of `m`, with `message` at the end of one transcript. -/
structure Appended (sessionId : PyStr) (view : PyStr × PyStr) (m m' : SessionManager) : Prop where
  known : ∃ session, m.webStore.get? sessionId = some session
  appended : ∀ sid session', m'.webStore.get? sid = some session' →
    ∃ session, m.webStore.get? sid = some session ∧ session'.messages.map MessageRecord.view =
      session.messages.map MessageRecord.view ++ if sid = sessionId then [view] else []
  unknown : ∀ sid, m'.webStore.get? sid = none → m.webStore.get? sid = none

theorem appendMessage_ok {m : SessionManager} {sid : PyStr} {message : MessageRecord} {now : Time}
    {store : InMemoryWebStore} (h : m.webStore.appendMessage sid message now = .ok store) :
    Appended sid message.view m { m with webStore := store } := by
  unfold InMemoryWebStore.appendMessage at h
  cases hs : m.webStore.get? sid with
  | none =>
    rw [hs] at h
    cases h
  | some session =>
    rw [hs] at h
    obtain rfl := Except.ok.inj h
    refine ⟨⟨session, hs⟩, fun sid' session' h' => ?_, fun sid' h' => ?_⟩
    · rw [Dict.get?_set] at h'
      by_cases he : sid' = sid
      · rw [if_pos he] at h'
        refine ⟨session, he ▸ hs, ?_⟩
        rw [← Option.some.inj h', if_pos he, List.map_append, List.map_singleton]
      · rw [if_neg he] at h'
        exact ⟨session', h', by rw [if_neg he, List.append_nil]⟩
    · rw [Dict.get?_set] at h'
      by_cases he : sid' = sid
      · rw [if_pos he] at h'
        cases h'
      · rw [if_neg he] at h'
        exact h'

theorem sendChat_error {st : Stamp} {r : ChatRequest} {m m' : SessionManager} {e : PyExc}
    (h : m.sendChat st r = (.error e, m')) : m' = m := by
  unfold SessionManager.sendChat at h
  cases hs : m.webStore.get? r.sessionId with
  | none =>
    rw [hs] at h
    exact (Prod.mk.inj h).2.symm
  | some session =>
    rw [hs] at h
    dsimp only at h
    by_cases ha : r.sessionId ∉ m.adapters
    · rw [if_pos ha] at h
      exact (Prod.mk.inj h).2.symm
    rw [if_neg ha] at h
    by_cases hp : r.projectId ≠ session.projectId
    · rw [if_pos hp] at h
      exact (Prod.mk.inj h).2.symm
    rw [if_neg hp] at h
    split at h
    · exact (Prod.mk.inj h).2.symm
    · cases (Prod.mk.inj h).1

theorem sendChat_ok {st : Stamp} {r : ChatRequest} {m m' : SessionManager} {u : Unit}
    (h : m.sendChat st r = (.ok u, m')) : Appended r.sessionId (userView r) m m' := by
  unfold SessionManager.sendChat at h
  cases hs : m.webStore.get? r.sessionId with
  | none =>
    rw [hs] at h
    cases (Prod.mk.inj h).1
  | some session =>
    rw [hs] at h
    dsimp only at h
    by_cases ha : r.sessionId ∉ m.adapters
    · rw [if_pos ha] at h
      cases (Prod.mk.inj h).1
    rw [if_neg ha] at h
    by_cases hp : r.projectId ≠ session.projectId
    · rw [if_pos hp] at h
      cases (Prod.mk.inj h).1
    rw [if_neg hp] at h
    split at h
    · cases (Prod.mk.inj h).1
    · next store happ =>
      rw [← (Prod.mk.inj h).2]
      exact appendMessage_ok happ

theorem resumeChat_ok {st : Stamp} {r : ChatRequest} {result : RuntimeChatResult}
    {m m' : SessionManager} {response : ChatResponse}
    (h : m.resumeChat st r result = (.ok response, m')) :
    Appended r.sessionId (py "assistant", result.content) m m' := by
  unfold SessionManager.resumeChat at h
  dsimp only at h
  split at h
  · cases (Prod.mk.inj h).1
  · next store happ =>
    rw [← (Prod.mk.inj h).2]
    exact appendMessage_ok happ

theorem resumeChat_error {st : Stamp} {r : ChatRequest} {result : RuntimeChatResult}
    {m m' : SessionManager} {e : PyExc} (h : m.resumeChat st r result = (.error e, m')) :
    m.webStore.get? r.sessionId = none := by
  unfold SessionManager.resumeChat InMemoryWebStore.appendMessage at h
  dsimp only at h
  cases hs : m.webStore.get? r.sessionId with
  | none => rfl
  | some session =>
    rw [hs] at h
    cases (Prod.mk.inj h).1

/-! ### the invariant -/

/-- Every session has at most one request in flight, whose message ends the transcript behind the
pairs of the completed requests. -/
structure Sequential (s : ChatSystem) : Prop where
  one : ∀ sid, (s.pendingOf sid).length ≤ 1
  transcript : ∀ sid session, s.manager.webStore.get? sid = some session →
    session.messages.map MessageRecord.view =
      (s.completedOf sid).flatMap pairOf ++ (s.pendingOf sid).map userView
  known : ∀ r ∈ s.pending.values, ∃ session, s.manager.webStore.get? r.sessionId = some session
  fresh : ∀ sid, s.manager.webStore.get? sid = none → s.completedOf sid = []
  numbers : ∀ n ∈ s.pending.keys, n < s.next

theorem sequential_start (project : Option PyStr) : Sequential (ChatSystem.start project) where
  one _ := Nat.zero_le 1
  transcript _ _ h := by cases h
  known _ h := absurd h List.not_mem_nil
  fresh _ _ := rfl
  numbers _ h := absurd h List.not_mem_nil

theorem pendingOf_nil {s : ChatSystem} (h : Sequential s) {sid : PyStr}
    (hs : s.manager.webStore.get? sid = none) : s.pendingOf sid = [] := by
  unfold ChatSystem.pendingOf
  rw [List.map_eq_nil_iff, List.filter_eq_nil_iff]
  intro kv hkv he
  obtain ⟨session, hsession⟩ := h.known kv.2 (List.mem_map_of_mem hkv)
  rw [of_decide_eq_true he, hs] at hsession
  cases hsession

theorem pendingOf_erase {s : ChatSystem} {request : Nat} {r : ChatRequest}
    (hr : s.pending.get? request = some r) {sid : PyStr} (hne : sid ≠ r.sessionId) (m : SessionManager)
    (done : List (ChatRequest × RuntimeChatResult)) :
    ChatSystem.pendingOf ⟨m, s.pending.erase request, s.next, done⟩ sid = s.pendingOf sid := by
  unfold ChatSystem.pendingOf Dict.erase
  dsimp only
  rw [List.filter_comm, List.filter_eq_self.mpr]
  intro kv hkv
  obtain ⟨hmem, hsid⟩ := List.mem_filter.mp hkv
  refine decide_eq_true fun he => hne ?_
  have hget : s.pending.get? request = some kv.2 := Dict.get?_eq_some.mpr (he ▸ hmem)
  rw [hr] at hget
  rw [Option.some.inj hget]
  exact (of_decide_eq_true hsid).symm

theorem pendingOf_eq {s : ChatSystem} (h : Sequential s) {request : Nat} {r : ChatRequest}
    (hr : s.pending.get? request = some r) : s.pendingOf r.sessionId = [r] ∧
      ∀ m done, ChatSystem.pendingOf ⟨m, s.pending.erase request, s.next, done⟩ r.sessionId = [] := by
  have hmem : (request, r) ∈ s.pending.items.filter fun kv => kv.2.sessionId = r.sessionId :=
    List.mem_filter.mpr ⟨Dict.get?_eq_some.mp hr, decide_eq_true rfl⟩
  have hlen := h.one r.sessionId
  unfold ChatSystem.pendingOf at hlen
  rw [List.length_map] at hlen
  have hfilter : (s.pending.items.filter fun kv => kv.2.sessionId = r.sessionId) = [(request, r)] := by
    generalize s.pending.items.filter (fun kv => kv.2.sessionId = r.sessionId) = kvs at hmem hlen
    cases kvs with
    | nil => exact absurd hmem List.not_mem_nil
    | cons kv kvs =>
      have hnil : kvs = [] := List.length_eq_zero_iff.mp (by rw [List.length_cons] at hlen; omega)
      rw [hnil, List.mem_singleton] at hmem
      rw [hnil, hmem]
  refine ⟨?_, fun m done => ?_⟩
  · unfold ChatSystem.pendingOf
    rw [hfilter]
    rfl
  · unfold ChatSystem.pendingOf Dict.erase
    dsimp only
    rw [List.filter_comm, hfilter]
    simp

/-! ### the steps -/

theorem sequential_stored {s : ChatSystem} (h : Sequential s) {id : PyStr} (hid : id ∉ s.manager.webStore.keys)
    {session : WebSession} (hmessages : session.messages = []) (adapters : List PyStr) :
    Sequential { s with manager := ⟨s.manager.configuredProjectId, s.manager.webStore.set id session, adapters⟩ } := by
  have hnone : s.manager.webStore.get? id = none := Dict.get?_eq_none.mpr hid
  have hget : ∀ sid session, (s.manager.webStore.set id session).get? sid =
      if sid = id then some session else s.manager.webStore.get? sid := fun sid session =>
    Dict.get?_set _ _ _ _
  refine ⟨h.one, fun sid session' hs => ?_, fun r hr => ?_, fun sid hs => ?_, h.numbers⟩
  · rw [hget] at hs
    by_cases he : sid = id
    · rw [if_pos he] at hs
      rw [← Option.some.inj hs, he, hmessages]
      show [] = (s.completedOf id).flatMap pairOf ++ (s.pendingOf id).map userView
      rw [h.fresh id hnone, pendingOf_nil h hnone]
      rfl
    · rw [if_neg he] at hs
      exact h.transcript sid session' hs
  · obtain ⟨old, hs⟩ := h.known r hr
    show ∃ session', (s.manager.webStore.set _ _).get? r.sessionId = some session'
    rw [hget]
    by_cases he : r.sessionId = id
    · exact ⟨_, if_pos he⟩
    · rw [if_neg he]
      exact ⟨old, hs⟩
  · rw [hget] at hs
    by_cases he : sid = id
    · rw [if_pos he] at hs
      cases hs
    · rw [if_neg he] at hs
      exact h.fresh sid hs

theorem sequential_create {s : ChatSystem} (h : Sequential s) (st : Stamp) (userId projectId : PyStr)
    (title : Option PyStr) : Sequential (s.step (.create st userId projectId title)) := by
  unfold ChatSystem.step
  dsimp only
  by_cases hid : st.id ∈ s.manager.webStore.keys
  · rw [if_pos hid]
    exact h
  rw [if_neg hid]
  unfold SessionManager.createSession
  by_cases hp : s.manager.configuredProjectId.isSome ∧ s.manager.configuredProjectId ≠ some projectId
  · rw [if_pos hp]
    exact h
  rw [if_neg hp]
  dsimp only
  -- the adapters do not matter here
  have hstored : ∀ adapters, Sequential { s with manager := ⟨s.manager.configuredProjectId,
      s.manager.webStore.set st.id ⟨st.id, userId, projectId, title, st.now 0, st.now 0, []⟩, adapters⟩ } :=
    sequential_stored h hid rfl
  cases runtimeAdapter userId with
  | error e => exact hstored _
  | ok u => exact hstored _

theorem sequential_receive {s : ChatSystem} (h : Sequential s) {st : Stamp} {r : ChatRequest}
    (hcalm : Calm (.receive st r) s) : Sequential (s.step (.receive st r)) := by
  unfold ChatSystem.step
  dsimp only
  cases hsend : s.manager.sendChat st r with
  | mk reply m =>
    cases reply with
    | error e =>
      rw [sendChat_error hsend]
      exact h
    | ok u =>
      have happ := sendChat_ok hsend
      have hidle : s.pendingOf r.sessionId = [] := hcalm ⟨u, by rw [hsend]⟩
      have hnew : s.next ∉ s.pending.keys := fun hmem => lt_irrefl _ (h.numbers _ hmem)
      have hitems : (s.pending.set s.next r).items = s.pending.items ++ [(s.next, r)] :=
        upsert_of_notMem hnew r
      have hpending : ∀ sid, ChatSystem.pendingOf ⟨m, s.pending.set s.next r, s.next + 1, s.completed⟩ sid
          = s.pendingOf sid ++ if r.sessionId = sid then [r] else [] := by
        intro sid
        unfold ChatSystem.pendingOf
        dsimp only
        rw [hitems, List.filter_append, List.map_append]
        congr 1
        by_cases he : r.sessionId = sid
        · simp [he]
        · simp [he]
      refine ⟨fun sid => ?_, fun sid session hs => ?_, fun r' hr' => ?_, fun sid hs => ?_, fun n hn => ?_⟩
      · show (ChatSystem.pendingOf ⟨m, _, _, _⟩ sid).length ≤ 1
        rw [hpending]
        by_cases he : r.sessionId = sid
        · rw [if_pos he, ← he, hidle]
          exact le_rfl
        · rw [if_neg he, List.append_nil]
          exact h.one sid
      · obtain ⟨old, hold, hview⟩ := happ.appended sid session hs
        show _ = (s.completedOf sid).flatMap pairOf ++ (ChatSystem.pendingOf ⟨m, _, _, _⟩ sid).map userView
        rw [hview, h.transcript sid old hold, hpending, List.map_append, List.append_assoc]
        by_cases he : r.sessionId = sid
        · rw [if_pos he, if_pos he.symm]
          rfl
        · rw [if_neg he, if_neg (Ne.symm he)]
          rfl
      · have hr' : r' ∈ (s.pending.set s.next r).items.map Prod.snd := hr'
        have hknown : ∃ session, s.manager.webStore.get? r'.sessionId = some session := by
          rw [hitems, List.map_append, List.mem_append] at hr'
          rcases hr' with hr' | hr'
          · exact h.known r' hr'
          · rw [List.mem_singleton.mp hr']
            exact happ.known
        refine Option.ne_none_iff_exists'.mp fun hnone => ?_
        obtain ⟨session, hsession⟩ := hknown
        rw [happ.unknown _ hnone] at hsession
        cases hsession
      · exact h.fresh sid (happ.unknown sid hs)
      · have hn : n ∈ (s.pending.set s.next r).items.map Prod.fst := hn
        show n < s.next + 1
        rw [hitems, List.map_append, List.mem_append] at hn
        rcases hn with hn | hn
        · have := h.numbers n hn
          omega
        · have : n = s.next := List.mem_singleton.mp hn
          omega

theorem sequential_answer {s : ChatSystem} (h : Sequential s) (st : Stamp) (request : Nat)
    (result : RuntimeChatResult) : Sequential (s.step (.answer st request result)) := by
  unfold ChatSystem.step
  dsimp only
  cases hr : s.pending.get? request with
  | none => exact h
  | some r =>
    dsimp only
    obtain ⟨session, hsession⟩ := h.known r (List.mem_map_of_mem (Dict.get?_eq_some.mp hr))
    cases hresume : s.manager.resumeChat st r result with
    | mk reply m =>
      cases reply with
      | error e =>
        rw [resumeChat_error hresume] at hsession
        cases hsession
      | ok response =>
        have happ := resumeChat_ok hresume
        obtain ⟨hflight, hlanded⟩ := pendingOf_eq h hr
        have hother := fun sid (hne : sid ≠ r.sessionId) =>
          pendingOf_erase hr hne m (s.completed ++ [(r, result)])
        have hdone : ∀ sid, (s.completed ++ [(r, result)]).filter (fun c => c.1.sessionId = sid)
            = s.completedOf sid ++ if r.sessionId = sid then [(r, result)] else [] := by
          intro sid
          rw [List.filter_append]
          unfold ChatSystem.completedOf
          congr 1
          by_cases he : r.sessionId = sid
          · simp [he]
          · simp [he]
        refine ⟨fun sid => ?_, fun sid session' hs => ?_, fun r' hr' => ?_, fun sid hs => ?_,
          fun n hn => ?_⟩
        · by_cases he : sid = r.sessionId
          · rw [he, hlanded]
            exact Nat.zero_le 1
          · rw [hother sid he]
            exact h.one sid
        · obtain ⟨old, hold, hview⟩ := happ.appended sid session' hs
          show _ = ((s.completed ++ [(r, result)]).filter fun c => c.1.sessionId = sid).flatMap pairOf ++ _
          rw [hview, h.transcript sid old hold, hdone]
          by_cases he : sid = r.sessionId
          · subst he
            rw [hlanded, hflight, if_pos rfl, if_pos rfl, List.flatMap_append]
            simp [pairOf]
          · rw [hother sid he, if_neg he, if_neg (Ne.symm he), List.append_nil, List.append_nil]
        · have hmem : r' ∈ s.pending.values := by
            obtain ⟨kv, hkv, rfl⟩ := List.mem_map.mp hr'
            exact List.mem_map_of_mem (List.mem_filter.mp hkv).1
          obtain ⟨old, hold⟩ := h.known r' hmem
          refine Option.ne_none_iff_exists'.mp fun hnone => ?_
          rw [happ.unknown _ hnone] at hold
          cases hold
        · have hnone := happ.unknown sid hs
          show (s.completed ++ [(r, result)]).filter _ = []
          rw [hdone, h.fresh sid hnone, if_neg]
          · rfl
          · rintro rfl
            rw [hnone] at hsession
            cases hsession
        · obtain ⟨kv, hkv, rfl⟩ := List.mem_map.mp hn
          exact h.numbers kv.1 (List.mem_map_of_mem (List.mem_filter.mp hkv).1)

theorem sequential_fail {s : ChatSystem} (h : Sequential s) {request : Nat}
    (hcalm : Calm (.fail request) s) : Sequential (s.step (.fail request)) := by
  have hitems : (s.pending.erase request).items = s.pending.items := by
    refine List.filter_eq_self.mpr fun kv hkv => decide_eq_true fun he => ?_
    exact Dict.get?_eq_none.mp hcalm (he ▸ List.mem_map_of_mem hkv)
  have herase : s.pending.erase request = s.pending := by
    cases hd : s.pending with
    | mk items nodup =>
      rw [hd] at hitems
      cases he : Dict.erase ⟨items, nodup⟩ request with
      | mk items' nodup' =>
        rw [he] at hitems
        cases hitems
        rfl
  unfold ChatSystem.step
  dsimp only
  rw [herase]
  exact h

theorem sequential_step (a : ChatAction) (s : ChatSystem) (hcalm : Calm a s) (h : Sequential s) :
    Sequential (s.step a) := by
  cases a with
  | create st userId projectId title => exact sequential_create h st userId projectId title
  | receive st r => exact sequential_receive h hcalm
  | answer st request result => exact sequential_answer h st request result
  | fail request => exact sequential_fail h hcalm

theorem sequential_of_run {project : Option PyStr} {s : ChatSystem}
    (h : Reachable (fun a s => ChatSystem.step a s) Calm (ChatSystem.start project) s) :
    Sequential s := h.invariant (sequential_start project) sequential_step

/-- **The transcripts of calm runs.**  A session without a request in flight holds one pair for each
completed request, and a request that is rejected changes nothing. -/
theorem paired_of_run (project : Option PyStr) (s : ChatSystem)
    (h : Reachable (fun a s => ChatSystem.step a s) Calm (ChatSystem.start project) s) :
    (∀ sid, s.pendingOf sid = [] → Paired s sid) ∧
    ∀ st r e, (s.manager.sendChat st r).1 = .error e →
      (s.step (.receive st r)).manager = s.manager := by
  have hseq := sequential_of_run h
  refine ⟨fun sid hidle session hs => ⟨s.completedOf sid, List.Perm.refl _, ?_⟩, fun st r e he => ?_⟩
  · rw [hseq.transcript sid session hs, hidle, List.map_nil, List.append_nil]
  · cases hsend : s.manager.sendChat st r with
    | mk reply m =>
      rw [hsend] at he
      subst he
      unfold ChatSystem.step
      dsimp only
      rw [hsend]
      exact sendChat_error hsend

/-! ### one session -/

def helloRequest : ChatRequest := ⟨py "s", py "u", py "p", py "hello"⟩

def oneSession : ChatSystem :=
  (ChatSystem.start none).step (.create ⟨py "s", fun _ => 0⟩ (py "u") (py "p") none)

def sent (s : ChatSystem) : ChatSystem := s.step (.receive ⟨py "m", fun _ => 0⟩ helloRequest)

def answered (request : Nat) (s : ChatSystem) : ChatSystem :=
  s.step (.answer ⟨py "m", fun _ => 0⟩ request { content := py "hi", status := py "completed" })

/-- Two requests to one session, the second before the first is answered. -/
def overlapping : ChatSystem := answered 1 (answered 0 (sent (sent oneSession)))

/-- One request after the other. -/
theorem paired_of_run_hello :
    Paired (answered 0 (sent oneSession)) (py "s") ∧
    ∀ st r e, ((answered 0 (sent oneSession)).manager.sendChat st r).1 = .error e →
      ((answered 0 (sent oneSession)).step (.receive st r)).manager =
        (answered 0 (sent oneSession)).manager := by
  have h : Reachable (fun a s => ChatSystem.step a s) Calm (ChatSystem.start none)
      (answered 0 (sent oneSession)) := by
    refine Reachable.next (Reachable.next (Reachable.next Reachable.start ?_) ?_) ?_
    · exact trivial
    · exact fun _ => rfl
    · exact trivial
  obtain ⟨h1, h2⟩ := paired_of_run none _ h
  exact ⟨h1 (py "s") rfl, h2⟩

theorem overlapping_not_paired : ¬ Paired overlapping (py "s") := by
  intro h
  have hsession : ∃ session, overlapping.manager.webStore.get? (py "s") = some session ∧
      session.messages.map MessageRecord.role =
        [py "user", py "user", py "assistant", py "assistant"] := ⟨_, rfl, rfl⟩
  obtain ⟨session, hs, hroles⟩ := hsession
  obtain ⟨pairs, hperm, hview⟩ := h session hs
  have hfirst : session.messages.map MessageRecord.role = pairs.flatMap fun _ =>
      [py "user", py "assistant"] := by
    have hmap := congrArg (List.map Prod.fst) hview
    rw [List.map_map, List.map_flatMap] at hmap
    exact hmap
  have hlen : pairs.length = 2 := hperm.length_eq
  obtain ⟨a, b, rfl⟩ := List.length_eq_two.mp hlen
  rw [hroles] at hfirst
  simp at hfirst

/-- In a run of arbitrary actions a session can be left unpaired. -/
theorem not_always_paired :
    ¬ ∀ s, Reachable (fun a s => ChatSystem.step a s) (fun _ _ => True) (ChatSystem.start none) s →
      ∀ sid, s.pendingOf sid = [] → Paired s sid := by
  intro h
  refine overlapping_not_paired (h overlapping ?_ (py "s") rfl)
  unfold overlapping answered sent oneSession
  refine Reachable.next (Reachable.next (Reachable.next (Reachable.next (Reachable.next
    Reachable.start ?_) ?_) ?_) ?_) ?_ <;> exact trivial

end Tomtit
