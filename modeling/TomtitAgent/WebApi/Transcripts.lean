import TomtitAgent.Python.Journal
import TomtitAgent.WebApi.SessionManager

/-!
# Web sessions under any interleaving

Requests of one session may overlap, and adapters may fail.

* `getMessages`, `recallMemory`   the other calls of the manager that read a session;
* `ChatSystem.said`      the message that an action appends, with its session;
* `step_create`, `step_receive`, `step_answer`   what an action does;
* `Settled`, `settled_step`   the invariant of all runs;
* `transcripts_of_run`   a transcript is what was said in its session, in order, and only grows;
* `isolated_of_run`      a request reaches an adapter exactly when it names the project of its session, and the
                         user of the session is not blank.
-/

open Py

namespace Tomtit

/-- The session of the request is there, and of the project that the request names. -/
def Belongs (m : SessionManager) (r : ChatRequest) : Prop :=
  ∃ session, m.webStore.get? r.sessionId = some session ∧ r.projectId = session.projectId

def userMessage (st : Stamp) (r : ChatRequest) : MessageRecord :=
  ⟨st.id, py "user", r.message, st.now 0, [], [], none⟩

def assistantMessage (st : Stamp) (result : RuntimeChatResult) : MessageRecord :=
  ⟨st.id, py "assistant", result.content, st.now 0, result.provenance, result.sources, some result.status⟩

namespace SessionManager

/-- `get_messages` -/
def getMessages (sessionId : PyStr) (m : SessionManager) : Except PyExc (List MessageRecord) :=
  match m.webStore.get? sessionId with
  | none => .error (webSessionNotFoundError sessionId)
  | some session => .ok session.messages

/-- `recall_memory` up to its `await` -/
def recallMemory (r : ChatRequest) (m : SessionManager) : Except PyExc Unit :=
  match m.webStore.get? r.sessionId with
  | none => .error (webSessionNotFoundError r.sessionId)
  | some session =>
    if r.sessionId ∉ m.adapters then .error (webSessionNotFoundError r.sessionId)
    else if r.projectId ≠ session.projectId then .error (projectIdMismatchError r.sessionId)
    else .ok ()

end SessionManager

namespace ChatSystem

def messagesOf (s : ChatSystem) (sessionId : PyStr) : Option (List MessageRecord) :=
  (s.manager.webStore.get? sessionId).map WebSession.messages

/-- A request that is accepted says its message, and a request in flight that is answered says the answer. -/
def said (a : ChatAction) (s : ChatSystem) : List (PyStr × MessageRecord) :=
  match a with
  | .receive st r => match (s.manager.sendChat st r).1 with
    | .ok _ => [(r.sessionId, userMessage st r)]
    | .error _ => []
  | .answer st request result => match s.pending.get? request with
    | some r => [(r.sessionId, assistantMessage st result)]
    | none => []
  | _ => []

def after (project : Option PyStr) (actions : List ChatAction) : ChatSystem := run step (start project) actions

def log (project : Option PyStr) (actions : List ChatAction) : List (PyStr × MessageRecord) :=
  journal step said (start project) actions

end ChatSystem

def MessageRecord.isAnswer (m : MessageRecord) : Bool := m.role = py "assistant"
def MessageRecord.isQuestion (m : MessageRecord) : Bool := m.role = py "user"

/-! ### the operations -/

def Grown (sessionId : PyStr) (message : MessageRecord) (m m' : SessionManager) : Prop :=
  ∃ session now, m.webStore.get? sessionId = some session ∧ m' = { m with
    webStore := m.webStore.set sessionId
      { session with messages := session.messages ++ [message], updatedAt := now } }

section
variable {m m' : SessionManager} {sid : PyStr} {message : MessageRecord}

theorem appendMessage_known {session : WebSession} (hs : m.webStore.get? sid = some session) (now : Time) :
    ∃ store, m.webStore.appendMessage sid message now = .ok store ∧
      Grown sid message m { m with webStore := store } := by
  refine ⟨_, ?_, session, now, hs, rfl⟩
  unfold InMemoryWebStore.appendMessage
  rw [hs]

theorem recallMemory_iff {r : ChatRequest} :
    m.recallMemory r = .ok () ↔ Belongs m r ∧ r.sessionId ∈ m.adapters := by
  unfold SessionManager.recallMemory Belongs
  cases hs : m.webStore.get? r.sessionId with
  | none => exact iff_of_false (by simp) fun h => absurd h.1.choose_spec.1 (by simp)
  | some session =>
    dsimp only
    by_cases ha : r.sessionId ∉ m.adapters
    · rw [if_pos ha]
      exact iff_of_false (by simp) fun h => ha h.2
    by_cases hp : r.projectId ≠ session.projectId
    · rw [if_neg ha, if_pos hp]
      refine iff_of_false (by simp) fun h => hp ?_
      obtain ⟨session', h1, h2⟩ := h.1
      rw [h2, Option.some.inj h1]
    · rw [if_neg ha, if_neg hp]
      exact iff_of_true rfl ⟨⟨session, rfl, not_not.mp hp⟩, not_not.mp ha⟩

theorem sendChat_cases (st : Stamp) (r : ChatRequest) (m : SessionManager) :
    (¬ (Belongs m r ∧ r.sessionId ∈ m.adapters) ∧ ∃ e, m.sendChat st r = (.error e, m)) ∨
      (Belongs m r ∧ r.sessionId ∈ m.adapters) ∧
        ∃ m', m.sendChat st r = (.ok (), m') ∧ Grown r.sessionId (userMessage st r) m m' := by
  unfold SessionManager.sendChat Belongs
  cases hs : m.webStore.get? r.sessionId with
  | none => exact .inl ⟨fun h => absurd h.1.choose_spec.1 (by simp), _, rfl⟩
  | some session =>
    dsimp only
    by_cases ha : r.sessionId ∉ m.adapters
    · rw [if_pos ha]
      exact .inl ⟨fun h => ha h.2, _, rfl⟩
    by_cases hp : r.projectId ≠ session.projectId
    · rw [if_neg ha, if_pos hp]
      refine .inl ⟨fun h => hp ?_, _, rfl⟩
      obtain ⟨session', h1, h2⟩ := h.1
      rw [h2, Option.some.inj h1]
    · rw [if_neg ha, if_neg hp]
      obtain ⟨store, hstore, hgrown⟩ := @appendMessage_known m r.sessionId (userMessage st r) session hs (st.now 1)
      refine .inr ⟨⟨⟨session, rfl, not_not.mp hp⟩, not_not.mp ha⟩, _, ?_, hgrown⟩
      rw [show m.webStore.appendMessage r.sessionId ⟨st.id, py "user", r.message, st.now 0, [], [], none⟩
        (st.now 1) = .ok store from hstore]

theorem resumeChat_known {r : ChatRequest} {session : WebSession} (hs : m.webStore.get? r.sessionId = some session)
    (st : Stamp) (result : RuntimeChatResult) :
    ∃ response m', m.resumeChat st r result = (.ok response, m') ∧
      Grown r.sessionId (assistantMessage st result) m m' := by
  obtain ⟨store, hstore, hgrown⟩ :=
    @appendMessage_known m r.sessionId (assistantMessage st result) session hs (st.now 1)
  refine ⟨⟨r.sessionId, assistantMessage st result⟩, _, ?_, hgrown⟩
  unfold SessionManager.resumeChat
  dsimp only
  rw [show m.webStore.appendMessage r.sessionId ⟨st.id, py "assistant", result.content, st.now 0,
    result.provenance, result.sources, some result.status⟩ (st.now 1) = .ok store from hstore]
  rfl

/-! ### what a longer transcript leaves as it is -/

theorem Grown.get? (h : Grown sid message m m') (k : PyStr) :
    ∃ session now, m.webStore.get? sid = some session ∧ m'.webStore.get? k =
      if k = sid then some { session with messages := session.messages ++ [message], updatedAt := now }
      else m.webStore.get? k := by
  obtain ⟨session, now, hs, rfl⟩ := h
  exact ⟨session, now, hs, Dict.get?_set _ _ _ _⟩

theorem Grown.kept (h : Grown sid message m m') :
    m'.configuredProjectId = m.configuredProjectId ∧ m'.adapters = m.adapters := by
  obtain ⟨session, now, hs, rfl⟩ := h
  exact ⟨rfl, rfl⟩

def ownerOf (m : SessionManager) (k : PyStr) : Option (PyStr × PyStr) :=
  (m.webStore.get? k).map fun session => (session.userId, session.projectId)

theorem Grown.owner (h : Grown sid message m m') (k : PyStr) : ownerOf m' k = ownerOf m k := by
  obtain ⟨session, now, hs, hget⟩ := h.get? k
  unfold ownerOf
  rw [hget]
  by_cases hk : k = sid
  · rw [if_pos hk, hk, hs]
    rfl
  · rw [if_neg hk]

theorem belongs_iff {r : ChatRequest} : Belongs m r ↔ ∃ user, ownerOf m r.sessionId = some (user, r.projectId) := by
  unfold Belongs ownerOf
  constructor
  · rintro ⟨session, hs, hp⟩
    exact ⟨session.userId, by rw [hs, hp]; rfl⟩
  · rintro ⟨user, h⟩
    obtain ⟨session, hs, he⟩ := Option.map_eq_some_iff.mp h
    exact ⟨session, hs, (Prod.mk.inj he).2.symm⟩

theorem Grown.belongs (h : Grown sid message m m') {r : ChatRequest} : Belongs m' r ↔ Belongs m r := by
  rw [belongs_iff, belongs_iff, h.owner]

theorem mem_keys_iff_owner {k : PyStr} : k ∈ m.webStore.keys ↔ ownerOf m k ≠ none := by
  unfold ownerOf
  rw [Ne, Option.map_eq_none_iff, Dict.get?_eq_none, not_not]

def blankUser (userId : PyStr) : Bool := decide (userId ≠ [] ∧ strip userId = [])

theorem runtimeAdapter_ok {userId : PyStr} : runtimeAdapter userId = .ok () ↔ blankUser userId = false := by
  unfold runtimeAdapter blankUser
  rw [raiseIf_eq_ok, decide_eq_false_iff_not]

/-- The session `id` is new, has no messages, and is of a project that the configuration allows; it has an adapter
unless its user is blank. -/
structure Opened (id userId projectId : PyStr) (m m' : SessionManager) : Prop where
  fresh : ownerOf m id = none
  allowed : ∀ p, m.configuredProjectId = some p → projectId = p
  configured : m'.configuredProjectId = m.configuredProjectId
  adapters : m'.adapters = if blankUser userId then m.adapters else id :: m.adapters
  opened : ∃ session : WebSession, session.userId = userId ∧ session.projectId = projectId ∧
    session.messages = [] ∧ m'.webStore = m.webStore.set id session

theorem Opened.owner {id userId projectId : PyStr} (h : Opened id userId projectId m m') (k : PyStr) :
    ownerOf m' k = if k = id then some (userId, projectId) else ownerOf m k := by
  obtain ⟨session, rfl, rfl, -, hstore⟩ := h.opened
  unfold ownerOf
  rw [hstore, Dict.get?_set]
  split_ifs <;> rfl

theorem Opened.owner_of_known {id userId projectId : PyStr} (h : Opened id userId projectId m m') {k : PyStr}
    {owner : PyStr × PyStr} (hk : ownerOf m k = some owner) : ownerOf m' k = some owner := by
  rw [h.owner, if_neg, hk]
  rintro rfl
  rw [h.fresh] at hk
  exact absurd hk (by simp)

theorem Opened.belongs {id userId projectId : PyStr} (h : Opened id userId projectId m m') {r : ChatRequest}
    (hr : Belongs m r) : Belongs m' r := by
  obtain ⟨user, hr⟩ := belongs_iff.mp hr
  exact belongs_iff.mpr ⟨user, h.owner_of_known hr⟩

end

/-! ### the actions -/

theorem step_create (s : ChatSystem) (st : Stamp) (userId projectId : PyStr) (title : Option PyStr) :
    s.step (.create st userId projectId title) = s ∨
      ∃ m', Opened st.id userId projectId s.manager m' ∧
        s.step (.create st userId projectId title) = ⟨m', s.pending, s.next, s.completed⟩ := by
  unfold ChatSystem.step
  dsimp only
  by_cases hid : st.id ∈ s.manager.webStore.keys
  · rw [if_pos hid]
    exact .inl rfl
  rw [if_neg hid]
  unfold SessionManager.createSession
  by_cases hp : s.manager.configuredProjectId.isSome ∧ s.manager.configuredProjectId ≠ some projectId
  · rw [if_pos hp]
    exact .inl rfl
  rw [if_neg hp]
  have hfresh : ownerOf s.manager st.id = none := by
    by_contra hne
    exact hid (mem_keys_iff_owner.mpr hne)
  have hallowed : ∀ p, s.manager.configuredProjectId = some p → projectId = p := by
    intro p hproject
    rw [hproject] at hp
    by_contra hne
    exact hp ⟨rfl, fun he => hne (Option.some.inj he).symm⟩
  dsimp only
  cases hadapter : runtimeAdapter userId with
  | error e =>
    have hblank : blankUser userId = true := by
      rw [← Bool.not_eq_false, ← runtimeAdapter_ok, hadapter]
      exact fun h => nomatch h
    refine .inr ⟨_, ?_, rfl⟩
    exact ⟨hfresh, hallowed, rfl, (if_pos hblank).symm, _, rfl, rfl, rfl, rfl⟩
  | ok u =>
    have hnamed : ¬ blankUser userId = true := by
      rw [runtimeAdapter_ok.mp hadapter]
      exact Bool.false_ne_true
    refine .inr ⟨_, ?_, rfl⟩
    exact ⟨hfresh, hallowed, rfl, (if_neg hnamed).symm, _, rfl, rfl, rfl, rfl⟩

/-- A request does nothing, or says its message and is in flight. -/
theorem step_receive (s : ChatSystem) (st : Stamp) (r : ChatRequest) :
    (s.step (.receive st r) = s ∧ s.said (.receive st r) = []) ∨
      ∃ m', Belongs s.manager r ∧ Grown r.sessionId (userMessage st r) s.manager m' ∧
        s.step (.receive st r) = ⟨m', s.pending.set s.next r, s.next + 1, s.completed⟩ ∧
        s.said (.receive st r) = [(r.sessionId, userMessage st r)] := by
  unfold ChatSystem.step ChatSystem.said
  dsimp only
  rcases sendChat_cases st r s.manager with ⟨-, e, hsend⟩ | ⟨hr, m', hsend, hg⟩
  · rw [hsend]
    exact .inl ⟨rfl, rfl⟩
  · rw [hsend]
    exact .inr ⟨m', hr.1, hg, rfl, rfl⟩

/-- An answer does nothing, or says the answer to a request in flight, which is completed. -/
theorem step_answer {s : ChatSystem} (h : ∀ n r, s.pending.get? n = some r → Belongs s.manager r) (st : Stamp)
    (request : Nat) (result : RuntimeChatResult) :
    (s.step (.answer st request result) = s ∧ s.said (.answer st request result) = []) ∨
      ∃ r m', s.pending.get? request = some r ∧
        Grown r.sessionId (assistantMessage st result) s.manager m' ∧
        s.step (.answer st request result) =
          ⟨m', s.pending.erase request, s.next, s.completed ++ [(r, result)]⟩ ∧
        s.said (.answer st request result) = [(r.sessionId, assistantMessage st result)] := by
  unfold ChatSystem.step ChatSystem.said
  dsimp only
  cases hr : s.pending.get? request with
  | none => exact .inl ⟨rfl, rfl⟩
  | some r =>
    obtain ⟨session, hs, -⟩ := h request r hr
    obtain ⟨response, m', hresume, hg⟩ := resumeChat_known hs st result
    dsimp only
    rw [hresume]
    exact .inr ⟨r, m', rfl, hg, rfl, rfl⟩

/-! ### the invariant of all runs -/

/-- Every session is of the configured project, and those whose user is not blank have their adapter; what is in
flight or completed belongs to its session; and a session has a question for each answer and each request in flight. -/
structure Settled (project : Option PyStr) (s : ChatSystem) : Prop where
  configured : s.manager.configuredProjectId = project
  projects : ∀ p, project = some p → ∀ k user q, ownerOf s.manager k = some (user, q) → q = p
  adapters : ∀ k, k ∈ s.manager.adapters ↔ ∃ user q, ownerOf s.manager k = some (user, q) ∧ blankUser user = false
  inFlight : ∀ n r, s.pending.get? n = some r → Belongs s.manager r
  completed : ∀ c ∈ s.completed, Belongs s.manager c.1
  numbers : ∀ n ∈ s.pending.keys, n < s.next
  balanced : ∀ k messages, s.messagesOf k = some messages →
    messages.countP MessageRecord.isAnswer + (s.pendingOf k).length ≤ messages.countP MessageRecord.isQuestion

theorem settled_start (project : Option PyStr) : Settled project (ChatSystem.start project) where
  configured := rfl
  projects _ _ _ _ _ h := by cases h
  adapters _ := ⟨fun h => absurd h List.not_mem_nil, fun h => nomatch h.choose_spec.choose_spec.1⟩
  inFlight _ _ h := by cases h
  completed _ h := absurd h List.not_mem_nil
  numbers _ h := absurd h List.not_mem_nil
  balanced _ _ h := by cases h

theorem userMessage_counts (st : Stamp) (r : ChatRequest) :
    (userMessage st r).isAnswer = false ∧ (userMessage st r).isQuestion = true := by
  constructor
  · exact decide_eq_false fun h => absurd (py_inj.mp h) (by decide)
  · exact decide_eq_true rfl

theorem assistantMessage_counts (st : Stamp) (result : RuntimeChatResult) :
    (assistantMessage st result).isAnswer = true ∧ (assistantMessage st result).isQuestion = false := by
  constructor
  · exact decide_eq_true rfl
  · exact decide_eq_false fun h => absurd (py_inj.mp h) (by decide)

theorem messagesOf_grown {s : ChatSystem} {m' : SessionManager} {sid : PyStr} {message : MessageRecord}
    (h : Grown sid message s.manager m') (pending : Dict Nat ChatRequest) (next : Nat)
    (completed : List (ChatRequest × RuntimeChatResult)) (k : PyStr) :
    ChatSystem.messagesOf ⟨m', pending, next, completed⟩ k =
      (s.messagesOf k).map fun messages => messages ++ if sid = k then [message] else [] := by
  obtain ⟨session, now, hs, hget⟩ := h.get? k
  unfold ChatSystem.messagesOf
  dsimp only
  rw [hget]
  by_cases hk : k = sid
  · rw [if_pos hk, hk, hs, if_pos rfl]
    rfl
  · rw [if_neg hk, if_neg (Ne.symm hk), Option.map_map]
    refine congrArg (fun f => Option.map f _) ?_
    funext session
    exact (List.append_nil _).symm

/-! ### requests in flight -/

theorem pendingOf_set {s : ChatSystem} (hnew : s.next ∉ s.pending.keys) (r : ChatRequest) (m : SessionManager)
    (next : Nat) (completed : List (ChatRequest × RuntimeChatResult)) (k : PyStr) :
    ChatSystem.pendingOf ⟨m, s.pending.set s.next r, next, completed⟩ k =
      s.pendingOf k ++ if r.sessionId = k then [r] else [] := by
  have hitems : (s.pending.set s.next r).items = s.pending.items ++ [(s.next, r)] := upsert_of_notMem hnew r
  unfold ChatSystem.pendingOf
  dsimp only
  rw [hitems, List.filter_append, List.map_append]
  refine congrArg (_ ++ ·) ?_
  by_cases hk : r.sessionId = k
  · rw [if_pos hk]
    simp [hk]
  · rw [if_neg hk]
    simp [hk]

theorem pendingOf_erased {s : ChatSystem} {request : Nat} {r : ChatRequest} (hr : s.pending.get? request = some r)
    (m : SessionManager) (completed : List (ChatRequest × RuntimeChatResult)) (k : PyStr) :
    (ChatSystem.pendingOf ⟨m, s.pending.erase request, s.next, completed⟩ k).length +
      (if r.sessionId = k then 1 else 0) ≤ (s.pendingOf k).length := by
  unfold ChatSystem.pendingOf Dict.erase
  dsimp only
  rw [List.filter_comm, List.length_map, List.length_map]
  by_cases hk : r.sessionId = k
  · rw [if_pos hk]
    refine List.length_filter_lt_length_iff_exists.mpr ⟨(request, r), ?_, by simp⟩
    exact List.mem_filter.mpr ⟨Dict.get?_eq_some.mp hr, decide_eq_true hk⟩
  · rw [if_neg hk]
    exact List.length_filter_le _ _

theorem pendingOf_erase_le (s : ChatSystem) (request : Nat) (k : PyStr) :
    (ChatSystem.pendingOf { s with pending := s.pending.erase request } k).length ≤ (s.pendingOf k).length := by
  unfold ChatSystem.pendingOf Dict.erase
  dsimp only
  rw [List.filter_comm, List.length_map, List.length_map]
  exact List.length_filter_le _ _

theorem pendingOf_unknown {project : Option PyStr} {s : ChatSystem} (h : Settled project s) {k : PyStr}
    (hk : ownerOf s.manager k = none) : s.pendingOf k = [] := by
  unfold ChatSystem.pendingOf
  rw [List.map_eq_nil_iff, List.filter_eq_nil_iff]
  intro kv hkv he
  obtain ⟨user, howner⟩ := belongs_iff.mp (h.inFlight kv.1 kv.2 (Dict.get?_eq_some.mpr hkv))
  rw [of_decide_eq_true he, hk] at howner
  exact absurd howner (by simp)

/-! ### every action keeps the invariant -/

section
variable {project : Option PyStr} {s : ChatSystem}

theorem settled_create (h : Settled project s) (st : Stamp) (userId projectId : PyStr) (title : Option PyStr) :
    Settled project (s.step (.create st userId projectId title)) := by
  rcases step_create s st userId projectId title with hstep | ⟨m', hopened, hstep⟩
  · rw [hstep]
    exact h
  rw [hstep]
  obtain ⟨session, -, -, hmessages, hstore⟩ := hopened.opened
  refine ⟨hopened.configured.trans h.configured, fun p hproject k user q hk => ?_, fun k => ?_,
    fun n r hr => hopened.belongs (h.inFlight n r hr), fun c hc => hopened.belongs (h.completed c hc), h.numbers,
    fun k messages hm => ?_⟩
  · rw [hopened.owner] at hk
    by_cases he : k = st.id
    · rw [if_pos he] at hk
      obtain ⟨-, rfl⟩ := Prod.mk.inj (Option.some.inj hk)
      exact hopened.allowed p (h.configured.trans hproject)
    · rw [if_neg he] at hk
      exact h.projects p hproject k user q hk
  · show k ∈ m'.adapters ↔ ∃ user q, ownerOf m' k = some (user, q) ∧ blankUser user = false
    rw [hopened.adapters, hopened.owner]
    have hnew : st.id ∉ s.manager.adapters := by
      rw [h.adapters, hopened.fresh]
      exact fun hmem => nomatch hmem.choose_spec.choose_spec.1
    by_cases he : k = st.id
    · rw [if_pos he, he]
      cases hblank : blankUser userId with
      | true =>
        refine iff_of_false hnew ?_
        rintro ⟨user, q, howner, huser⟩
        obtain ⟨rfl, -⟩ := Prod.mk.inj (Option.some.inj howner)
        exact Bool.noConfusion (huser.symm.trans hblank)
      | false => exact iff_of_true List.mem_cons_self ⟨userId, projectId, rfl, hblank⟩
    · rw [if_neg he, ← h.adapters]
      cases blankUser userId with
      | true => exact Iff.rfl
      | false => exact List.mem_cons.trans (or_iff_right he)
  · unfold ChatSystem.messagesOf at hm
    dsimp only at hm
    rw [hstore, Dict.get?_set] at hm
    by_cases he : k = st.id
    · rw [if_pos he] at hm
      obtain rfl := Option.some.inj hm
      show session.messages.countP _ + (s.pendingOf k).length ≤ _
      rw [he, pendingOf_unknown h hopened.fresh, hmessages]
      exact Nat.zero_le _
    · rw [if_neg he] at hm
      exact h.balanced k messages hm

theorem Settled.grown (h : Settled project s) {sid : PyStr} {message : MessageRecord} {m' : SessionManager}
    (hg : Grown sid message s.manager m') :
    m'.configuredProjectId = project ∧
      (∀ p, project = some p → ∀ k user q, ownerOf m' k = some (user, q) → q = p) ∧
      ∀ k, k ∈ m'.adapters ↔ ∃ user q, ownerOf m' k = some (user, q) ∧ blankUser user = false := by
  refine ⟨hg.kept.1.trans h.configured, fun p hproject k user q hk => ?_, fun k => ?_⟩
  · rw [hg.owner] at hk
    exact h.projects p hproject k user q hk
  · rw [hg.owner, hg.kept.2]
    exact h.adapters k

theorem settled_receive (h : Settled project s) (st : Stamp) (r : ChatRequest) :
    Settled project (s.step (.receive st r)) := by
  rcases step_receive s st r with ⟨hstep, -⟩ | ⟨m', hr, hg, hstep, -⟩
  · rw [hstep]
    exact h
  rw [hstep]
  obtain ⟨hconfigured, hprojects, hadapters⟩ := h.grown hg
  have hnew : s.next ∉ s.pending.keys := fun hmem => lt_irrefl _ (h.numbers _ hmem)
  refine ⟨hconfigured, hprojects, hadapters, fun n r' hr' => ?_, fun c hc => ?_, fun n hn => ?_,
    fun k messages hm => ?_⟩
  · refine hg.belongs.mpr ?_
    have hr' : (s.pending.set s.next r).get? n = some r' := hr'
    rw [Dict.get?_set] at hr'
    by_cases hn : n = s.next
    · rw [if_pos hn] at hr'
      exact Option.some.inj hr' ▸ hr
    · rw [if_neg hn] at hr'
      exact h.inFlight n r' hr'
  · exact hg.belongs.mpr (h.completed c hc)
  · show n < s.next + 1
    rcases Dict.mem_keys_set.mp hn with rfl | hn
    · omega
    · have := h.numbers n hn
      omega
  · rw [messagesOf_grown hg] at hm
    obtain ⟨old, hold, rfl⟩ := Option.map_eq_some_iff.mp hm
    have hbalanced := h.balanced k old hold
    rw [pendingOf_set hnew, List.length_append, List.countP_append, List.countP_append]
    by_cases hk : r.sessionId = k
    · rw [if_pos hk, if_pos hk, List.countP_singleton, List.countP_singleton, (userMessage_counts st r).1,
        (userMessage_counts st r).2, if_neg Bool.false_ne_true, if_pos rfl, List.length_singleton]
      omega
    · rw [if_neg hk, if_neg hk, List.countP_nil, List.countP_nil, List.length_nil]
      omega

theorem settled_answer (h : Settled project s) (st : Stamp) (request : Nat) (result : RuntimeChatResult) :
    Settled project (s.step (.answer st request result)) := by
  rcases step_answer h.inFlight st request result with ⟨hstep, -⟩ | ⟨r, m', hr, hg, hstep, -⟩
  · rw [hstep]
    exact h
  rw [hstep]
  obtain ⟨hconfigured, hprojects, hadapters⟩ := h.grown hg
  refine ⟨hconfigured, hprojects, hadapters, fun n r' hr' => ?_, fun c hc => ?_, fun n hn => ?_,
    fun k messages hm => ?_⟩
  · have hr' : (s.pending.erase request).get? n = some r' := hr'
    rw [Dict.get?_erase] at hr'
    by_cases hn : n = request
    · rw [if_pos hn] at hr'
      exact absurd hr' (by simp)
    · rw [if_neg hn] at hr'
      exact hg.belongs.mpr (h.inFlight n r' hr')
  · rcases List.mem_append.mp hc with hc | hc
    · exact hg.belongs.mpr (h.completed c hc)
    · rw [List.mem_singleton.mp hc]
      exact hg.belongs.mpr (h.inFlight request r hr)
  · obtain ⟨kv, hkv, rfl⟩ := List.mem_map.mp hn
    exact h.numbers kv.1 (List.mem_map_of_mem (List.mem_filter.mp hkv).1)
  · rw [messagesOf_grown hg] at hm
    obtain ⟨old, hold, rfl⟩ := Option.map_eq_some_iff.mp hm
    have hbalanced := h.balanced k old hold
    have herased := pendingOf_erased hr m' (s.completed ++ [(r, result)]) k
    rw [List.countP_append, List.countP_append]
    by_cases hk : r.sessionId = k
    · rw [if_pos hk] at herased
      rw [if_pos hk, List.countP_singleton, List.countP_singleton, (assistantMessage_counts st result).1,
        (assistantMessage_counts st result).2, if_neg Bool.false_ne_true, if_pos rfl]
      omega
    · rw [if_neg hk] at herased
      rw [if_neg hk, List.countP_nil, List.countP_nil]
      omega

theorem settled_fail (h : Settled project s) (request : Nat) : Settled project (s.step (.fail request)) := by
  refine ⟨h.configured, h.projects, h.adapters, fun n r hr => ?_, h.completed, fun n hn => ?_,
    fun k messages hm => ?_⟩
  · have hr : (s.pending.erase request).get? n = some r := hr
    rw [Dict.get?_erase] at hr
    by_cases hn : n = request
    · rw [if_pos hn] at hr
      exact absurd hr (by simp)
    · rw [if_neg hn] at hr
      exact h.inFlight n r hr
  · obtain ⟨kv, hkv, rfl⟩ := List.mem_map.mp hn
    exact h.numbers kv.1 (List.mem_map_of_mem (List.mem_filter.mp hkv).1)
  · have hbalanced := h.balanced k messages hm
    have herased := pendingOf_erase_le s request k
    show _ + (ChatSystem.pendingOf { s with pending := s.pending.erase request } k).length ≤ _
    omega

/-- What one action preserves. -/
theorem settled_step (a : ChatAction) (s : ChatSystem) (h : Settled project s) : Settled project (s.step a) := by
  cases a with
  | create st userId projectId title => exact settled_create h st userId projectId title
  | receive st r => exact settled_receive h st r
  | answer st request result => exact settled_answer h st request result
  | fail request => exact settled_fail h request

theorem settled_after (project : Option PyStr) (actions : List ChatAction) :
    Settled project (ChatSystem.after project actions) :=
  run_invariant settled_step (settled_start project) actions

/-! ### the journals -/

theorem messagesOf_create (st : Stamp) (userId projectId : PyStr) (title : Option PyStr) (k : PyStr) :
    (s.step (.create st userId projectId title)).messagesOf k = s.messagesOf k ∨
      s.messagesOf k = none ∧ (s.step (.create st userId projectId title)).messagesOf k = some [] := by
  rcases step_create s st userId projectId title with hstep | ⟨m', hopened, hstep⟩
  · rw [hstep]
    exact .inl rfl
  rw [hstep]
  obtain ⟨session, -, -, hmessages, hstore⟩ := hopened.opened
  unfold ChatSystem.messagesOf
  dsimp only
  rw [hstore, Dict.get?_set]
  by_cases hk : k = st.id
  · right
    have hnone := mem_keys_iff_owner.not.mpr (not_not.mpr hopened.fresh)
    rw [if_pos hk, hk, Dict.get?_eq_none.mpr hnone]
    exact ⟨rfl, congrArg some hmessages⟩
  · rw [if_neg hk]
    exact .inl rfl

theorem messagesOf_step (a : ChatAction) (h : Settled project s) (k : PyStr) :
    (s.step a).messagesOf k = (s.messagesOf k).map (· ++ entriesOf k (s.said a)) ∨
      s.messagesOf k = none ∧ (s.step a).messagesOf k = some [] ∧ s.said a = [] := by
  have hsame : (s.messagesOf k).map (· ++ []) = s.messagesOf k := by
    cases s.messagesOf k with
    | none => rfl
    | some messages => exact congrArg some (List.append_nil messages)
  cases a with
  | create st userId projectId title =>
    rcases @messagesOf_create s st userId projectId title k with hk | ⟨hnone, hnew⟩
    · exact .inl (hk.trans hsame.symm)
    · exact .inr ⟨hnone, hnew, rfl⟩
  | receive st r =>
    left
    rcases step_receive s st r with ⟨hstep, hsaid⟩ | ⟨m', -, hg, hstep, hsaid⟩
    · rw [hstep, hsaid]
      exact hsame.symm
    · rw [hstep, hsaid, messagesOf_grown hg, entriesOf_singleton]
  | answer st request result =>
    left
    rcases step_answer h.inFlight st request result with ⟨hstep, hsaid⟩ | ⟨r, m', -, hg, hstep, hsaid⟩
    · rw [hstep, hsaid]
      exact hsame.symm
    · rw [hstep, hsaid, messagesOf_grown hg, entriesOf_singleton]
  | fail request => exact .inl hsame.symm

end

theorem chatJournals (project : Option PyStr) :
    Journals ChatSystem.step ChatSystem.said ChatSystem.messagesOf (Settled project) where
  keeps := settled_step
  known a s k messages h hk := by
    rcases messagesOf_step a h k with hstep | ⟨hnone, -, -⟩
    · rw [hstep, hk]
      rfl
    · rw [hk] at hnone
      exact absurd hnone (by simp)
  unknown a s k h hk := by
    rcases messagesOf_step a h k with hstep | ⟨-, hnew, hsilent⟩
    · refine ⟨?_, .inl (by rw [hstep, hk]; rfl)⟩
      -- what is said belongs to a session that is there
      have hunowned : ∀ r : ChatRequest, Belongs s.manager r → r.sessionId ≠ k := by
        rintro r ⟨session, hs, -⟩ rfl
        unfold ChatSystem.messagesOf at hk
        rw [hs] at hk
        exact absurd hk (by simp)
      cases a with
      | create => rfl
      | receive st r =>
        rcases step_receive s st r with ⟨-, hsaid⟩ | ⟨m', hr, -, -, hsaid⟩
        · rw [hsaid]
          rfl
        · rw [hsaid, entriesOf_singleton, if_neg (hunowned r hr)]
      | answer st request result =>
        rcases step_answer h.inFlight st request result with ⟨-, hsaid⟩ | ⟨r, m', hr, -, -, hsaid⟩
        · rw [hsaid]
          rfl
        · rw [hsaid, entriesOf_singleton, if_neg (hunowned r (h.inFlight request r hr))]
      | fail => rfl
    · exact ⟨by rw [hsilent]; rfl, .inr hnew⟩

/-! ### main results -/

/-- What a reader of a session sees after a run: all that was said in it, in order; it is at the front of what
he sees later; and there are no more answers than questions. -/
structure TranscriptExact (project : Option PyStr) (actions : List ChatAction) (sid : PyStr)
    (messages : List MessageRecord) : Prop where
  said : messages = entriesOf sid (ChatSystem.log project actions)
  grows : ∀ more, ∃ later, (ChatSystem.after project (actions ++ more)).manager.getMessages sid =
    .ok (messages ++ later)
  answered : messages.countP MessageRecord.isAnswer ≤ messages.countP MessageRecord.isQuestion

theorem getMessages_eq_ok {s : ChatSystem} {sid : PyStr} {messages : List MessageRecord} :
    s.manager.getMessages sid = .ok messages ↔ s.messagesOf sid = some messages := by
  unfold SessionManager.getMessages ChatSystem.messagesOf
  cases s.manager.webStore.get? sid with
  | none => exact iff_of_false (by simp) (by simp)
  | some session =>
    dsimp only [Option.map_some]
    rw [Except.ok.injEq, Option.some.injEq]

/-- **Transcripts are exact**, however requests overlap and whichever adapters fail. -/
theorem transcripts_of_run (project : Option PyStr) (actions : List ChatAction) (sid : PyStr) :
    ∀ messages, (ChatSystem.after project actions).manager.getMessages sid = .ok messages →
      TranscriptExact project actions sid messages := by
  intro messages hread
  have hmessages := getMessages_eq_ok.mp hread
  have hsettled := settled_after project actions
  refine ⟨?_, fun more => ?_, ?_⟩
  · exact (chatJournals project).run_new (settled_start project) rfl hmessages
  · have hgrown := (chatJournals project).run_known hsettled hmessages more
    unfold ChatSystem.after at hgrown
    rw [← run_append] at hgrown
    exact ⟨_, getMessages_eq_ok.mpr hgrown⟩
  · have hbalanced := hsettled.balanced sid messages hmessages
    omega

def helloRun : List ChatAction :=
  [.create ⟨py "s1", fun n => n⟩ (py "u1") (py "p1") none,
    .receive ⟨py "m1", fun n => n⟩ ⟨py "s1", py "u1", py "p1", py "hello"⟩,
    .answer ⟨py "m2", fun n => n⟩ 0 { content := py "hi", status := py "completed" }]

theorem transcripts_of_run_hello : ∃ messages,
    (ChatSystem.after none helloRun).manager.getMessages (py "s1") = .ok messages ∧
      TranscriptExact none helloRun (py "s1") messages :=
  ⟨_, rfl, transcripts_of_run none helloRun (py "s1") _ rfl⟩

/-- What holds of the projects in a state: sessions are of the configured project, the adapters work for the
project of their session, and a request is accepted exactly when it names that project and the user of the session
is not blank. -/
structure Isolated (project : Option PyStr) (s : ChatSystem) : Prop where
  configured : ∀ p, project = some p → ∀ k user q, ownerOf s.manager k = some (user, q) → q = p
  inFlight : ∀ n r, s.pending.get? n = some r → Belongs s.manager r
  completed : ∀ c ∈ s.completed, Belongs s.manager c.1
  accepts : ∀ st r, (∃ u, (s.manager.sendChat st r).1 = .ok u) ↔
    ∃ user, ownerOf s.manager r.sessionId = some (user, r.projectId) ∧ blankUser user = false
  recalls : ∀ r, s.manager.recallMemory r = .ok () ↔
    ∃ user, ownerOf s.manager r.sessionId = some (user, r.projectId) ∧ blankUser user = false

theorem Settled.isolated {project : Option PyStr} {s : ChatSystem} (h : Settled project s) : Isolated project s := by
  have hserved : ∀ r, (Belongs s.manager r ∧ r.sessionId ∈ s.manager.adapters) ↔
      ∃ user, ownerOf s.manager r.sessionId = some (user, r.projectId) ∧ blankUser user = false := by
    intro r
    rw [belongs_iff, h.adapters]
    constructor
    · rintro ⟨⟨user, howner⟩, user', q, howner', huser⟩
      obtain ⟨rfl, -⟩ := Prod.mk.inj (Option.some.inj (howner.symm.trans howner'))
      exact ⟨user, howner, huser⟩
    · rintro ⟨user, howner, huser⟩
      exact ⟨⟨user, howner⟩, user, r.projectId, howner, huser⟩
  refine ⟨h.projects, h.inFlight, h.completed, fun st r => ?_, fun r => recallMemory_iff.trans (hserved r)⟩
  rw [← hserved]
  rcases sendChat_cases st r s.manager with ⟨hno, e, hsend⟩ | ⟨hyes, m', hsend, -⟩
  · refine iff_of_false ?_ hno
    rw [hsend]
    simp
  · refine iff_of_true ?_ hyes
    rw [hsend]
    exact ⟨(), rfl⟩

theorem ownerOf_step {project : Option PyStr} {s : ChatSystem} (h : Settled project s) (a : ChatAction) {k : PyStr}
    {owner : PyStr × PyStr} (hk : ownerOf s.manager k = some owner) : ownerOf (s.step a).manager k = some owner := by
  cases a with
  | create st userId projectId title =>
    rcases step_create s st userId projectId title with hstep | ⟨m', hopened, hstep⟩
    · rw [hstep]
      exact hk
    · rw [hstep]
      exact hopened.owner_of_known hk
  | receive st r =>
    rcases step_receive s st r with ⟨hstep, -⟩ | ⟨m', -, hg, hstep, -⟩
    · rw [hstep]
      exact hk
    · rw [hstep]
      exact (hg.owner k).trans hk
  | answer st request result =>
    rcases step_answer h.inFlight st request result with ⟨hstep, -⟩ | ⟨r, m', -, hg, hstep, -⟩
    · rw [hstep]
      exact hk
    · rw [hstep]
      exact (hg.owner k).trans hk
  | fail request => exact hk

/-- **Projects are isolated** in every state of every run, and no session changes hands. -/
theorem isolated_of_run (project : Option PyStr) (actions : List ChatAction) :
    Isolated project (ChatSystem.after project actions) ∧
      ∀ k owner more, ownerOf (ChatSystem.after project actions).manager k = some owner →
        ownerOf (ChatSystem.after project (actions ++ more)).manager k = some owner := by
  refine ⟨(settled_after project actions).isolated, fun k owner more hk => ?_⟩
  unfold ChatSystem.after
  rw [run_append]
  have hkept := @run_invariant _ _ ChatSystem.step
    (fun s => Settled project s ∧ ownerOf s.manager k = some owner)
    (fun a s hs => ⟨settled_step a s hs.1, ownerOf_step hs.1 a hs.2⟩) _ ⟨settled_after project actions, hk⟩ more
  exact hkept.2

end Tomtit
