import TomtitAgent.SessionPersistence.LiveSession
import TomtitAgent.SessionPersistence.LoadTotal

/-!
# A saved session is loaded again

* `SessionState.Equal`        `==` between a session and one that was read;
* `turnJson`, `sessionJson`   the document of a session as a tree;
* `jsonOf_toDict`             the writer makes that tree of a session that it admits;
* `sessionOf_sessionJson`     the reader takes it back when the session is `Restorable`, as `restored`;
* `given_saved`               so does `load`, from the bytes, and it raises for any other session;
* `roundTrips_iff`            the sessions that are loaded as they were saved.
-/

open Py

namespace Tomtit

structure FileEnv.Faithful (env : FileEnv) : Prop where
  inspect : env.fails .inspect = false
  read : env.fails .read = false

/-! ### equality -/

/-- `v == w` for a `w` that is a string or `None`. -/
def EqText (v w : PyVal) : Prop := (∃ s, w = .str s ∧ v.asStr = some s) ∨ w = .none ∧ v = .none

structure TurnRecord.Equal (t u : TurnRecord) : Prop where
  taskId : EqText t.taskId u.taskId
  goal : EqText t.goal u.goal
  finalAnswer : EqText t.finalAnswer u.finalAnswer
  status : t.status = u.status
  plannedActions : t.plannedActions = u.plannedActions
  memoryDegraded : t.memoryDegraded = u.memoryDegraded
  memoryWriteFailed : t.memoryWriteFailed = u.memoryWriteFailed
  disclosureReasons : t.disclosureReasons = u.disclosureReasons
  completedAt : t.completedAt.eq u.completedAt = true

structure SessionState.Equal (s s' : SessionState) : Prop where
  sessionId : s.sessionId = s'.sessionId
  createdAt : s.createdAt.eq s'.createdAt = true
  updatedAt : s.updatedAt.eq s'.updatedAt = true
  turns : List.Forall₂ TurnRecord.Equal s.turns s'.turns

/-- After the save every `load` under the id of the session returns a session equal to it. -/
def RoundTrips (store : FileSessionStore) (env : FileEnv) (session : SessionState) (d : SessionDir) : Prop :=
  ∀ env' : FileEnv, env'.Faithful → ∃ loaded,
    store.load env' session.sessionId (store.save env session d).2 = .ok (some loaded) ∧ session.Equal loaded

/-! ### what can be read again -/

structure TurnRecord.Restorable (t : TurnRecord) : Prop where
  taskId : t.taskId.asStr ≠ none
  goal : t.goal.asStr ≠ none
  finalAnswer : t.finalAnswer = .none ∨ t.finalAnswer.asStr ≠ none
  completedAt : t.completedAt.utcoffset ≠ none

/-- The types that the reader demands, and its invariants. -/
structure SessionState.Restorable (s : SessionState) : Prop where
  created : s.createdAt.utcoffset ≠ none
  updated : s.updatedAt.utcoffset ≠ none
  turns : ∀ t ∈ s.turns, t.Restorable
  ordered : s.createdAt.instant ≤ s.updatedAt.instant
  lastTurn : ∀ t, s.turns.getLast? = some t → s.updatedAt.instant = t.completedAt.instant

structure SessionState.Unfolded (s : SessionState) : Prop where
  created : s.createdAt.inFold = false
  updated : s.updatedAt.inFold = false
  completed : ∀ t ∈ s.turns, t.completedAt.inFold = false

def TurnRecord.restored (t : TurnRecord) : TurnRecord :=
  { t with
    taskId := .optStr t.taskId.asStr
    goal := .optStr t.goal.asStr
    finalAnswer := .optStr t.finalAnswer.asStr
    completedAt := t.completedAt.reread }

/-- The session as it is read, under the canonical text of its id. -/
def SessionState.restored (canonical : PyStr) (s : SessionState) : SessionState where
  sessionId := canonical
  createdAt := s.createdAt.reread
  updatedAt := s.updatedAt.reread
  turns := s.turns.map TurnRecord.restored

structure Given (canonical : PyStr) (s : SessionState) (r : Except PyExc (Option SessionState)) : Prop where
  restorable : s.Restorable → r = .ok (some (s.restored canonical))
  corrupt : ¬ s.Restorable → ∃ msg, r = .error (sessionDataCorruptionError msg)

theorem eqText_restored {v : PyVal} (h : v = .none ∨ v.asStr ≠ none) : EqText v (.optStr v.asStr) := by
  rcases h with rfl | h
  · exact .inr ⟨rfl, rfl⟩
  · obtain ⟨s, hs⟩ := Option.ne_none_iff_exists'.mp h
    rw [hs]
    exact .inl ⟨s, rfl, hs⟩

theorem TurnRecord.Restorable.equal_iff {t : TurnRecord} (h : t.Restorable) :
    t.Equal t.restored ↔ t.completedAt.inFold = false := by
  have htime := Datetime.eq_reread h.completedAt h.completedAt
  rw [beq_self_eq_true, Bool.true_and] at htime
  constructor
  · intro heq
    have hfold : (!t.completedAt.inFold) = true := htime.symm.trans heq.completedAt
    simpa using hfold
  · intro hfold
    refine ⟨eqText_restored (.inr h.taskId), eqText_restored (.inr h.goal), eqText_restored h.finalAnswer, rfl,
      rfl, rfl, rfl, rfl, htime.trans ?_⟩
    rw [hfold, Bool.not_false]

theorem SessionState.Restorable.equal_iff {s : SessionState} (h : s.Restorable) (canonical : PyStr) :
    s.Equal (s.restored canonical) ↔ s.sessionId = canonical ∧ s.Unfolded := by
  have htime : ∀ t : Datetime, t.utcoffset ≠ none → (t.eq t.reread = true ↔ t.inFold = false) := by
    intro t ht
    rw [Datetime.eq_reread ht ht, beq_self_eq_true, Bool.true_and, Bool.not_eq_true']
  have hturns : List.Forall₂ TurnRecord.Equal s.turns (s.turns.map TurnRecord.restored) ↔
      ∀ t ∈ s.turns, t.completedAt.inFold = false := by
    rw [List.forall₂_map_right_iff, List.forall₂_same]
    exact forall₂_congr fun t ht => (h.turns t ht).equal_iff
  constructor
  · intro heq
    exact ⟨heq.sessionId, (htime _ h.created).mp heq.createdAt, (htime _ h.updated).mp heq.updatedAt,
      hturns.mp heq.turns⟩
  · rintro ⟨hid, hfold⟩
    exact ⟨hid, (htime _ h.created).mpr hfold.created, (htime _ h.updated).mpr hfold.updated,
      hturns.mpr hfold.completed⟩

namespace SessionSerializer

/-! ### the document -/

def strsJson (xs : List PyStr) : Json := .arr (xs.map .str)

def jsonValue (rt : Runtime) (v : PyVal) : Json := (jsonOf rt v).toOption.getD .null

section
variable (st : SessionTexts)

/-- The items of a turn, with those whose type is not checked apart. -/
def turnItems (taskId goal finalAnswer : Json) (t : TurnRecord) : List (PyStr × Json) :=
  [(py "task_id", taskId), (py "goal", goal), (py "final_answer", finalAnswer),
   (py "status", .str t.status.value), (py "planned_actions", strsJson t.plannedActions),
   (py "memory_degraded", .bool t.memoryDegraded), (py "memory_write_failed", .bool t.memoryWriteFailed),
   (py "disclosure_reasons", strsJson t.disclosureReasons),
   (py "completed_at", .str (st.isoformat t.completedAt))]

def turnJson (t : TurnRecord) : Json :=
  .obj (turnItems st (jsonValue st.json t.taskId) (jsonValue st.json t.goal) (jsonValue st.json t.finalAnswer) t)

def sessionItems (turns : List Json) (s : SessionState) : List (PyStr × Json) :=
  [(py "schema_version", .str schemaVersion), (py "session_id", .str s.sessionId),
   (py "created_at", .str (st.isoformat s.createdAt)), (py "updated_at", .str (st.isoformat s.updatedAt)),
   (py "turns", .arr turns)]

def sessionJson (s : SessionState) : Json := .obj (sessionItems st (s.turns.map (turnJson st)) s)

/-- The encoder writes the fields whose type is not checked. -/
structure Written (t : TurnRecord) : Prop where
  taskId : jsonOf st.json t.taskId = .ok (jsonValue st.json t.taskId)
  goal : jsonOf st.json t.goal = .ok (jsonValue st.json t.goal)
  finalAnswer : jsonOf st.json t.finalAnswer = .ok (jsonValue st.json t.finalAnswer)
  aware : t.completedAt.tzinfo.isNone = false

/-- The sessions of which the serializer and the encoder make a document. -/
structure Admitted (s : SessionState) : Prop where
  uuid : ∃ canonical, canonicalUuid st.json s.sessionId = some canonical
  created : s.createdAt.tzinfo.isNone = false
  updated : s.updatedAt.tzinfo.isNone = false
  turns : ∀ t ∈ s.turns, Written st t
  invariants : validateInvariants st s = .ok ()

end

section
variable {st : SessionTexts}

theorem names_nodup {names : List String} (h : names.Nodup) : (names.map py).Nodup :=
  h.map fun _ _ => py_inj.mp

theorem turnItems_nodup (a b c : Json) (t : TurnRecord) : ((turnItems st a b c t).map Prod.fst).Nodup :=
  @names_nodup ["task_id", "goal", "final_answer", "status", "planned_actions", "memory_degraded",
    "memory_write_failed", "disclosure_reasons", "completed_at"] (by decide)

theorem sessionItems_nodup (turns : List Json) (s : SessionState) :
    ((sessionItems st turns s).map Prod.fst).Nodup :=
  @names_nodup ["schema_version", "session_id", "created_at", "updated_at", "turns"] (by decide)

/-! ### writing -/

theorem jsonValue_eq {rt : Runtime} {v : PyVal} {j : Json} (h : jsonOf rt v = .ok j) : jsonValue rt v = j := by
  unfold jsonValue
  rw [h]
  rfl

theorem jsonOf_list_ok {rt : Runtime} {vs : List PyVal} {j : Json} (h : jsonOf rt (.list vs) = .ok j) :
    j = .arr (vs.map (jsonValue rt)) ∧ ∀ v ∈ vs, jsonOf rt v = .ok (jsonValue rt v) := by
  rw [jsonOf] at h
  obtain ⟨js, hjs, hret⟩ := bind_eq_ok.mp h
  obtain rfl := Except.ok.inj hret
  have hlist : js = vs.map (jsonValue rt) ∧ ∀ v ∈ vs, jsonOf rt v = .ok (jsonValue rt v) := by
    clear h hret
    induction vs generalizing js with
    | nil => exact ⟨(Except.ok.inj hjs).symm, fun _ hv => absurd hv List.not_mem_nil⟩
    | cons v vs ih =>
      rw [jsonOfList] at hjs
      obtain ⟨j, hj, hjs⟩ := bind_eq_ok.mp hjs
      obtain ⟨js', hjs', hret⟩ := bind_eq_ok.mp hjs
      obtain rfl := Except.ok.inj hret
      obtain ⟨htail, hall⟩ := ih js' hjs'
      rw [List.map_cons, jsonValue_eq hj, ← htail, List.forall_mem_cons, jsonValue_eq hj]
      exact ⟨rfl, hj, hall⟩
  exact ⟨congrArg Json.arr hlist.1, hlist.2⟩

theorem jsonOf_record_ok {rt : Runtime} {fields : List (PyStr × PyVal)} {j : Json}
    (h : jsonOf rt (.record fields) = .ok j) : j = .obj (fields.map fun f => (f.1, jsonValue rt f.2)) ∧
      ∀ f ∈ fields, jsonOf rt f.2 = .ok (jsonValue rt f.2) := by
  unfold PyVal.record at h
  rw [jsonOf] at h
  obtain ⟨es, hes, hret⟩ := bind_eq_ok.mp h
  obtain rfl := Except.ok.inj hret
  have hitems : es = (fields.map fun f => (f.1, jsonValue rt f.2)) ∧
      ∀ f ∈ fields, jsonOf rt f.2 = .ok (jsonValue rt f.2) := by
    clear h hret
    induction fields generalizing es with
    | nil => exact ⟨(Except.ok.inj hes).symm, fun _ hf => absurd hf List.not_mem_nil⟩
    | cons f fields ih =>
      rw [List.map_cons, jsonOfItems] at hes
      obtain ⟨key, hkey, hes⟩ := bind_eq_ok.mp hes
      obtain rfl := Except.ok.inj hkey
      obtain ⟨j, hj, hes⟩ := bind_eq_ok.mp hes
      obtain ⟨es', hes', hret⟩ := bind_eq_ok.mp hes
      obtain rfl := Except.ok.inj hret
      obtain ⟨htail, hall⟩ := ih es' hes'
      rw [List.map_cons, jsonValue_eq hj, ← htail, List.forall_mem_cons, jsonValue_eq hj]
      exact ⟨rfl, hj, hall⟩
  exact ⟨congrArg Json.obj hitems.1, hitems.2⟩

theorem jsonOf_strList (rt : Runtime) (xs : List PyStr) : jsonOf rt (.strList xs) = .ok (strsJson xs) := by
  have hlist : jsonOfList rt (xs.map .str) = .ok (xs.map .str) := by
    induction xs with
    | nil => rfl
    | cons x xs ih =>
      rw [List.map_cons, jsonOfList, ih]
      rfl
  unfold PyVal.strList
  rw [jsonOf, hlist]
  rfl

theorem requireAware_ok {field : PyStr} {t : Datetime} :
    requireAware field t = .ok () ↔ t.tzinfo.isNone = false :=
  raiseIf_eq_ok.trans (Bool.not_eq_true _).to_iff

theorem turnToDict_ok {t : TurnRecord} {v : PyVal} {j : Json} (h : turnToDict st t = .ok v)
    (hj : jsonOf st.json v = .ok j) : j = turnJson st t ∧ Written st t := by
  obtain ⟨_, haware, hret⟩ := bind_eq_ok.mp h
  obtain rfl := Except.ok.inj hret
  obtain ⟨rfl, hall⟩ := jsonOf_record_ok hj
  simp only [List.forall_mem_cons, List.not_mem_nil, false_imp_iff, implies_true, and_true] at hall
  obtain ⟨htask, hgoal, hanswer, -⟩ := hall
  refine ⟨?_, htask, hgoal, hanswer, requireAware_ok.mp haware⟩
  simp only [List.map_cons, List.map_nil, jsonValue_eq (jsonOf_strList _ _)]
  rfl

theorem turns_ok {ts : List TurnRecord} {vs : List PyVal} (h : ts.mapM (turnToDict st) = .ok vs)
    (hvs : ∀ v ∈ vs, jsonOf st.json v = .ok (jsonValue st.json v)) :
    vs.map (jsonValue st.json) = ts.map (turnJson st) ∧ ∀ t ∈ ts, Written st t := by
  induction ts generalizing vs with
  | nil =>
    obtain rfl := Except.ok.inj h
    exact ⟨rfl, fun _ ht => absurd ht List.not_mem_nil⟩
  | cons t ts ih =>
    rw [List.mapM_cons] at h
    obtain ⟨v, hv, h⟩ := bind_eq_ok.mp h
    obtain ⟨vs', hvs', hret⟩ := bind_eq_ok.mp h
    obtain rfl := Except.ok.inj hret
    obtain ⟨hfirst, hrest⟩ := List.forall_mem_cons.mp hvs
    obtain ⟨hjson, hwritten⟩ := turnToDict_ok hv hfirst
    obtain ⟨htail, hall⟩ := ih hvs' hrest
    rw [List.map_cons, List.map_cons, hjson, htail]
    exact ⟨rfl, List.forall_mem_cons.mpr ⟨hwritten, hall⟩⟩

/-- What `json.dumps` writes is the tree of the session. -/
theorem jsonOf_toDict {s : SessionState} {v : PyVal} {j : Json} (h : toDict st s = .ok v)
    (hj : jsonOf st.json v = .ok j) : j = sessionJson st s ∧ Admitted st s := by
  unfold toDict at h
  obtain ⟨canonical, huuid, h⟩ := bind_eq_ok.mp h
  obtain ⟨_, hcreated, h⟩ := bind_eq_ok.mp h
  obtain ⟨_, hupdated, h⟩ := bind_eq_ok.mp h
  obtain ⟨vs, hturns, h⟩ := bind_eq_ok.mp h
  obtain ⟨_, hvalid, hret⟩ := bind_eq_ok.mp h
  obtain rfl := Except.ok.inj hret
  obtain ⟨rfl, hall⟩ := jsonOf_record_ok hj
  simp only [List.forall_mem_cons, List.not_mem_nil, false_imp_iff, implies_true, and_true] at hall
  obtain ⟨-, -, -, -, hrows⟩ := hall
  obtain ⟨hlist, hvs⟩ := jsonOf_list_ok hrows
  obtain ⟨hmap, hwritten⟩ := turns_ok hturns hvs
  refine ⟨?_, ?_, requireAware_ok.mp hcreated, requireAware_ok.mp hupdated, hwritten, hvalid⟩
  · unfold sessionJson
    rw [← hmap]
    simp only [List.map_cons, List.map_nil, hlist]
    rfl
  · unfold requireCanonicalUuid at huuid
    cases hc : canonicalUuid st.json s.sessionId with
    | some canonical => exact ⟨canonical, rfl⟩
    | none =>
      rw [hc] at huuid
      exact absurd huuid (by simp)

/-! ### what the reader finds -/

theorem jsonOf_kinds {rt : Runtime} {v : PyVal} {j : Json} (h : jsonOf rt v = .ok j) :
    (∃ s, j = .str s ∧ v.asStr = some s) ∨ j = .null ∧ v = .none ∨
      (∀ s, j ≠ .str s) ∧ j ≠ .null ∧ v.asStr = none ∧ v ≠ .none := by
  have other : (∀ s, j ≠ .str s) → j ≠ .null → v.asStr = none → v ≠ .none →
      (∃ s, j = .str s ∧ v.asStr = some s) ∨ j = .null ∧ v = .none ∨
        (∀ s, j ≠ .str s) ∧ j ≠ .null ∧ v.asStr = none ∧ v ≠ .none :=
    fun h₁ h₂ h₃ h₄ => .inr (.inr ⟨h₁, h₂, h₃, h₄⟩)
  cases v with
  | none => exact .inr (.inl ⟨(Except.ok.inj h).symm, rfl⟩)
  | str s => exact .inl ⟨s, (Except.ok.inj h).symm, rfl⟩
  | bool b | float x =>
    obtain rfl := Except.ok.inj h
    exact other (by simp) (by simp) rfl (by simp)
  | int n =>
    unfold jsonOf at h
    split_ifs at h
    obtain rfl := Except.ok.inj h
    exact other (by simp) (by simp) rfl (by simp)
  | list xs | tuple xs | dict xs =>
    unfold jsonOf at h
    obtain ⟨_, -, hret⟩ := bind_eq_ok.mp h
    obtain rfl := Except.ok.inj hret
    exact other (by simp) (by simp) rfl (by simp)
  | enum cls name isStr value =>
    obtain ⟨s, rfl, rfl, rfl⟩ := (jsonOf_enum rt).mp h
    exact .inl ⟨s, rfl, rfl⟩
  | obj cls repr attrs => exact absurd h (by simp [jsonOf])

theorem reread_str_iff {j : Json} {s : PyStr} : JsonLoad.reread j = .str s ↔ j = .str s := by
  cases j <;> simp [JsonLoad.reread]

theorem reread_null_iff {j : Json} : JsonLoad.reread j = .null ↔ j = .null := by
  cases j <;> simp [JsonLoad.reread]

theorem requireJsonStr_ok {field s : PyStr} {j : Json} : requireJsonStr field j = .ok s ↔ j = .str s := by
  cases j <;> simp [requireJsonStr]

theorem requireJsonOptStr_ok {field : PyStr} {j : Json} {w : PyVal} : requireJsonOptStr field j = .ok w ↔
    (∃ s, j = .str s ∧ w = .str s) ∨ j = .null ∧ w = .none := by
  cases j <;> simp [requireJsonOptStr, eq_comm]

theorem requireJsonStr_reread {v : PyVal} (h : jsonOf st.json v = .ok (jsonValue st.json v)) (field s : PyStr) :
    requireJsonStr field (JsonLoad.reread (jsonValue st.json v)) = .ok s ↔ v.asStr = some s := by
  rw [requireJsonStr_ok, reread_str_iff]
  rcases jsonOf_kinds h with ⟨t, ht, hv⟩ | ⟨ht, rfl⟩ | ⟨hstr, -, hnone, -⟩
  · rw [ht, hv, Json.str.injEq, Option.some.injEq]
  · rw [ht]
    exact iff_of_false (by simp) (by simp [PyVal.asStr])
  · rw [hnone]
    exact iff_of_false (hstr s) (by simp)

theorem requireJsonOptStr_reread {v : PyVal} (h : jsonOf st.json v = .ok (jsonValue st.json v)) (field : PyStr) (w : PyVal) :
    requireJsonOptStr field (JsonLoad.reread (jsonValue st.json v)) = .ok w ↔
      (v = .none ∨ v.asStr ≠ none) ∧ w = .optStr v.asStr := by
  simp only [requireJsonOptStr_ok, reread_str_iff, reread_null_iff]
  rcases jsonOf_kinds h with ⟨t, ht, hv⟩ | ⟨ht, rfl⟩ | ⟨hstr, hnull, hnone, hne⟩
  · rw [ht, hv]
    simp [PyVal.optStr]
  · rw [ht]
    simp [PyVal.asStr, PyVal.optStr]
  · rw [hnone]
    simp [hstr, hnull, hne]

theorem parseDt_isoformat (field : PyStr) (t u : Datetime) :
    parseDt st field (.str (st.isoformat t)) = .ok u ↔ t.utcoffset ≠ none ∧ u = t.reread := by
  unfold parseDt
  dsimp only
  rw [st.fromisoformat_isoformat]
  dsimp only
  rw [bind_eq_ok, exists_unit, raiseIf_eq_ok, t.utcoffset_reread]
  constructor
  · rintro ⟨haware, hret⟩
    exact ⟨fun hn => haware (.inr hn), (Except.ok.inj hret).symm⟩
  · rintro ⟨haware, rfl⟩
    refine ⟨not_or.mpr ⟨?_, haware⟩, rfl⟩
    rw [Datetime.tzinfo_ne_none (by rw [t.utcoffset_reread]; exact haware)]
    exact Bool.false_ne_true

/-! ### reading it back -/

theorem jsonItem_at {data : List (PyStr × Json)} (hnodup : (data.map Prod.fst).Nodup) (i : Nat) {key : PyStr}
    {j : Json} (h : data[i]? = some (key, j)) : jsonItem st data key = .ok j := by
  unfold jsonItem
  rw [assoc_of_mem hnodup (List.mem_of_getElem? h)]

theorem requireJsonStrs_strs (field : PyStr) (xs : List PyStr) : requireJsonStrs field (strsJson xs) = .ok xs := by
  have hraw : requireJsonStrs.rawStrs (strsJson xs) = some xs := by
    unfold strsJson requireJsonStrs.rawStrs
    induction xs with
    | nil => rfl
    | cons x xs ih =>
      dsimp only at ih
      rw [List.map_cons]
      dsimp only
      rw [List.mapM_cons, ih]
      rfl
  unfold requireJsonStrs
  rw [hraw]

theorem requireStatus_value (status : AgentStatus) : requireStatus st (.str status.value) = .ok status := by
  have hread : (StrEnum.ofValue? status.value : Option AgentStatus) = some status :=
    StrEnum.ofValue?_eq_some.mpr rfl
  unfold requireStatus
  dsimp only
  rw [hread]

theorem reread_strs (xs : List PyStr) : JsonLoad.reread (strsJson xs) = strsJson xs := by
  unfold strsJson
  rw [JsonLoad.reread_arr, List.map_map]
  rfl

theorem reread_turnJson (t : TurnRecord) : JsonLoad.reread (turnJson st t) =
    .obj (turnItems st (JsonLoad.reread (jsonValue st.json t.taskId)) (JsonLoad.reread (jsonValue st.json t.goal))
      (JsonLoad.reread (jsonValue st.json t.finalAnswer)) t) := by
  unfold turnJson
  rw [JsonLoad.reread_obj (turnItems_nodup _ _ _ t)]
  simp only [turnItems, List.map_cons, List.map_nil, reread_strs]
  rfl

theorem turnFromDict_turnJson {t : TurnRecord} (h : Written st t) (u : TurnRecord) :
    turnFromDict st (JsonLoad.reread (turnJson st t)) = .ok u ↔ t.Restorable ∧ u = t.restored := by
  rw [reread_turnJson]
  generalize ha : JsonLoad.reread (jsonValue st.json t.taskId) = a
  generalize hb : JsonLoad.reread (jsonValue st.json t.goal) = b
  generalize hc : JsonLoad.reread (jsonValue st.json t.finalAnswer) = c
  have htask := requireJsonStr_reread h.taskId
  have hgoal := requireJsonStr_reread h.goal
  have hanswer := requireJsonOptStr_reread h.finalAnswer
  rw [ha] at htask
  rw [hb] at hgoal
  rw [hc] at hanswer
  have hitem := @jsonItem_at st (turnItems st a b c t) (turnItems_nodup a b c t)
  unfold turnFromDict
  dsimp only
  rw [hitem 0 rfl, hitem 1 rfl, hitem 2 rfl, hitem 3 rfl, hitem 4 rfl, hitem 5 rfl, hitem 6 rfl, hitem 7 rfl,
    hitem 8 rfl]
  simp only [ok_bind, requireJsonStrs_strs, requireStatus_value, requireJsonBool, bind_eq_ok, htask, hgoal,
    hanswer, parseDt_isoformat]
  constructor
  · rintro ⟨x, hx, y, hy, w, ⟨hw, rfl⟩, z, ⟨hz, rfl⟩, hret⟩
    obtain rfl := Except.ok.inj hret
    refine ⟨⟨by simp [hx], by simp [hy], hw, hz⟩, ?_⟩
    unfold TurnRecord.restored
    rw [hx, hy]
    rfl
  · rintro ⟨hr, rfl⟩
    obtain ⟨x, hx⟩ := Option.ne_none_iff_exists'.mp hr.taskId
    obtain ⟨y, hy⟩ := Option.ne_none_iff_exists'.mp hr.goal
    refine ⟨x, hx, y, hy, _, ⟨hr.finalAnswer, rfl⟩, _, ⟨hr.completedAt, rfl⟩, ?_⟩
    unfold TurnRecord.restored
    rw [hx, hy]
    rfl

theorem mapM_turnFromDict {ts : List TurnRecord} (h : ∀ t ∈ ts, Written st t) (us : List TurnRecord) :
    (ts.map fun t => JsonLoad.reread (turnJson st t)).mapM (turnFromDict st) = .ok us ↔
      (∀ t ∈ ts, t.Restorable) ∧ us = ts.map TurnRecord.restored := by
  induction ts generalizing us with
  | nil => exact ⟨fun hus => ⟨fun _ ht => absurd ht List.not_mem_nil, (Except.ok.inj hus).symm⟩,
      fun hus => congrArg Except.ok hus.2.symm⟩
  | cons t ts ih =>
    obtain ⟨ht, hts⟩ := List.forall_mem_cons.mp h
    rw [List.map_cons, List.mapM_cons, bind_eq_ok, List.forall_mem_cons]
    simp only [turnFromDict_turnJson ht, bind_eq_ok, ih hts]
    constructor
    · rintro ⟨_, ⟨hr, rfl⟩, _, ⟨hrs, rfl⟩, hret⟩
      exact ⟨⟨hr, hrs⟩, (Except.ok.inj hret).symm⟩
    · rintro ⟨⟨hr, hrs⟩, rfl⟩
      exact ⟨_, ⟨hr, rfl⟩, _, ⟨hrs, rfl⟩, rfl⟩

theorem reread_sessionJson (s : SessionState) : JsonLoad.reread (sessionJson st s) =
    .obj (sessionItems st (s.turns.map fun t => JsonLoad.reread (turnJson st t)) s) := by
  unfold sessionJson
  rw [JsonLoad.reread_obj (sessionItems_nodup _ s)]
  simp only [sessionItems, List.map_cons, List.map_nil, JsonLoad.reread_arr, List.map_map]
  rfl

theorem restored_invariants {s : SessionState} (canonical : PyStr) (hcreated : s.createdAt.utcoffset ≠ none)
    (hupdated : s.updatedAt.utcoffset ≠ none) (hturns : ∀ t ∈ s.turns, t.Restorable) :
    validateInvariants st (s.restored canonical) = .ok () ↔ s.createdAt.instant ≤ s.updatedAt.instant ∧
      ∀ t, s.turns.getLast? = some t → s.updatedAt.instant = t.completedAt.instant := by
  have aware : ∀ {t : Datetime}, t.utcoffset ≠ none → t.reread.utcoffset ≠ none := by
    intro t ht
    rwa [Datetime.utcoffset_reread]
  have hcompleted : ∀ u ∈ (s.restored canonical).turns, u.completedAt.utcoffset ≠ none ∧
      u.completedAt.reread = u.completedAt := by
    intro u hu
    obtain ⟨t, ht, rfl⟩ := List.mem_map.mp hu
    exact ⟨aware (hturns t ht).completedAt, t.completedAt.reread_reread⟩
  have hvalid := @validateInvariants_reread st (s.restored canonical) (aware hcreated) (aware hupdated)
    (fun u hu => (hcompleted u hu).1) s.createdAt.reread_reread s.updatedAt.reread_reread
    fun u hu => (hcompleted u hu).2
  rw [hvalid]
  show s.createdAt.reread.instant ≤ s.updatedAt.reread.instant ∧
    (∀ u, (s.turns.map TurnRecord.restored).getLast? = some u →
      s.updatedAt.reread.instant = u.completedAt.instant) ↔ _
  rw [Datetime.instant_reread, Datetime.instant_reread, List.getLast?_map]
  refine and_congr_right fun _ => ?_
  cases s.turns.getLast? with
  | none => simp
  | some last => simp [TurnRecord.restored]

/-- The reader takes a document back exactly when the session is restorable. -/
theorem sessionOf_sessionJson {s : SessionState} (h : Admitted st s) {canonical expected : PyStr}
    (hid : canonicalUuid st.json s.sessionId = some canonical)
    (hexpected : canonicalUuid st.json expected = some canonical) (s' : SessionState) :
    sessionOf st expected (JsonLoad.reread (sessionJson st s)) = .ok s' ↔
      s.Restorable ∧ s' = s.restored canonical := by
  rw [reread_sessionJson]
  generalize hrows : (s.turns.map fun t => JsonLoad.reread (turnJson st t)) = rows
  have hitem := @jsonItem_at st (sessionItems st rows s) (sessionItems_nodup rows s)
  have hversion : requireVersion1 st (sessionItems st rows s) = .ok () := by
    unfold requireVersion1
    rw [assoc_of_mem (sessionItems_nodup rows s) List.mem_cons_self]
    exact raiseIf_eq_ok.mpr fun hne => hne rfl
  have hfields : requireRootFields st (sessionItems st rows s) = .ok () := by
    unfold requireRootFields
    refine raiseIf_eq_ok.mpr fun hne => ?_
    rw [show (sessionItems st rows s).map Prod.fst = sessionRootFields from rfl] at hne
    rw [setEq_iff.mpr fun _ => Iff.rfl] at hne
    exact absurd hne (by simp)
  have hsession : requireSessionId st (.str s.sessionId) = .ok canonical := by
    show requireCanonicalUuid st s.sessionId = .ok canonical
    unfold requireCanonicalUuid
    rw [hid]
  have hrequire : requireExpected st canonical expected = .ok () := by
    unfold requireExpected
    rw [hexpected]
    exact raiseIf_eq_ok.mpr fun hne => hne rfl
  have hturns := mapM_turnFromDict h.turns
  rw [hrows] at hturns
  unfold sessionOf
  dsimp only
  rw [hversion, hfields, hitem 1 rfl, hitem 2 rfl, hitem 3 rfl, hitem 4 rfl]
  simp only [ok_bind, hsession, hrequire, requireTurns, bind_eq_ok, parseDt_isoformat, hturns]
  constructor
  · rintro ⟨_, ⟨hcreated, rfl⟩, _, ⟨hupdated, rfl⟩, _, ⟨hall, rfl⟩, _, hvalid, hret⟩
    obtain ⟨hordered, hlast⟩ := (restored_invariants canonical hcreated hupdated hall).mp hvalid
    exact ⟨⟨hcreated, hupdated, hall, hordered, hlast⟩, (Except.ok.inj hret).symm⟩
  · rintro ⟨hr, rfl⟩
    have hvalid := (@restored_invariants st s canonical hr.created hr.updated hr.turns).mpr ⟨hr.ordered, hr.lastTurn⟩
    exact ⟨_, ⟨hr.created, rfl⟩, _, ⟨hr.updated, rfl⟩, _, ⟨hr.turns, rfl⟩, (), hvalid, rfl⟩

end

end SessionSerializer

namespace FileSessionStore
open SessionSerializer

section
variable {store : FileSessionStore} {session : SessionState} {data : Bytes}

theorem payload_ok (h : store.payload session = .ok data) :
    loadsBytes store.texts.json data = .ok (JsonLoad.reread (sessionJson store.texts session)) ∧
      Admitted store.texts session := by
  unfold payload at h
  obtain ⟨v, hdict, h⟩ := bind_eq_ok.mp h
  obtain ⟨text, htext, hencode⟩ := bind_eq_ok.mp h
  obtain ⟨j, hj, hret⟩ := bind_eq_ok.mp htext
  obtain ⟨rfl, hadmitted⟩ := jsonOf_toDict hdict hj
  obtain rfl := Except.ok.inj hret
  have hload := @JsonLoad.loads_textIn_reread store.texts.json .spaced (sessionJson store.texts session)
    (jsonOf_intsFit _ hj) [] fun _ hc => absurd hc List.not_mem_nil
  rw [List.append_nil] at hload
  obtain ⟨rest, hrest⟩ : ∃ rest, (sessionJson store.texts session).textIn store.texts.json .spaced 0 =
      123 :: 34 :: rest := by
    unfold sessionJson sessionItems
    rw [Json.textIn]
    exact ⟨_, rfl⟩
  rw [hrest] at hencode hload
  exact ⟨loadsBytes_utf8 hencode hload, hadmitted⟩

theorem loadsBytes_intsFit {rt : Runtime} {j : Json} (h : loadsBytes rt data = .ok j) : j.intsFit rt = true := by
  unfold loadsBytes at h
  cases hdecode : decodePass data (detectEncoding data.toList) with
  | none =>
    rw [hdecode] at h
    exact absurd h (by simp)
  | some text =>
    rw [hdecode] at h
    exact Scan.loads_intsFit rt h

theorem readSession_saved {canonical : PyStr} {mode : Nat} {entries : Dict PyStr DirEntry} {env : FileEnv}
    (henv : env.Faithful) (hmode : insecure mode = false)
    (hentry : entries.get? (canonical ++ py ".json") = some (.file data)) :
    store.readSession env canonical (canonical ++ py ".json") (.directory mode entries) = .ok (some data) := by
  unfold readSession
  rw [henv.inspect, if_neg Bool.false_ne_true]
  dsimp only
  rw [hmode, if_neg Bool.false_ne_true, hentry]
  dsimp only
  rw [henv.read, if_neg Bool.false_ne_true]

/-- The file of a session gives the session, under the canonical text of its id, or is refused as corrupt. -/
theorem given_saved {canonical : PyStr} {mode : Nat} {entries : Dict PyStr DirEntry} {env : FileEnv}
    (henv : env.Faithful) (hpayload : store.payload session = .ok data) {id : PyStr}
    (hid : canonicalUuid store.texts.json id = some canonical)
    (hsession : canonicalUuid store.texts.json session.sessionId = some canonical)
    (hmode : insecure mode = false) (hentry : entries.get? (canonical ++ py ".json") = some (.file data)) :
    Given canonical session (store.load env id (.directory mode entries)) := by
  obtain ⟨hloads, hadmitted⟩ := payload_ok hpayload
  have hcanonical := canonicalUuid_idem store.texts.json hid
  have hread := sessionOf_sessionJson hadmitted hsession hcanonical
  rw [load_read hid (readSession_saved henv hmode hentry), parseSession_loads hloads]
  refine ⟨fun hr => ?_, fun hr => ?_⟩
  · unfold fromDict
    rw [(hread _).mpr ⟨hr, rfl⟩]
    rfl
  · unfold fromDict
    cases hcase : sessionOf store.texts canonical (JsonLoad.reread (sessionJson store.texts session)) with
    | ok s' => exact absurd ((hread s').mp hcase).1 hr
    | error e =>
      obtain ⟨msg, hmsg⟩ := corrupts_sessionOf canonical (loadsBytes_intsFit hloads) e hcase
      exact ⟨msg, congrArg Except.error hmsg⟩

theorem canonical_of_fileName {id target : PyStr} (h : store.fileName id = .ok target) :
    ∃ canonical, canonicalUuid store.texts.json id = some canonical ∧ target = canonical ++ py ".json" := by
  unfold fileName at h
  cases hid : canonicalUuid store.texts.json id with
  | none =>
    rw [hid] at h
    exact absurd h (by simp)
  | some canonical =>
    rw [hid] at h
    exact ⟨canonical, rfl, (Except.ok.inj h).symm⟩

theorem load_after_save {env : FileEnv} {d : SessionDir} (hsaved : (store.save env session d).1 = .ok ()) :
    ∃ canonical, canonicalUuid store.texts.json session.sessionId = some canonical ∧
      ∀ env' : FileEnv, env'.Faithful → ∀ id, canonicalUuid store.texts.json id = some canonical →
        Given canonical session (store.load env' id (store.save env session d).2) := by
  have hentries := save_entries store env session d
  obtain ⟨data, target, hpayload, hname, hfile⟩ := hentries.ok hsaved
  obtain ⟨mode, entries, hdir, hmode⟩ := hentries.secured hsaved
  obtain ⟨canonical, hid, rfl⟩ := canonical_of_fileName hname
  refine ⟨canonical, hid, fun env' henv id hsame => ?_⟩
  have hentry := (hfile (canonical ++ py ".json")).trans (if_pos rfl)
  rw [hdir] at hentry
  rw [hdir]
  exact given_saved henv hpayload hsame hid hmode hentry

/-- **A saved session comes back equal to what it was exactly when** its id is canonical, the reader takes
its texts, times and order, and no offset depends on a fold. -/
theorem roundTrips_iff (store : FileSessionStore) (env : FileEnv) (session : SessionState) (d : SessionDir)
    (hsaved : (store.save env session d).1 = .ok ()) : RoundTrips store env session d ↔
      canonicalUuid store.texts.json session.sessionId = some session.sessionId ∧
        session.Restorable ∧ session.Unfolded := by
  obtain ⟨canonical, hid, hgiven⟩ := load_after_save hsaved
  rw [hid, Option.some.injEq]
  constructor
  · intro h
    obtain ⟨loaded, hload, hequal⟩ := h calmFiles ⟨rfl, rfl⟩
    have hcalm := hgiven calmFiles ⟨rfl, rfl⟩ _ hid
    by_cases hr : session.Restorable
    · rw [hcalm.restorable hr] at hload
      obtain rfl := Option.some.inj (Except.ok.inj hload)
      obtain ⟨hsame, hfold⟩ := (hr.equal_iff canonical).mp hequal
      exact ⟨hsame.symm, hr, hfold⟩
    · obtain ⟨msg, hmsg⟩ := hcalm.corrupt hr
      rw [hmsg] at hload
      exact absurd hload (by simp)
  · rintro ⟨hsame, hr, hfold⟩ env' henv
    exact ⟨_, (hgiven env' henv _ hid).restorable hr, (hr.equal_iff canonical).mpr ⟨hsame.symm, hfold⟩⟩

end

/-! ### a save that nothing disturbs -/

section
variable {store : FileSessionStore} {env : FileEnv} {mode : Nat} {entries : Dict PyStr DirEntry}

theorem commit_calm (henv : ∀ op, env.fails op = false) {canonical target temp : PyStr} (data : Bytes)
    (hfree : freeName env canonical (.directory mode entries) = some temp) (hne : target ≠ temp)
    (hother : entries.get? target ≠ some .directory) :
    (commit env canonical target data (.directory mode entries)).1 = .ok () := by
  have htemp : ((entries.set temp (.file ByteArray.empty)).get? temp).isSome = true := by
    rw [Dict.get?_set, if_pos rfl]
    rfl
  obtain ⟨entries₁, hdir, hothers, hdata, -⟩ := @writeAndFsyncTemp_others env mode _ temp data htemp
  have hok := (@writeAndFsyncTemp_ok_iff env mode (entries.set temp (.file ByteArray.empty)) temp data).mpr
    ⟨henv _, henv _, henv _, henv _, henv _⟩
  unfold commit
  rw [Effect.bind_apply, createTemp_apply, henv, if_neg Bool.false_ne_true, hfree]
  dsimp only
  rcases hrun : writeAndFsyncTemp env temp data
    (.directory mode (entries.set temp (.file ByteArray.empty))) with ⟨r, d⟩
  rw [hrun] at hdir hdata hok
  obtain rfl : d = .directory mode entries₁ := hdir
  obtain rfl : r = .ok () := hok
  have hkept : ¬ (env.fails .replace = true ∨ entries₁.get? target = some .directory) := by
    rw [henv, hothers target hne, Dict.get?_set, if_neg hne]
    exact not_or.mpr ⟨Bool.false_ne_true, hother⟩
  have hreplace := @replace_apply env mode _ _ target _ (hdata rfl)
  rw [if_neg hkept] at hreplace
  obtain ⟨entries₂, hx, -, -⟩ := @finally_cleanup env mode _ (do
    writeAndFsyncTemp env temp data
    replace env temp target) temp _ (.ok ()) (by rw [Effect.bind_apply, hrun]; exact hreplace)
  rw [hx]

theorem save_absent (henv : ∀ op, env.fails op = false) (hdrawn : env.drawn ≠ []) {session : SessionState}
    {data : Bytes} {target : PyStr} (hpayload : store.payload session = .ok data)
    (hname : store.fileName session.sessionId = .ok target) : (store.save env session .absent).1 = .ok () := by
  obtain ⟨drawn, rest, hcons⟩ := List.exists_cons_of_ne_nil hdrawn
  have hensure : store.ensureDir env .absent = (.ok (), .directory 0o700 Dict.empty) := by
    unfold ensureDir
    rw [call_bind, henv, if_neg Bool.false_ne_true, get_bind]
    dsimp only
    rw [call_bind, henv, if_neg Bool.false_ne_true, Effect.bind_apply]
    dsimp only [Effect.set]
    rw [call_bind, henv, if_neg Bool.false_ne_true]
    rfl
  have hfree : freeName env session.sessionId (.directory 0o700 Dict.empty) =
      some (tempName session.sessionId drawn) := by
    unfold freeName
    rw [hcons, List.map_cons, List.find?_cons_of_pos rfl]
  have hcommit := @commit_calm env 0o700 Dict.empty henv session.sessionId target _ data hfree
    (fileName_ne_tempName hname session.sessionId drawn)
    fun h => absurd (show none = some DirEntry.directory from h) (by simp)
  rw [save_eq hpayload hname, saveData_apply]
  unfold Effect.reraise
  rw [Effect.bind_apply, hensure]
  dsimp only
  rcases hrun : commit env session.sessionId target data (.directory 0o700 Dict.empty) with ⟨r, d⟩
  rw [hrun] at hcommit
  obtain rfl : r = .ok () := hcommit
  rfl

end

/-! ### a session under two ids -/

def utc (instant : Int) : Datetime := ⟨instant, some (.fixed 0)⟩

def greeted : TurnRecord where
  taskId := .str (py "t1")
  goal := .str (py "hi")
  finalAnswer := .str (py "hello")
  status := .completed
  plannedActions := [py "finish"]
  memoryDegraded := false
  memoryWriteFailed := false
  disclosureReasons := []
  completedAt := utc 7

def greetedSession (id : PyStr) : SessionState := ⟨id, utc 0, utc 7, [greeted]⟩

theorem greetedSession_plain (id : PyStr) : (sessionJson plainTexts (greetedSession id)).Plain := by
  have hstrs : ∀ xs : List PyStr, (strsJson xs).Plain := by
    refine fun xs => .arr fun j hj => ?_
    obtain ⟨s, -, rfl⟩ := List.mem_map.mp hj
    exact .str s
  refine .obj (sessionItems_nodup _ _) ?_
  unfold sessionItems
  simp only [List.forall_mem_cons, List.not_mem_nil, false_imp_iff, implies_true, and_true]
  refine ⟨.str _, .str _, .str _, .str _, .arr (List.forall_mem_singleton.mpr (.obj (turnItems_nodup _ _ _ _) ?_))⟩
  unfold turnItems
  simp only [List.forall_mem_cons, List.not_mem_nil, false_imp_iff, implies_true, and_true]
  exact ⟨.str _, .str _, .str _, .str _, hstrs _, .bool _, .bool _, hstrs _, .str _⟩

theorem greetedSession_ascii {id : PyStr} (hascii : Ascii id) :
    ∀ s ∈ (sessionJson plainTexts (greetedSession id)).strings, Ascii s := by
  have hiso := plainTexts.isoformat_ascii
  show ∀ s ∈ [py "schema_version", schemaVersion, py "session_id", id, py "created_at",
    plainTexts.isoformat (utc 0), py "updated_at", plainTexts.isoformat (utc 7), py "turns", py "task_id", py "t1",
    py "goal", py "hi", py "final_answer", py "hello", py "status", AgentStatus.completed.value,
    py "planned_actions", py "finish", py "memory_degraded", py "memory_write_failed", py "disclosure_reasons",
    py "completed_at", plainTexts.isoformat (utc 7)], Ascii s
  simp only [List.forall_mem_cons, List.not_mem_nil, false_imp_iff, implies_true, and_true]
  have hlit : ∀ l : List Char, l.all (fun c => c.toNat < 128) = true → Ascii (py (String.ofList l)) := ascii_lit
  refine ⟨hlit _ ?_, hlit _ ?_, hlit _ ?_, hascii, hlit _ ?_, hiso _, hlit _ ?_, hiso _, hlit _ ?_, hlit _ ?_,
    hlit _ ?_, hlit _ ?_, hlit _ ?_, hlit _ ?_, hlit _ ?_, hlit _ ?_, hlit _ ?_, hlit _ ?_, hlit _ ?_, hlit _ ?_,
    hlit _ ?_, hlit _ ?_, hlit _ ?_, hiso _⟩ <;> decide

theorem payload_greetedSession {id canonical : PyStr} (hid : canonicalUuid plainTexts.json id = some canonical)
    (hascii : Ascii id) : ∃ data, plainStore.payload (greetedSession id) = .ok data := by
  have huuid : requireCanonicalUuid plainTexts id = .ok canonical := by
    unfold requireCanonicalUuid
    rw [hid]
  obtain ⟨v, hdict, j, hj⟩ : ∃ v, toDict plainTexts (greetedSession id) = .ok v ∧
      ∃ j, jsonOf plainTexts.json v = .ok j := by
    unfold toDict
    rw [show (greetedSession id).sessionId = id from rfl, huuid]
    exact ⟨_, rfl, _, rfl⟩
  obtain ⟨rfl, -⟩ := jsonOf_toDict hdict hj
  have hencodable : Encodable ((sessionJson plainTexts (greetedSession id)).textIn plainTexts.json .spaced 0) :=
    JsonLoad.encodable_spaced _ (greetedSession_plain id) fun s hs => (greetedSession_ascii hascii s hs).encodable
  obtain ⟨data, hdata⟩ := encodeUtf8_ok_iff.mpr hencodable
  refine ⟨data, ?_⟩
  unfold payload
  rw [show plainStore.texts = plainTexts from rfl, hdict]
  show (dumpsIn plainTexts.json .spaced v >>= encodeUtf8) = _
  unfold dumpsIn
  rw [hj]
  exact hdata

theorem save_greetedSession {id canonical : PyStr} (hid : canonicalUuid plainTexts.json id = some canonical)
    (hascii : Ascii id) : (plainStore.save calmFiles (greetedSession id) .absent).1 = .ok () := by
  obtain ⟨data, hdata⟩ := payload_greetedSession hid hascii
  have hname : plainStore.fileName id = .ok (canonical ++ py ".json") := by
    unfold fileName
    rw [show canonicalUuid plainStore.texts.json id = some canonical from hid]
  exact save_absent (fun _ => rfl) (by simp [calmFiles]) hdata hname

theorem greetedSession_restorable (id : PyStr) : (greetedSession id).Restorable := by
  have hgreeted : greeted.Restorable :=
    ⟨Option.some_ne_none _, Option.some_ne_none _, .inr (Option.some_ne_none _), Option.some_ne_none _⟩
  refine ⟨Option.some_ne_none _, Option.some_ne_none _, List.forall_mem_singleton.mpr hgreeted, ?_, fun t ht => ?_⟩
  · show (0 : Int) - 0 ≤ 7 - 0
    decide
  · obtain rfl := Option.some.inj ht
    rfl

def zeroId : PyStr := py "00000000-0000-0000-0000-000000000000"

def bareId : PyStr := py "00000000000000000000000000000000"

theorem canonical_zeroId : canonicalUuid plainTexts.json zeroId = some zeroId := by
  unfold zeroId
  rw [py_ofList]
  decide +kernel

theorem canonical_bareId : canonicalUuid plainTexts.json bareId = some zeroId := by
  unfold zeroId bareId
  rw [py_ofList, py_ofList]
  decide +kernel

theorem zeroId_roundTrips : RoundTrips plainStore calmFiles (greetedSession zeroId) .absent :=
  (roundTrips_iff plainStore calmFiles (greetedSession zeroId) .absent
    (save_greetedSession canonical_zeroId (ascii_lit _ (by decide)))).mpr
    ⟨canonical_zeroId, greetedSession_restorable zeroId, rfl, rfl, List.forall_mem_singleton.mpr rfl⟩

/-- The session is saved, and comes back under another id. -/
theorem bareId_not_roundTrips : (plainStore.save calmFiles (greetedSession bareId) .absent).1 = .ok () ∧
    ¬ RoundTrips plainStore calmFiles (greetedSession bareId) .absent := by
  have hsaved := save_greetedSession canonical_bareId (ascii_lit _ (by decide))
  refine ⟨hsaved, fun h => ?_⟩
  obtain ⟨canonical, hid, hgiven⟩ := load_after_save hsaved
  obtain ⟨loaded, hload, hequal⟩ := h calmFiles ⟨rfl, rfl⟩
  have hfound := hgiven calmFiles ⟨rfl, rfl⟩ _ hid
  rw [hfound.restorable (greetedSession_restorable bareId)] at hload
  obtain rfl := Option.some.inj (Except.ok.inj hload)
  have hsame : bareId = canonical := hequal.sessionId
  have hid' : canonicalUuid plainTexts.json bareId = some canonical := hid
  rw [← hsame, canonical_bareId] at hid'
  exact absurd (py_inj.mp (Option.some.inj hid')) (by decide)

end FileSessionStore

end Tomtit
