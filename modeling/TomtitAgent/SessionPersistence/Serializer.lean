import TomtitAgent.Python.JsonBytes
import TomtitAgent.Python.Uuid
import TomtitAgent.State.AgentState

/-!
# `state/session_state.py` and `session_persistence/serializer.py`

* `Datetime`   a `datetime`, with its comparisons;
* `SessionState`, `TurnRecord`   a session and its turns;
* `toDict`, `fromDict`   `SessionSerializer`, from a session to its document and back.
-/

open Py

namespace Tomtit

/-- A `tzinfo`: a `timezone`, or another object with what it answers for the datetime, whose offset
with the fold turned over is `folded`. -/
inductive TzInfo
  | fixed (offset : Int)
  | zone (object : Nat) (utcoffset folded : Option Int)

/-- A `datetime` by what its clock shows, in microseconds. -/
structure Datetime where
  wall : Int
  tzinfo : Option TzInfo

namespace Datetime

/-- `t.utcoffset()` -/
def utcoffset (t : Datetime) : Option Int :=
  match t.tzinfo with
  | none => none
  | some (.fixed offset) => some offset
  | some (.zone _ offset _) => offset

def instant (t : Datetime) : Int := t.wall - t.utcoffset.getD 0

/-- The same object, for those that are no `timezone`. -/
def sameTzinfo (t u : Datetime) : Bool :=
  match t.tzinfo, u.tzinfo with
  | none, none => true
  | some (.zone a _ _), some (.zone b _ _) => a == b
  | _, _ => false

def inFold (t : Datetime) : Bool :=
  match t.tzinfo with
  | some (.zone _ offset folded) => offset != folded
  | _ => false

/-- `t == u` -/
def eq (t u : Datetime) : Bool :=
  if t.sameTzinfo u then t.wall == u.wall
  else match t.utcoffset, u.utcoffset with
    | none, none => t.wall == u.wall
    | some _, some _ => t.instant == u.instant && !t.inFold && !u.inFold
    | _, _ => false

/-- `t < u` -/
def lt (t u : Datetime) : Except PyExc Bool :=
  if t.sameTzinfo u then .ok (t.wall < u.wall)
  else match t.utcoffset, u.utcoffset with
    | none, none => .ok (t.wall < u.wall)
    | some _, some _ => .ok (t.instant < u.instant)
    | _, _ => .error (typeError (py "can't compare offset-naive and offset-aware datetimes"))

/-- What its text says of it: a `timezone` in place of any other `tzinfo`. -/
def reread (t : Datetime) : Datetime := ⟨t.wall, t.utcoffset.map .fixed⟩

@[simp] theorem utcoffset_reread (t : Datetime) : t.reread.utcoffset = t.utcoffset := by
  unfold reread utcoffset
  cases t.tzinfo with
  | none => rfl
  | some z =>
    cases z with
    | fixed offset => rfl
    | zone object offset folded =>
      cases offset with
      | none => rfl
      | some offset => rfl

@[simp] theorem instant_reread (t : Datetime) : t.reread.instant = t.instant := by
  unfold instant
  rw [utcoffset_reread]
  rfl

theorem reread_reread (t : Datetime) : t.reread.reread = t.reread := by
  show (⟨t.wall, t.reread.utcoffset.map .fixed⟩ : Datetime) = _
  rw [utcoffset_reread]
  rfl

theorem tzinfo_reread {t : Datetime} (h : t.utcoffset ≠ none) : ∃ offset, t.reread.tzinfo = some (.fixed offset) := by
  obtain ⟨offset, hoffset⟩ := Option.ne_none_iff_exists'.mp h
  refine ⟨offset, ?_⟩
  unfold reread
  rw [hoffset]
  rfl

theorem tzinfo_ne_none {t : Datetime} (h : t.utcoffset ≠ none) : t.tzinfo.isNone = false := by
  cases htz : t.tzinfo with
  | none => exact absurd (by unfold utcoffset; rw [htz]) h
  | some z => rfl

theorem sameTzinfo_fixed {t u : Datetime} {offset : Int} (hu : u.tzinfo = some (.fixed offset)) :
    t.sameTzinfo u = false := by
  unfold sameTzinfo
  rw [hu]
  cases t.tzinfo with
  | none => rfl
  | some z => cases z <;> rfl

theorem lt_reread {t u : Datetime} (ht : t.utcoffset ≠ none) (hu : u.utcoffset ≠ none) :
    t.reread.lt u.reread = .ok (t.instant < u.instant) := by
  obtain ⟨_, hzone⟩ := tzinfo_reread hu
  obtain ⟨a, ha⟩ := Option.ne_none_iff_exists'.mp ht
  obtain ⟨b, hb⟩ := Option.ne_none_iff_exists'.mp hu
  unfold lt
  rw [sameTzinfo_fixed hzone, if_neg Bool.false_ne_true, utcoffset_reread, utcoffset_reread, ha, hb]
  dsimp only
  rw [instant_reread, instant_reread]

theorem eq_reread {t u : Datetime} (ht : t.utcoffset ≠ none) (hu : u.utcoffset ≠ none) :
    t.eq u.reread = (t.instant == u.instant && !t.inFold) := by
  obtain ⟨_, hzone⟩ := tzinfo_reread hu
  obtain ⟨a, ha⟩ := Option.ne_none_iff_exists'.mp ht
  obtain ⟨b, hb⟩ := Option.ne_none_iff_exists'.mp hu
  have hfold : u.reread.inFold = false := by
    unfold inFold
    rw [hzone]
  unfold eq
  rw [sameTzinfo_fixed hzone, if_neg Bool.false_ne_true, utcoffset_reread, ha, hb]
  dsimp only
  rw [instant_reread, hfold, Bool.not_false, Bool.and_true]

theorem inFold_reread (t : Datetime) : t.reread.inFold = false := by
  unfold reread inFold
  cases t.utcoffset with
  | none => rfl
  | some offset => rfl

end Datetime

structure TurnRecord where
  taskId : PyVal
  goal : PyVal
  finalAnswer : PyVal
  status : AgentStatus
  plannedActions : List PyStr
  memoryDegraded : Bool
  memoryWriteFailed : Bool
  disclosureReasons : List PyStr
  completedAt : Datetime

structure SessionState where
  sessionId : PyStr
  createdAt : Datetime
  updatedAt : Datetime
  turns : List TurnRecord := []

/-- `session.append_turn(record)` -/
def SessionState.appendTurn (s : SessionState) (record : TurnRecord) : SessionState :=
  { s with turns := s.turns ++ [record], updatedAt := record.completedAt }

structure SessionTexts where
  json : Runtime
  isoformat : Datetime → PyStr
  /-- `datetime.fromisoformat`, `none` for a `ValueError` -/
  fromisoformat : PyStr → Option Datetime
  fromisoformat_isoformat : ∀ t, fromisoformat (isoformat t) = some t.reread
  fromisoformat_reread : ∀ s t, fromisoformat s = some t → t.reread = t
  isoformat_ascii : ∀ t, Ascii (isoformat t)
  /-- `repr` of a `set` and of a `frozenset` of strings, which follows the hashes -/
  setRepr : List PyStr → PyStr
  frozensetRepr : List PyStr → PyStr

def sessionPersistenceError (msg : PyStr) : PyExc := ⟨["SessionPersistenceError"], msg⟩
def sessionDataCorruptionError (msg : PyStr) : PyExc :=
  ⟨["SessionDataCorruptionError", "SessionPersistenceError"], msg⟩

/-- `uuid.UUID(text)` raises; the text of `int`'s own error is left out. -/
def uuidError : PyExc := valueError (py "badly formed hexadecimal UUID string")

namespace SessionSerializer

def schemaVersion : PyStr := py "1"

/-- `_ROOT_FIELDS` -/
def sessionRootFields : List PyStr :=
  [py "schema_version", py "session_id", py "created_at", py "updated_at", py "turns"]

section
variable (st : SessionTexts)

/-- `_require_canonical_uuid`, of a string -/
def requireCanonicalUuid (value : PyStr) : Except PyExc PyStr :=
  match canonicalUuid st.json value with
  | some canonical => .ok canonical
  | none => .error (sessionDataCorruptionError
      (py "session_id is not a valid UUID: " ++ reprStr st.json value))

/-- `_require_aware` -/
def requireAware (field : PyStr) (value : Datetime) : Except PyExc Unit :=
  raiseIf (value.tzinfo.isNone = true)
    (sessionDataCorruptionError (field ++ py " must be timezone-aware (got naive datetime)"))

/-- `_turn_to_dict` -/
def turnToDict (turn : TurnRecord) : Except PyExc PyVal := do
  requireAware (py "completed_at") turn.completedAt
  return .record
    [(py "task_id", turn.taskId),
     (py "goal", turn.goal),
     (py "final_answer", turn.finalAnswer),
     (py "status", .str turn.status.value),
     (py "planned_actions", .strList turn.plannedActions),
     (py "memory_degraded", .bool turn.memoryDegraded),
     (py "memory_write_failed", .bool turn.memoryWriteFailed),
     (py "disclosure_reasons", .strList turn.disclosureReasons),
     (py "completed_at", .str (st.isoformat turn.completedAt))]

def requireLastTurn (s : SessionState) : Except PyExc Unit :=
  match s.turns.getLast? with
  | none => .ok ()
  | some last => raiseIf (s.updatedAt.eq last.completedAt = false)
      (sessionDataCorruptionError (py "updated_at (" ++ st.isoformat s.updatedAt ++
        py ") must equal turns[-1].completed_at (" ++ st.isoformat last.completedAt ++ py ")"))

/-- `_validate_invariants` -/
def validateInvariants (s : SessionState) : Except PyExc Unit := do
  let early ← s.updatedAt.lt s.createdAt
  raiseIf (early = true) (sessionDataCorruptionError (py "updated_at (" ++ st.isoformat s.updatedAt ++
    py ") must be >= created_at (" ++ st.isoformat s.createdAt ++ py ")"))
  requireLastTurn st s

/-- `SessionSerializer.to_dict` -/
def toDict (s : SessionState) : Except PyExc PyVal := do
  let _ ← requireCanonicalUuid st s.sessionId
  requireAware (py "created_at") s.createdAt
  requireAware (py "updated_at") s.updatedAt
  let turnDicts ← s.turns.mapM (turnToDict st)
  validateInvariants st s
  return .record
    [(py "schema_version", .str schemaVersion),
     (py "session_id", .str s.sessionId),
     (py "created_at", .str (st.isoformat s.createdAt)),
     (py "updated_at", .str (st.isoformat s.updatedAt)),
     (py "turns", .list turnDicts)]

/-! ### reading -/

def jsonTypeName (j : Json) : PyStr := (JsonLoad.toPy j).typeName

/-- `data[key]` -/
def jsonItem (data : List (PyStr × Json)) (key : PyStr) : Except PyExc Json :=
  match assoc data key with
  | some j => .ok j
  | none => .error (keyError (reprStr st.json key))

/-- `f"...{value!r}..."` as the text of an error -/
def corruptRepr (before : PyStr) (value : Json) (rest : PyStr) : PyExc :=
  match reprVal st.json (JsonLoad.toPy value) with
  | .ok text => sessionDataCorruptionError (before ++ text ++ rest)
  | .error e => e

/-- A field that must be a `str`. -/
def requireJsonStr (field : PyStr) : Json → Except PyExc PyStr
  | .str s => .ok s
  | j => .error (sessionDataCorruptionError (field ++ py " must be str, got " ++ jsonTypeName j))

def requireJsonOptStr (field : PyStr) : Json → Except PyExc PyVal
  | .str s => .ok (.str s)
  | .null => .ok .none
  | j => .error (sessionDataCorruptionError
      (field ++ py " must be str or None, got " ++ jsonTypeName j))

def requireJsonBool (field : PyStr) : Json → Except PyExc Bool
  | .bool b => .ok b
  | j => .error (sessionDataCorruptionError (field ++ py " must be bool, got " ++ jsonTypeName j))

def requireJsonStrs (field : PyStr) (j : Json) : Except PyExc (List PyStr) :=
  match rawStrs j with
  | some xs => .ok xs
  | none => .error (sessionDataCorruptionError (field ++ py " must be a list of str"))
where
  rawStrs : Json → Option (List PyStr)
    | .arr xs => xs.mapM fun
      | .str s => some s
      | _ => none
    | _ => none

/-- `AgentStatus(status_val)` -/
def requireStatus (j : Json) : Except PyExc AgentStatus :=
  match j with
  | .str s => match StrEnum.ofValue? s with
    | some status => .ok status
    | none => .error (corruptRepr st (py "invalid status value: ") j [])
  | j => .error (corruptRepr st (py "invalid status value: ") j [])

/-- `_parse_dt` -/
def parseDt (field : PyStr) : Json → Except PyExc Datetime
  | .str s => match st.fromisoformat s with
    | none => .error (sessionDataCorruptionError
        (field ++ py " is not a valid ISO datetime: " ++ reprStr st.json s))
    | some t => do
      raiseIf (t.tzinfo.isNone = true ∨ t.utcoffset = none) (sessionDataCorruptionError (field ++
        py " must be timezone-aware (got naive datetime string: " ++ reprStr st.json s ++ py ")"))
      return t
  | j => .error (sessionDataCorruptionError
      (field ++ py " must be a str (ISO datetime), got " ++ jsonTypeName j))

/-- `_turn_from_dict` -/
def turnFromDict : Json → Except PyExc TurnRecord
  | .obj data => do
    let taskId ← jsonItem st data (py "task_id") >>= requireJsonStr (py "task_id")
    let goal ← jsonItem st data (py "goal") >>= requireJsonStr (py "goal")
    let finalAnswer ← jsonItem st data (py "final_answer") >>= requireJsonOptStr (py "final_answer")
    let status ← jsonItem st data (py "status") >>= requireStatus st
    let plannedActions ← jsonItem st data (py "planned_actions") >>=
      requireJsonStrs (py "planned_actions")
    let memoryDegraded ← jsonItem st data (py "memory_degraded") >>=
      requireJsonBool (py "memory_degraded")
    let memoryWriteFailed ← jsonItem st data (py "memory_write_failed") >>=
      requireJsonBool (py "memory_write_failed")
    let disclosureReasons ← jsonItem st data (py "disclosure_reasons") >>=
      requireJsonStrs (py "disclosure_reasons")
    let completedAt ← jsonItem st data (py "completed_at") >>= parseDt st (py "completed_at")
    return { taskId := .str taskId, goal := .str goal, finalAnswer, status, plannedActions, memoryDegraded,
             memoryWriteFailed, disclosureReasons, completedAt }
  | j => .error (sessionDataCorruptionError (py "turn must be a dict, got " ++ jsonTypeName j))

/-- `version != cls.SCHEMA_VERSION` -/
def requireVersion1 (data : List (PyStr × Json)) : Except PyExc Unit :=
  match (assoc data (py "schema_version")).getD .null with
  | .str s => raiseIf (s ≠ schemaVersion) (sessionDataCorruptionError (py "unsupported schema_version: " ++
      reprStr st.json s ++ py ", expected '1'"))
  | j => .error (corruptRepr st (py "unsupported schema_version: ") j (py ", expected '1'"))

/-- `actual_keys != cls._ROOT_FIELDS` -/
def requireRootFields (data : List (PyStr × Json)) : Except PyExc Unit :=
  let actual := data.map Prod.fst
  raiseIf (setEq actual sessionRootFields = false)
    (sessionDataCorruptionError (py "unexpected root fields — extra=" ++
      st.setRepr (actual.filter (· ∉ sessionRootFields)) ++ py ", missing=" ++
      st.frozensetRepr (sessionRootFields.filter (· ∉ actual))))

/-- `session_id != expected_canonical` -/
def requireExpected (sessionId expected : PyStr) : Except PyExc Unit :=
  match canonicalUuid st.json expected with
  | none => .error uuidError
  | some canonical => raiseIf (sessionId ≠ canonical)
      (sessionDataCorruptionError (py "session_id mismatch: file has " ++ reprStr st.json sessionId ++
        py ", expected " ++ reprStr st.json canonical))

def requireTurns : Json → Except PyExc (List Json)
  | .arr xs => .ok xs
  | j => .error (sessionDataCorruptionError (py "turns must be a list, got " ++ jsonTypeName j))

def requireSessionId (j : Json) : Except PyExc PyStr :=
  requireJsonStr (py "session_id") j >>= requireCanonicalUuid st

/-- The `try` block of `from_dict`. -/
def sessionOf (expected : PyStr) : Json → Except PyExc SessionState
  | .obj data => do
    requireVersion1 st data
    requireRootFields st data
    let sessionId ← jsonItem st data (py "session_id") >>= requireSessionId st
    requireExpected st sessionId expected
    let createdAt ← jsonItem st data (py "created_at") >>= parseDt st (py "created_at")
    let updatedAt ← jsonItem st data (py "updated_at") >>= parseDt st (py "updated_at")
    let rows ← jsonItem st data (py "turns") >>= requireTurns
    let turns ← rows.mapM (turnFromDict st)
    validateInvariants st { sessionId, createdAt, updatedAt, turns }
    return { sessionId, createdAt, updatedAt, turns }
  | j => .error (sessionDataCorruptionError
      (py "session data must be a dict, got " ++ jsonTypeName j))

/-- The `except` clauses of `from_dict`. -/
def asCorruption (e : PyExc) : PyExc :=
  if e.isA "SessionDataCorruptionError" then e
  else if ["KeyError", "TypeError", "ValueError", "AttributeError"].any e.isA then
    sessionDataCorruptionError (py "session data is corrupt: " ++ e.msg)
  else e

/-- `SessionSerializer.from_dict(data, expected_session_id=expected)` -/
def fromDict (expected : PyStr) (data : Json) : Except PyExc SessionState :=
  (sessionOf st expected data).mapError asCorruption

end

end SessionSerializer

end Tomtit
