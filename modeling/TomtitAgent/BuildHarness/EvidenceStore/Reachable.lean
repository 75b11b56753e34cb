import TomtitAgent.BuildHarness.EvidenceStore.WriteOnce

/-!
# What the evidence store holds after a run

The payloads are JSON: dictionaries with string keys.

* `JsonObject`, `JsonOp`   such a payload, and a call with such payloads;
* `eventJson`, `contractJson`   the trees of an event and of a contract;
* `JsonOp.logged`   the event that a call appends to the log of a task;
* `Reached`, `reached_run`   all that is stored after a run: each file is an artifact with the bytes
  of its text, or a log with the lines of its events, or a temporary file.
-/

open Py

namespace Tomtit

/-- A dictionary with string keys whose values are JSON. -/
structure JsonObject where
  items : List (PyStr × Json)
  plain : (Json.obj items).Plain

namespace JsonObject

def json (o : JsonObject) : Json := .obj o.items

def toPy (o : JsonObject) : PyVal := JsonLoad.toPy o.json

end JsonObject

def eventJson (timestamp : Timestamp) (taskId eventType : PyStr) (payload : JsonObject) : Json :=
  .obj
    [(py "timestamp", .str timestamp.text),
     (py "task_id", .str taskId),
     (py "event_type", .str eventType),
     (py "payload", payload.json)]

theorem eventDict_eq (timestamp : Timestamp) (taskId eventType : PyStr) (payload : JsonObject) :
    eventDict timestamp taskId eventType payload.toPy =
      JsonLoad.toPy (eventJson timestamp taskId eventType payload) := rfl

theorem eventJson_plain (timestamp : Timestamp) (taskId eventType : PyStr) (payload : JsonObject) :
    (eventJson timestamp taskId eventType payload).Plain := by
  refine .obj (by simp) fun kv hkv => ?_
  simp only [List.mem_cons, List.not_mem_nil, or_false] at hkv
  rcases hkv with rfl | rfl | rfl | rfl
  · exact .str _
  · exact .str _
  · exact .str _
  · exact payload.plain

def jsonStrings (xs : List PyStr) : Json := .arr (xs.map .str)

def contractJson (c : TaskContract) : Json :=
  .obj
    [(py "task_id", .str c.taskId),
     (py "title", .str c.title),
     (py "goal", .str c.goal),
     (py "allowed_paths", jsonStrings c.allowedPaths),
     (py "forbidden_paths", jsonStrings c.forbiddenPaths),
     (py "acceptance_criteria", jsonStrings c.acceptanceCriteria),
     (py "required_evidence", jsonStrings c.requiredEvidence),
     (py "risk_level", .str c.riskLevel),
     (py "requires_human_approval_for", jsonStrings c.requiresHumanApprovalFor),
     (py "broad_scope_allowed", .bool c.broadScopeAllowed)]

theorem toPy_jsonStrings (xs : List PyStr) : JsonLoad.toPy (jsonStrings xs) = .strList xs := by
  unfold jsonStrings PyVal.strList
  rw [JsonLoad.toPy]
  congr 1
  induction xs with
  | nil => rfl
  | cons x xs ih => rw [List.map_cons, List.map_cons, JsonLoad.toPyList, ih, JsonLoad.toPy]

theorem jsonStrings_plain (xs : List PyStr) : (jsonStrings xs).Plain := by
  refine .arr fun x hx => ?_
  obtain ⟨s, -, rfl⟩ := List.mem_map.mp hx
  exact .str s

theorem contractToDict_eq (c : TaskContract) :
    contractToDict c = JsonLoad.toPy (contractJson c) := by
  unfold contractToDict contractJson
  rw [JsonLoad.toPy, JsonLoad.toPyItems_eq]
  simp only [PyVal.record, List.map_cons, List.map_nil, toPy_jsonStrings, JsonLoad.toPy]

theorem contractJson_plain (c : TaskContract) : (contractJson c).Plain := by
  refine .obj (by simp) fun kv hkv => ?_
  simp only [List.mem_cons, List.not_mem_nil, or_false] at hkv
  rcases hkv with rfl | rfl | rfl | rfl | rfl | rfl | rfl | rfl | rfl | rfl
  · exact .str _
  · exact .str _
  · exact .str _
  · exact jsonStrings_plain _
  · exact jsonStrings_plain _
  · exact jsonStrings_plain _
  · exact jsonStrings_plain _
  · exact .str _
  · exact jsonStrings_plain _
  · exact .bool _

/-! ### calls -/

def Save.IsJson : Save → Prop
  | .gateResult _ _ payload => ∃ o : JsonObject, payload = o.toPy
  | _ => True

/-- A call of an operation that writes, its payload a JSON object. -/
inductive JsonOp
  | save (s : Save) (json : s.IsJson) (env : WriteEnv)
  | append (taskId eventType : PyStr) (timestamp : Timestamp) (payload : JsonObject)

def JsonOp.toOp : JsonOp → StoreOp
  | save s _ env => .save s env
  | append taskId eventType timestamp payload => .append taskId eventType timestamp payload.toPy

section
variable (rt : Runtime) (store : EvidenceStore)

/-- What an append for the task `id` with this result adds to the log of `taskId`. -/
def loggedBy (id taskId : PyStr) (event : Json) : Except PyExc Path → Option Json
  | .ok _ => if id = taskId then some event else none
  | .error _ => none

/-- The event that a call appends to the log of a task, unless it is no append or raises. -/
def JsonOp.logged (taskId : PyStr) : JsonOp → Option Json
  | save _ _ _ => none
  | append id eventType timestamp payload =>
    loggedBy id taskId (eventJson timestamp id eventType payload)
      (EvidenceStore.appendEvent rt .empty id eventType timestamp payload.toPy).2

theorem appendEvent_result (t t' : FileTree) (taskId eventType : PyStr) (timestamp : Timestamp)
    (payload : PyVal) :
    (EvidenceStore.appendEvent rt t taskId eventType timestamp payload).2 =
      (EvidenceStore.appendEvent rt t' taskId eventType timestamp payload).2 := by
  unfold EvidenceStore.appendEvent
  dsimp only
  split
  · rfl
  · split
    · rfl
    · rfl

/-! ### lines -/

def eventText (event : Json) : PyStr := event.textIn rt .spaced 0

def logText (events : List Json) : PyStr := events.flatMap fun event => eventText rt event ++ [newline]

theorem logText_append (events events' : List Json) :
    logText rt (events ++ events') = logText rt events ++ logText rt events' :=
  List.flatMap_append

structure IsEvent (taskId : PyStr) (event : Json) : Prop where
  form : ∃ timestamp eventType payload, event = eventJson timestamp taskId eventType payload ∧
    isValidEvidenceId eventType = true
  taskId_ok : isValidTaskId taskId = true
  intsFit : event.intsFit rt = true
  encodable : Encodable (eventText rt event)

theorem IsEvent.plain {taskId : PyStr} {event : Json} (h : IsEvent rt taskId event) : event.Plain := by
  obtain ⟨timestamp, eventType, payload, rfl, -⟩ := h.form
  exact eventJson_plain timestamp taskId eventType payload

theorem encodable_newline : Encodable [newline] := List.forall_mem_singleton.mpr rfl

theorem logText_encodable {taskId : PyStr} {events : List Json}
    (h : ∀ event ∈ events, IsEvent rt taskId event) : Encodable (logText rt events) := by
  intro c hc
  obtain ⟨event, hevent, hc⟩ := List.mem_flatMap.mp hc
  exact encodable_append.mpr ⟨(h event hevent).encodable, encodable_newline⟩ c hc

theorem eventLine_eq_ok {timestamp : Timestamp} {taskId eventType : PyStr} {payload : JsonObject}
    {line : Bytes} : eventLine rt timestamp taskId eventType payload.toPy = .ok line ↔
      (eventJson timestamp taskId eventType payload).intsFit rt = true ∧
        Encodable (eventText rt (eventJson timestamp taskId eventType payload)) ∧
        line = utf8Bytes (eventText rt (eventJson timestamp taskId eventType payload) ++ [newline]) := by
  unfold eventLine dumpsIn eventText
  rw [eventDict_eq]
  constructor
  · intro h
    obtain ⟨text, htext, hline⟩ := bind_eq_ok.mp h
    obtain ⟨j, hj, htext⟩ := bind_eq_ok.mp htext
    have hfit := intsFit_of_jsonOf rt hj
    rw [jsonOf_toPy rt hfit] at hj
    obtain rfl := Except.ok.inj hj
    obtain rfl := Except.ok.inj htext
    have henc := encodeUtf8_ok_iff.mp ⟨line, hline⟩
    rw [encodeUtf8_of henc] at hline
    exact ⟨hfit, (encodable_append.mp henc).1, (Except.ok.inj hline).symm⟩
  · rintro ⟨hfit, henc, rfl⟩
    rw [jsonOf_toPy rt hfit]
    exact encodeUtf8_of (encodable_append.mpr ⟨henc, encodable_newline⟩)

/-! ### the invariant -/

def IsArtifactFile (p : Path) (b : Bytes) : Prop :=
  ∃ (s : Save) (text : PyStr), s.IsJson ∧ s.artifact.Accepted ∧ s.text rt = .ok text ∧
    Encodable text ∧ p = s.artifact.path ∧ b = utf8Bytes text

/-- The tree after a run that has logged the events of `log` for each task. -/
structure Reached (t : FileTree) (log : PyStr → List Json) : Prop where
  files : ∀ p b, t.read? p = some b → IsArtifactFile rt p b ∨ (∃ taskId, p = eventsPath taskId) ∨
    ∃ q env, p = temporaryPath q env
  logs : ∀ taskId, (t.read? (eventsPath taskId)).getD .empty = utf8Bytes (logText rt (log taskId))
  events : ∀ taskId, ∀ event ∈ log taskId, IsEvent rt taskId event

theorem reached_empty : Reached rt .empty fun _ => [] where
  files p b h := absurd h (by rw [FileTree.read?_empty]; simp)
  logs _ := rfl
  events _ _ h := absurd h List.not_mem_nil

theorem eventsPath_ne_temporaryPath (taskId : PyStr) (q : Path) (env : WriteEnv) :
    eventsPath taskId ≠ temporaryPath q env := by
  intro e
  have hlast := congrArg List.getLast? e
  unfold eventsPath temporaryPath temporaryName at hlast
  rw [List.getLast?_concat, py_ofList, py_ofList] at hlast
  exact absurd (List.cons.inj (Option.some.inj hlast)).1 (by decide)

theorem eventsPath_injective : Function.Injective eventsPath := fun _ _ h => (List.cons.inj h).1

variable {rt}

theorem Reached.save {s : Save} (hs : s.IsJson) {t t' : FileTree} {log : PyStr → List Json}
    {result : Except PyExc Path} (h : Reached rt t log) (heffect : SaveEffect rt s t t' result) :
    Reached rt t' log := by
  cases heffect with
  | refused e => exact h
  | failed env e t' accepted free others =>
    refine ⟨fun p b hb => ?_, fun taskId => ?_, h.events⟩
    · by_cases hp : p = temporaryPath s.artifact.path env
      · exact Or.inr (Or.inr ⟨_, env, hp⟩)
      · rw [others p hp] at hb
        exact h.files p b hb
    · rw [others _ (eventsPath_ne_temporaryPath taskId _ env)]
      exact h.logs taskId
  | repeated text accepted text_eq encodable stored => exact h
  | created text t' accepted text_eq encodable free read =>
    refine ⟨fun p b hb => ?_, fun taskId => ?_, h.events⟩
    · rw [read] at hb
      by_cases hp : p = s.artifact.path
      · rw [if_pos hp] at hb
        exact Or.inl ⟨s, text, hs, accepted, text_eq, encodable, hp, (Option.some.inj hb).symm⟩
      · rw [if_neg hp] at hb
        exact h.files p b hb
    · rw [read, if_neg (Ne.symm (s.artifact.path_ne_eventsPath taskId))]
      exact h.logs taskId

theorem Reached.append {taskId eventType : PyStr} {timestamp : Timestamp} {payload : JsonObject}
    {t t' : FileTree} {log : PyStr → List Json} {result : Except PyExc Path} (h : Reached rt t log)
    (heffect : AppendEffect rt taskId eventType timestamp payload.toPy t t' result) :
    Reached rt t' fun id => log id ++
      (loggedBy taskId id (eventJson timestamp taskId eventType payload) result).toList := by
  cases heffect with
  | refused e =>
    simp only [loggedBy, Option.toList_none, List.append_nil]
    exact h
  | unwritable e taskId_ok eventType_ok line_eq =>
    simp only [loggedBy, Option.toList_none, List.append_nil]
    refine ⟨fun p b hb => ?_, fun id => ?_, h.events⟩
    · rw [read?_touch] at hb
      by_cases hp : p = eventsPath taskId
      · exact Or.inr (Or.inl ⟨taskId, hp⟩)
      · rw [if_neg hp] at hb
        exact h.files p b hb
    · rw [read?_touch]
      by_cases hid : eventsPath id = eventsPath taskId
      · rw [if_pos hid, ← hid]
        exact h.logs id
      · rw [if_neg hid]
        exact h.logs id
  | appended line taskId_ok eventType_ok line_eq =>
    obtain ⟨hfit, henc, rfl⟩ := (eventLine_eq_ok rt).mp line_eq
    simp only [loggedBy]
    refine ⟨fun p b hb => ?_, fun id => ?_, fun id event hevent => ?_⟩
    · unfold appendBytes at hb
      by_cases hp : p = eventsPath taskId
      · exact Or.inr (Or.inl ⟨taskId, hp⟩)
      · rw [FileTree.read?_write_other _ _ hp] at hb
        exact h.files p b hb
    · unfold appendBytes
      rw [logText_append, utf8Bytes_append (logText rt (log id)), ← h.logs id]
      by_cases hid : taskId = id
      · subst hid
        have hline : logText rt [eventJson timestamp taskId eventType payload] =
            eventText rt (eventJson timestamp taskId eventType payload) ++ [newline] :=
          List.append_nil _
        rw [FileTree.read?_write_self, Option.getD_some, if_pos rfl, Option.toList_some, hline]
      · rw [FileTree.read?_write_other _ _ fun e => hid (eventsPath_injective e).symm, if_neg hid,
          Option.toList_none]
        exact ByteArray.append_empty.symm
    · rcases List.mem_append.mp hevent with hold | hnew
      · exact h.events id event hold
      · by_cases hid : taskId = id
        · subst hid
          rw [if_pos rfl, Option.toList_some] at hnew
          rw [List.mem_singleton.mp hnew]
          exact ⟨⟨timestamp, eventType, payload, rfl, eventType_ok⟩, taskId_ok, hfit, henc⟩
        · rw [if_neg hid, Option.toList_none] at hnew
          exact absurd hnew List.not_mem_nil

theorem Reached.step {t : FileTree} {log : PyStr → List Json} (h : Reached rt t log) (op : JsonOp) :
    Reached rt (store.step rt t op.toOp).1 fun id => log id ++ (op.logged rt id).toList := by
  cases op with
  | save s json env =>
    simp only [JsonOp.logged, Option.toList_none, List.append_nil]
    exact h.save json (save_cases rt store rfl)
  | append taskId eventType timestamp payload =>
    have heffect : AppendEffect rt taskId eventType timestamp payload.toPy t _ _ :=
      appendEvent_cases rt rfl
    have hresult := appendEvent_result rt .empty t taskId eventType timestamp payload.toPy
    simp only [JsonOp.logged, hresult]
    exact h.append heffect

theorem Reached.run {t : FileTree} {log : PyStr → List Json} (h : Reached rt t log)
    (ops : List JsonOp) : Reached rt (store.run rt t (ops.map JsonOp.toOp)) fun id =>
      log id ++ ops.filterMap (JsonOp.logged rt id) := by
  induction ops generalizing t log with
  | nil =>
    simp only [List.filterMap_nil, List.append_nil]
    exact h
  | cons op ops ih =>
    have hrest := ih (h.step store op)
    have hlog : ∀ id, log id ++ (op.logged rt id).toList ++ ops.filterMap (JsonOp.logged rt id) =
        log id ++ (op :: ops).filterMap (JsonOp.logged rt id) := by
      intro id
      rw [List.append_assoc]
      congr 1
      rw [List.filterMap_cons]
      cases op.logged rt id with
      | none => rfl
      | some event => rfl
    simp only [hlog] at hrest
    exact hrest

variable (rt)

theorem reached_run (ops : List JsonOp) :
    Reached rt (store.run rt .empty (ops.map JsonOp.toOp)) fun id =>
      ops.filterMap (JsonOp.logged rt id) := by
  have h := (reached_empty rt).run store ops
  simp only [List.nil_append] at h
  exact h

end

end Tomtit
