import TomtitAgent.Memory.Notes
import TomtitAgent.Python.SmallRuntime
import TomtitAgent.Python.StrEnum

/-!
# `FileMemoryStore`

The records are lines of `records.jsonl`, each the JSON text of `to_dict`.  A write appends a line; a
read loads the whole file and keeps the last line of every id, as far as `updated_at` does not go back;
an update or a deletion writes the file anew.  There is no index: the notes are found among the records.

* `MemoryRecord.toDict`, `MemoryRecord.fromDict`   the row of a record;
* `rowBytes`, `readJsonl`   the file as bytes;
* `loadLatestRecords`   the records of the file by id;
* `FileMemoryStore.call`   the method calls.

`fromDict` gives nothing where the source raises, and for a row whose values have other types than the
fields of a record; `FileRuntime.rowError` is the exception for such a row.  A message ends where the
source appends the text of a decoder's exception.
-/

namespace Tomtit
open Py

instance : StrEnum MemoryType where
  clsName := py "MemoryType"
  members := [.note, .fact, .preference, .decision, .rule, .taskSummary, .source, .lesson, .projectContext]
  value := MemoryType.value
  mem_members a := by cases a <;> simp
  value_inj a b h := by
    cases a <;> cases b <;> simp [MemoryType.value] at h ⊢
  value_ascii a := by cases a <;> exact ascii_lit _ (by decide)

def SourceType.value : SourceType → PyStr
  | .web => py "web"
  | .memory => py "memory"
  | .tool => py "tool"
  | .user => py "user"
  | .agent => py "agent"
  | .system => py "system"
  | .session => py "session"
  | .workspace => py "workspace"
  | .skill => py "skill"

instance : StrEnum SourceType where
  clsName := py "SourceType"
  members := [.web, .memory, .tool, .user, .agent, .system, .session, .workspace, .skill]
  value := SourceType.value
  mem_members a := by cases a <;> simp
  value_inj a b h := by
    cases a <;> cases b <;> simp [SourceType.value] at h ⊢
  value_ascii a := by cases a <;> exact ascii_lit _ (by decide)

structure FileRuntime extends MemoryRuntime where
  json : Runtime
  /-- `datetime.isoformat` and `datetime.fromisoformat` of an aware `datetime` -/
  isoformat : Time → PyStr
  fromisoformat : PyStr → Option Time
  fromisoformat_isoformat : ∀ t, fromisoformat (isoformat t) = some t
  isoformat_ascii : ∀ t, Ascii (isoformat t)
  /-- the text of the path of `records.jsonl` -/
  recordsPath : PyStr
  /-- the exception of `MemoryRecord.from_dict` -/
  rowError : Json → PyExc

section
variable (fr : FileRuntime)

/-! ### rows -/

def MemoryRecord.toDict (r : MemoryRecord) : PyVal :=
  .record
    [(py "id", .str r.id),
     (py "content", .str r.content),
     (py "type", .str r.type.value),
     (py "user_id", .optStr r.userId),
     (py "session_id", .optStr r.sessionId),
     (py "task_id", .optStr r.taskId),
     (py "run_id", .optStr r.runId),
     (py "source_event_id", .optStr r.sourceEventId),
     (py "tags", .strList r.tags),
     (py "importance", .float r.importance.float),
     (py "confidence", .float r.confidence.float),
     (py "source", .str r.source.value),
     (py "created_at", .str (fr.isoformat r.createdAt)),
     (py "updated_at", .str (fr.isoformat r.updatedAt)),
     (py "deleted_at", .optStr (r.deletedAt.map fr.isoformat)),
     (py "metadata", .record r.metadata.dict.items)]

/-- `data.get(key)` of a `str | None` field -/
def rowText? (data : List (PyStr × Json)) (key : PyStr) : Option (Option PyStr) :=
  match assoc data key with
  | none => some none
  | some .null => some none
  | some (.str s) => some (some s)
  | some _ => none

/-- A list of strings, `none` if another value is in it. -/
def jsonTexts : List Json → Option (List PyStr)
  | [] => some []
  | .str s :: xs => (jsonTexts xs).map (s :: ·)
  | _ :: _ => none

/-- `list(data.get("tags") or [])` -/
def rowTags (data : List (PyStr × Json)) : Option (List PyStr) :=
  match assoc data (py "tags") with
  | none => some []
  | some .null => some []
  | some (.arr xs) => jsonTexts xs
  | some _ => none

/-- `float(data.get(key, default))` -/
def rowWeight (data : List (PyStr × Json)) (key : PyStr) (fallback : Weight) : Option Weight :=
  match assoc data key with
  | none => some fallback
  | some (.float x) => if h : x.isNan = false then some ⟨x, h⟩ else none
  | some _ => none

/-- `cls(data.get(key, default))` for an enum class -/
def rowMember {α : Type} [StrEnum α] (data : List (PyStr × Json)) (key : PyStr) (fallback : α) : Option α :=
  match assoc data key with
  | none => some fallback
  | some (.str s) => StrEnum.ofValue? s
  | some _ => none

/-- `dict(data.get("metadata") or {})` -/
def rowMetadata (data : List (PyStr × Json)) : Option Metadata :=
  match assoc data (py "metadata") with
  | none => some ⟨Dict.empty⟩
  | some .null => some ⟨Dict.empty⟩
  | some (.obj kvs) => some ⟨Dict.ofItems (kvs.map fun kv => (kv.1, JsonLoad.toPy kv.2))⟩
  | some _ => none

def MemoryRecord.fromDict : Json → Option MemoryRecord
  | .obj data => do
    let id ← (assoc data (py "id")).map fun v => fr.str (JsonLoad.toPy v)
    let content ← (assoc data (py "content")).map fun v => fr.str (JsonLoad.toPy v)
    let type ← rowMember data (py "type") MemoryType.note
    let userId ← rowText? data (py "user_id")
    let sessionId ← rowText? data (py "session_id")
    let taskId ← rowText? data (py "task_id")
    let runId ← rowText? data (py "run_id")
    let sourceEventId ← rowText? data (py "source_event_id")
    let tags ← rowTags data
    let importance ← rowWeight data (py "importance") weight05
    let confidence ← rowWeight data (py "confidence") weight1
    let source ← rowMember data (py "source") SourceType.user
    let createdAt ← (← rowText? data (py "created_at")).bind fr.fromisoformat
    let updatedAt ← (← rowText? data (py "updated_at")).bind fr.fromisoformat
    let deletedAt ← (← rowText? data (py "deleted_at")).mapM fr.fromisoformat
    let metadata ← rowMetadata data
    return { id, content, type, userId, sessionId, taskId, runId, sourceEventId, tags, importance,
             confidence, source, createdAt, updatedAt, deletedAt, metadata }
  | _ => none

/-! ### the file -/

/-- `records.jsonl`, if it is there. -/
structure FileMemoryStore where
  recordsFile : Option Bytes

/-- The line of a record: `json.dumps(record.to_dict(), ensure_ascii=False) + "\n"`, encoded. -/
def rowBytes (r : MemoryRecord) : Except PyExc Bytes := do
  let text ← dumpsIn fr.json .spaced (r.toDict fr)
  encodeUtf8 (text ++ [10])

def invalidJsonl (lineNumber : Nat) : PyExc :=
  valueError (py "Invalid JSONL at " ++ fr.recordsPath ++ py ":" ++ natText lineNumber ++ py ": ")

/-- The rows of the lines from line `n` on; blank lines are passed over. -/
def readRows : Nat → List PyStr → Except PyExc (List Json)
  | _, [] => .ok []
  | n, line :: lines =>
    if strip line = [] then readRows (n + 1) lines
    else match JsonLoad.loads fr.json (strip line) with
      | none => .error (invalidJsonl fr n)
      | some row => do
        let rows ← readRows (n + 1) lines
        return row :: rows

def rowRecord (row : Json) : Except PyExc MemoryRecord :=
  match MemoryRecord.fromDict fr row with
  | none => .error (fr.rowError row)
  | some r => .ok r

/-- `if current is None or record.updated_at >= current.updated_at: records[record.id] = record` -/
def keepLatest (records : Dict PyStr MemoryRecord) (r : MemoryRecord) : Dict PyStr MemoryRecord :=
  match records.get? r.id with
  | none => records.set r.id r
  | some current => if current.updatedAt ≤ r.updatedAt then records.set r.id r else records

def latestOf (rs : List MemoryRecord) : Dict PyStr MemoryRecord := rs.foldl keepLatest Dict.empty

def liveRecord (records : Dict PyStr MemoryRecord) (memoryId : PyStr) : Option MemoryRecord :=
  match records.get? memoryId with
  | none => none
  | some r => if r.isDeleted then none else some r

namespace FileMemoryStore

/-- `_read_jsonl` -/
def readJsonl (f : FileMemoryStore) : Except PyExc (List Json) :=
  match f.recordsFile with
  | none => .ok []
  | some b => match decodeText b with
    | none => .error (unicodeDecodeError [])
    | some text => readRows fr 1 (textLines text)

def rows (f : FileMemoryStore) : Except PyExc (List MemoryRecord) := do
  let rows ← f.readJsonl fr
  rows.mapM (rowRecord fr)

/-- `_load_latest_records` -/
def loadLatestRecords (f : FileMemoryStore) : Except PyExc (Dict PyStr MemoryRecord) := do
  let rs ← f.rows fr
  return latestOf rs

/-- `_append_jsonl`: opening the file makes it, also when the row cannot be written. -/
def appendJsonl (r : MemoryRecord) (f : FileMemoryStore) : Except PyExc Unit × FileMemoryStore :=
  let old := f.recordsFile.getD .empty
  match rowBytes fr r with
  | .error e => (.error e, ⟨some old⟩)
  | .ok line => (.ok (), ⟨some (old ++ line)⟩)

/-- `_rewrite_records`: a temporary file that replaces the old one when it is complete. -/
def rewriteRecords (rs : List MemoryRecord) (f : FileMemoryStore) : Except PyExc Unit × FileMemoryStore :=
  match rs.mapM (rowBytes fr) with
  | .error e => (.error e, f)
  | .ok lines => (.ok (), ⟨some (lines.foldl (· ++ ·) .empty)⟩)

def write (now : Time) (r : MemoryRecord) (f : FileMemoryStore) :
    Except PyExc MemoryRecord × FileMemoryStore :=
  let done := f.appendJsonl fr (r.markUpdated now)
  (done.1.map fun _ => r.markUpdated now, done.2)

def get (memoryId : PyStr) (f : FileMemoryStore) : Except PyExc (Option MemoryRecord) := do
  let records ← f.loadLatestRecords fr
  return liveRecord records memoryId

/-- The record of an id is replaced, in a file that is written anew. -/
def replaceRecord (memoryId : PyStr) (change : MemoryRecord → MemoryRecord) (f : FileMemoryStore) :
    Except PyExc (Option MemoryRecord) × FileMemoryStore :=
  match f.loadLatestRecords fr with
  | .error e => (.error e, f)
  | .ok records => match liveRecord records memoryId with
    | none => (.ok none, f)
    | some r =>
      let done := f.rewriteRecords fr (records.set memoryId (change r)).values
      (done.1.map fun _ => some (change r), done.2)

/-- `update`.  The conversions of `_apply_patch` leave a `MemoryType` and a `SourceType` as they are. -/
def update (now : Time) (memoryId : PyStr) (patch : List PatchField) (f : FileMemoryStore) :
    Except PyExc (Option MemoryRecord) × FileMemoryStore :=
  f.replaceRecord fr memoryId fun r => (r.applyPatch patch).markUpdated now

def delete (now : Time) (memoryId : PyStr) (reason : Option PyStr) (f : FileMemoryStore) :
    Except PyExc Bool × FileMemoryStore :=
  let done := f.replaceRecord fr memoryId (InMemoryStore.tombstone now reason)
  (done.1.map Option.isSome, done.2)

def listAll (includeDeleted : Bool) (f : FileMemoryStore) : Except PyExc (List MemoryRecord) := do
  let records ← f.loadLatestRecords fr
  return sortDescending MemoryRecord.updatedAt
    (if includeDeleted then records.values else records.values.filter fun r => !r.isDeleted)

def search (q : MemoryQuery) (f : FileMemoryStore) : Except PyExc (List MemoryRecord) := do
  let rs ← f.listAll fr q.includeDeleted
  return sliceTo q.limit (sortDescending MemoryRecord.rank
    (rs.filter (InMemoryStore.admits fr.toMemoryRuntime q)))

/-- The test of `_latest_note_by_name` on a record. -/
def isCandidate (name : PyStr) (r : MemoryRecord) : Bool :=
  r.type = .note && InMemoryStore.noteName fr.toMemoryRuntime r = some name && !r.isDeleted

/-- `_latest_note_by_name` -/
def latestNoteByName (name : PyStr) (f : FileMemoryStore) : Except PyExc (Option MemoryRecord) :=
  if strip name = [] then .ok none
  else do
    let rs ← f.listAll fr false
    return (sortDescending MemoryRecord.updatedAt (rs.filter (isCandidate fr (strip name)))).head?

def writeNote (m : Readings) (name content : PyStr) (f : FileMemoryStore) :
    Except PyExc MemoryRecord × FileMemoryStore :=
  if strip name = [] then (.error emptyNoteName, f)
  else match f.latestNoteByName fr (strip name) with
    | .error e => (.error e, f)
    | .ok (some existing) =>
      let done := f.update fr (m.now 0) existing.id [.content content]
      (done.1.map fun r => r.getD existing, done.2)
    | .ok none => f.write fr (m.now 2) (newNote m (strip name) content)

def readNote (name : PyStr) (f : FileMemoryStore) : Except PyExc (Option PyStr) := do
  let note ← f.latestNoteByName fr (strip name)
  return note.map MemoryRecord.content

def listNotes (f : FileMemoryStore) : Except PyExc (List PyStr) := do
  let rs ← f.listAll fr false
  return sortedSet ((rs.filter fun r => r.type = .note).filterMap
    (InMemoryStore.noteName fr.toMemoryRuntime))

def call (m : Readings) (f : FileMemoryStore) : Call → Except PyExc Reply × FileMemoryStore
  | .write r => ((f.write fr (m.now 0) r).1.map .record, (f.write fr (m.now 0) r).2)
  | .update k patch => ((f.update fr (m.now 0) k patch).1.map .found, (f.update fr (m.now 0) k patch).2)
  | .delete k why => ((f.delete fr (m.now 0) k why).1.map .deleted, (f.delete fr (m.now 0) k why).2)
  | .writeNote name text => ((f.writeNote fr m name text).1.map .record, (f.writeNote fr m name text).2)
  | .get k => ((f.get fr k).map .found, f)
  | .search q => ((f.search fr q).map .records, f)
  | .listAll deleted => ((f.listAll fr deleted).map .records, f)
  | .readNote name => ((f.readNote fr name).map .content, f)
  | .listNotes => ((f.listNotes fr).map .names, f)

/-- `FileMemoryStore(memory_dir)` of a directory without records. -/
def empty : FileMemoryStore := ⟨none⟩

end FileMemoryStore
/-! ### what a file holds -/

theorem readRows_start {n m : Nat} {lines : List PyStr} {rows : List Json}
    (h : readRows fr n lines = .ok rows) : readRows fr m lines = .ok rows := by
  induction lines generalizing n m rows with
  | nil => exact h
  | cons line lines ih =>
    rw [readRows] at h ⊢
    by_cases hline : strip line = []
    · rw [if_pos hline] at h ⊢
      exact ih h
    · rw [if_neg hline] at h ⊢
      cases e : JsonLoad.loads fr.json (strip line) with
      | none =>
        rw [e] at h
        exact absurd h (by simp)
      | some row =>
        rw [e] at h
        obtain ⟨rest, hrest, hrows⟩ := bind_eq_ok.mp h
        exact bind_eq_ok.mpr ⟨rest, ih hrest, hrows⟩

theorem readRows_append {n m : Nat} {lines lines' : List PyStr} {rows rows' : List Json}
    (h : readRows fr n lines = .ok rows) (h' : readRows fr m lines' = .ok rows') :
    readRows fr n (lines ++ lines') = .ok (rows ++ rows') := by
  induction lines generalizing n rows with
  | nil =>
    rw [← Except.ok.inj h]
    exact readRows_start fr h'
  | cons line lines ih =>
    rw [List.cons_append, readRows]
    rw [readRows] at h
    by_cases hline : strip line = []
    · rw [if_pos hline] at h ⊢
      exact ih h
    · rw [if_neg hline] at h ⊢
      cases e : JsonLoad.loads fr.json (strip line) with
      | none =>
        rw [e] at h
        exact absurd h (by simp)
      | some row =>
        rw [e] at h
        obtain ⟨rest, hrest, hrows⟩ := bind_eq_ok.mp h
        refine bind_eq_ok.mpr ⟨rest ++ rows', ih hrest, ?_⟩
        rw [← Except.ok.inj hrows]
        rfl

def Ended (text : PyStr) : Prop := text = [] ∨ ∃ t, text = t ++ [10]

def TextHolds (text : PyStr) (rs : List MemoryRecord) : Prop :=
  Encodable text ∧ Ended text ∧ ∃ rows, readRows fr 1 (textLines (universalNewlines text)) = .ok rows ∧
    rows.mapM (rowRecord fr) = .ok rs

theorem TextHolds.nil : TextHolds fr [] [] :=
  ⟨fun _ h => absurd h List.not_mem_nil, .inl rfl, [], rfl, rfl⟩

theorem TextHolds.append {text text' : PyStr} {rs rs' : List MemoryRecord} (h : TextHolds fr text rs)
    (h' : TextHolds fr text' rs') : TextHolds fr (text ++ text') (rs ++ rs') := by
  obtain ⟨henc, hend, rows, hrows, hrs⟩ := h
  obtain ⟨henc', hend', rows', hrows', hrs'⟩ := h'
  refine ⟨encodable_append.mpr ⟨henc, henc'⟩, ?_, rows ++ rows', ?_, ?_⟩
  · rcases hend' with rfl | ⟨t, rfl⟩
    · rw [List.append_nil]
      exact hend
    · exact .inr ⟨text ++ t, (List.append_assoc _ _ _).symm⟩
  · rcases hend with rfl | ⟨t, rfl⟩
    · rw [List.nil_append, ← Except.ok.inj (show Except.ok [] = Except.ok rows from hrows)]
      exact hrows'
    · rw [List.append_assoc, List.singleton_append, fileLines_append]
      exact readRows_append fr hrows hrows'
  · rw [List.mapM_append, hrs, hrs']
    rfl

def FileMemoryStore.Holds (f : FileMemoryStore) (rs : List MemoryRecord) : Prop :=
  ∃ text, f.recordsFile.getD .empty = utf8Bytes text ∧ TextHolds fr text rs

theorem FileMemoryStore.Holds.rows {f : FileMemoryStore} {rs : List MemoryRecord} (h : f.Holds fr rs) :
    f.rows fr = .ok rs := by
  obtain ⟨text, hbytes, henc, -, js, hjs, hrs⟩ := h
  unfold FileMemoryStore.rows FileMemoryStore.readJsonl
  cases e : f.recordsFile with
  | none =>
    rw [e] at hbytes
    have htext : text = [] := by
      refine encodeUtf8_inj (encodeUtf8_of henc) ?_
      rw [← hbytes]
      exact encodeUtf8_of fun _ h => absurd h List.not_mem_nil
    rw [htext] at hjs
    rw [← Except.ok.inj hjs] at hrs
    exact hrs
  | some b =>
    rw [e] at hbytes
    rw [show b = utf8Bytes text from hbytes]
    dsimp only
    rw [decodeText_utf8 henc]
    dsimp only
    rw [hjs]
    exact hrs

/-- A record is storable if a file with its line alone holds it: everything in it can be written as
JSON and is read back equal. -/
def Storable (r : MemoryRecord) : Prop :=
  ∃ line, rowBytes fr r = .ok line ∧ (FileMemoryStore.mk (some line)).rows fr = .ok [r]

theorem Storable.text {r : MemoryRecord} (h : Storable fr r) :
    ∃ text, rowBytes fr r = .ok (utf8Bytes text) ∧ TextHolds fr text [r] := by
  obtain ⟨line, hline, hrows⟩ := h
  obtain ⟨t, -, ht⟩ := bind_eq_ok.mp hline
  have henc : Py.Encodable (t ++ [10]) := encodeUtf8_ok_iff.mp ⟨line, ht⟩
  rw [encodeUtf8_of henc] at ht
  refine ⟨t ++ [10], ?_, henc, .inr ⟨t, rfl⟩, ?_⟩
  · rw [hline, ← Except.ok.inj ht]
  · unfold FileMemoryStore.rows FileMemoryStore.readJsonl at hrows
    rw [← Except.ok.inj ht] at hrows
    dsimp only at hrows
    rw [decodeText_utf8 henc] at hrows
    obtain ⟨rows, h1, h2⟩ := bind_eq_ok.mp hrows
    exact ⟨rows, h1, h2⟩

theorem FileMemoryStore.Holds.appendJsonl {f : FileMemoryStore} {rs : List MemoryRecord}
    (h : f.Holds fr rs) {r : MemoryRecord} (hr : Storable fr r) :
    (f.appendJsonl fr r).1 = .ok () ∧ (f.appendJsonl fr r).2.Holds fr (rs ++ [r]) := by
  obtain ⟨text, hbytes, htext⟩ := h
  obtain ⟨line, hline, hrow⟩ := hr.text
  unfold FileMemoryStore.appendJsonl
  rw [hline]
  refine ⟨rfl, text ++ line, ?_, htext.append fr hrow⟩
  show f.recordsFile.getD .empty ++ utf8Bytes line = _
  rw [hbytes, utf8Bytes_append]

theorem rewriteRecords_holds {rs : List MemoryRecord} (h : ∀ r ∈ rs, Storable fr r)
    (f : FileMemoryStore) :
    (f.rewriteRecords fr rs).1 = .ok () ∧ (f.rewriteRecords fr rs).2.Holds fr rs := by
  have hall : ∀ (rs : List MemoryRecord), (∀ r ∈ rs, Storable fr r) → ∃ texts : List PyStr,
      rs.mapM (rowBytes fr) = .ok (texts.map utf8Bytes) ∧ TextHolds fr texts.flatten rs := by
    intro rs
    induction rs with
    | nil => exact fun _ => ⟨[], rfl, TextHolds.nil fr⟩
    | cons r rs ih =>
      intro h
      obtain ⟨text, htext, hholds⟩ := (h r List.mem_cons_self).text
      obtain ⟨texts, htexts, hrest⟩ := ih fun x hx => h x (List.mem_cons_of_mem r hx)
      refine ⟨text :: texts, ?_, hholds.append fr hrest⟩
      rw [List.mapM_cons, htext, htexts]
      rfl
  have hfold : ∀ (texts : List PyStr) (pre : PyStr),
      (texts.map utf8Bytes).foldl (· ++ ·) (utf8Bytes pre) = utf8Bytes (pre ++ texts.flatten) := by
    intro texts
    induction texts with
    | nil =>
      intro pre
      rw [List.flatten_nil, List.append_nil]
      rfl
    | cons t texts ih =>
      intro pre
      rw [List.map_cons, List.foldl_cons, ← utf8Bytes_append, ih, List.flatten_cons, List.append_assoc]
  obtain ⟨texts, htexts, hholds⟩ := hall rs h
  unfold FileMemoryStore.rewriteRecords
  rw [htexts]
  exact ⟨rfl, texts.flatten, hfold texts [], hholds⟩

/-! ### the latest record of each id -/

theorem keepLatest_of_le {records : Dict PyStr MemoryRecord} {r : MemoryRecord}
    (h : ∀ current, records.get? r.id = some current → current.updatedAt ≤ r.updatedAt) :
    keepLatest records r = records.set r.id r := by
  unfold keepLatest
  cases e : records.get? r.id with
  | none => rfl
  | some current => exact if_pos (h current e)

theorem latestOf_values (s : InMemoryStore) : latestOf s.records.values = s.records := by
  have hfold : ∀ (kvs : List (PyStr × MemoryRecord)) (d : Dict PyStr MemoryRecord),
      (∀ kv ∈ kvs, kv.1 = kv.2.id) → ((d.items ++ kvs).map Prod.fst).Nodup →
      ((kvs.map Prod.snd).foldl keepLatest d).items = d.items ++ kvs := by
    intro kvs
    induction kvs with
    | nil => exact fun d _ _ => (List.append_nil _).symm
    | cons kv kvs ih =>
      intro d hkeyed hnd
      obtain ⟨k, r⟩ := kv
      obtain rfl : k = r.id := hkeyed (k, r) List.mem_cons_self
      have hnew : r.id ∉ d.items.map Prod.fst := by
        rw [List.map_append, List.map_cons] at hnd
        exact fun h => (List.nodup_append.mp hnd).2.2 r.id h r.id List.mem_cons_self rfl
      have hset : (keepLatest d r).items = d.items ++ [(r.id, r)] := by
        rw [keepLatest_of_le]
        · exact upsert_of_notMem hnew r
        · intro current e
          exact absurd (assoc_isSome_iff.mp ⟨current, e⟩) hnew
      rw [List.map_cons, List.foldl_cons, ih _ (fun x hx => hkeyed x (List.mem_cons_of_mem _ hx)), hset]
      · rw [List.append_assoc, List.singleton_append]
      · rw [hset, List.append_assoc, List.singleton_append]
        exact hnd
  have h := hfold s.records.items Dict.empty s.keyed s.records.nodup
  have hitems : (latestOf s.records.values).items = s.records.items := h
  cases e : latestOf s.records.values with
  | mk items nodup =>
    rw [e] at hitems
    cases e' : s.records with
    | mk items' nodup' =>
      rw [e'] at hitems
      cases hitems
      rfl

/-! ### storable records -/

theorem storable_of_row {r : MemoryRecord} {kvs : List (PyStr × Json)}
    (hrow : r.toDict fr = JsonLoad.toPy (.obj kvs)) (hp : (Json.obj kvs).Plain)
    (hf : (Json.obj kvs).intsFit fr.json = true) (hs : ∀ s ∈ (Json.obj kvs).strings, Py.Encodable s)
    (hr : MemoryRecord.fromDict fr (.obj kvs) = some r) : Storable fr r := by
  let text := (Json.obj kvs).textIn fr.json .spaced 0
  have henc : Py.Encodable (text ++ [10]) := by
    refine encodable_append.mpr ⟨JsonLoad.encodable_spaced fr.json hp hs, ?_⟩
    exact List.forall_mem_singleton.mpr rfl
  have hline : rowBytes fr r = .ok (utf8Bytes (text ++ [10])) := by
    unfold rowBytes dumpsIn
    rw [hrow, jsonOf_toPy fr.json hf]
    exact encodeUtf8_of henc
  refine ⟨_, hline, ?_⟩
  have hone := JsonLoad.spaced_oneLine fr.json hp
  have hplain : (13 : CodePoint) ∉ text ++ [10] := by
    intro h
    rcases List.mem_append.mp h with h | h
    · exact (hone _ h).2 rfl
    · exact absurd (List.mem_singleton.mp h) (by decide)
  -- the line begins and ends with a brace
  obtain ⟨pre, hbraces⟩ := JsonLoad.textIn_obj fr.json .spaced 0 kvs
  have hstrip : strip text = text := by
    refine strip_of_edges ?_ ?_
    · show (List.head? ((Json.obj kvs).textIn fr.json .spaced 0)).any isSpace = false
      rw [hbraces]
      rfl
    · show (List.getLast? ((Json.obj kvs).textIn fr.json .spaced 0)).any isSpace = false
      rw [hbraces, ← List.cons_append, List.getLast?_append_of_ne_nil _ (List.cons_ne_nil _ _)]
      rfl
  have hne : text ≠ [] := by
    show (Json.obj kvs).textIn fr.json .spaced 0 ≠ []
    rw [hbraces]
    exact List.cons_ne_nil _ _
  unfold FileMemoryStore.rows FileMemoryStore.readJsonl
  dsimp only
  rw [decodeText_utf8 henc, universalNewlines_eq_self hplain]
  dsimp only
  rw [textLines_line fun h => (hone _ h).1 rfl, readRows, hstrip, if_neg hne,
    JsonLoad.loads_textIn fr.json .spaced hp hf]
  show [Json.obj kvs].mapM (rowRecord fr) = _
  have hrecord : rowRecord fr (.obj kvs) = .ok r := by
    unfold rowRecord
    rw [hr]
  rw [List.mapM_cons, hrecord]
  rfl

def jsonText : Option PyStr → Json
  | none => .null
  | some s => .str s

/-- The row of a record with the metadata `md`. -/
def rowItems (r : MemoryRecord) (md : List (PyStr × Json)) : List (PyStr × Json) :=
  [(py "id", .str r.id),
   (py "content", .str r.content),
   (py "type", .str r.type.value),
   (py "user_id", jsonText r.userId),
   (py "session_id", jsonText r.sessionId),
   (py "task_id", jsonText r.taskId),
   (py "run_id", jsonText r.runId),
   (py "source_event_id", jsonText r.sourceEventId),
   (py "tags", .arr (r.tags.map .str)),
   (py "importance", .float r.importance.float),
   (py "confidence", .float r.confidence.float),
   (py "source", .str r.source.value),
   (py "created_at", .str (fr.isoformat r.createdAt)),
   (py "updated_at", .str (fr.isoformat r.updatedAt)),
   (py "deleted_at", jsonText (r.deletedAt.map fr.isoformat)),
   (py "metadata", .obj md)]

/-- Metadata `md` that is plain JSON, finite weights, and texts without lone surrogates. -/
structure PlainRecord (r : MemoryRecord) (md : List (PyStr × Json)) : Prop where
  metadata : r.metadata.dict.items = md.map fun kv => (kv.1, JsonLoad.toPy kv.2)
  plain : (Json.obj md).Plain
  fits : (Json.obj md).intsFit fr.json = true
  strings : ∀ s ∈ (Json.obj md).strings, Py.Encodable s
  importance : r.importance.float.isFinite = true
  confidence : r.confidence.float.isFinite = true
  texts : ∀ s ∈ r.id :: r.content :: r.tags ++ (r.userId.toList ++ r.sessionId.toList ++
    r.taskId.toList ++ r.runId.toList ++ r.sourceEventId.toList), Py.Encodable s

theorem jsonTexts_str (xs : List PyStr) : jsonTexts (xs.map .str) = some xs := by
  induction xs with
  | nil => rfl
  | cons x xs ih =>
    rw [List.map_cons, jsonTexts, ih]
    rfl

theorem rowText?_jsonText {data : List (PyStr × Json)} {key : PyStr} {o : Option PyStr}
    (h : assoc data key = some (jsonText o)) : rowText? data key = some o := by
  unfold rowText?
  rw [h]
  cases o <;> rfl

theorem rowWeight_float {data : List (PyStr × Json)} {key : PyStr} {fallback x : Weight}
    (h : assoc data key = some (.float x.float)) : rowWeight data key fallback = some x := by
  unfold rowWeight
  rw [h]
  dsimp only
  rw [dif_pos x.number]

theorem rowMember_value {α : Type} [StrEnum α] {data : List (PyStr × Json)} {key : PyStr} {fallback a : α}
    (h : assoc data key = some (.str (StrEnum.value a))) : rowMember data key fallback = some a := by
  unfold rowMember
  rw [h]
  exact StrEnum.ofValue?_eq_some.mpr rfl

theorem rowMetadata_obj {data md : List (PyStr × Json)} {m : Metadata}
    (h : assoc data (py "metadata") = some (.obj md))
    (hm : m.dict.items = md.map fun kv => (kv.1, JsonLoad.toPy kv.2)) : rowMetadata data = some m := by
  unfold rowMetadata
  rw [h]
  dsimp only
  rw [← hm, Dict.ofItems_items]

theorem fromDict_rowItems {r : MemoryRecord} {md : List (PyStr × Json)}
    (hm : r.metadata.dict.items = md.map fun kv => (kv.1, JsonLoad.toPy kv.2)) :
    MemoryRecord.fromDict fr (.obj (rowItems fr r md)) = some r := by
  have hid : assoc (rowItems fr r md) (py "id") = some (.str r.id) := by simp [rowItems, assoc_cons]
  have hcontent : assoc (rowItems fr r md) (py "content") = some (.str r.content) := by
    simp [rowItems, assoc_cons]
  have htype : assoc (rowItems fr r md) (py "type") = some (.str r.type.value) := by
    simp [rowItems, assoc_cons]
  have huser : assoc (rowItems fr r md) (py "user_id") = some (jsonText r.userId) := by
    simp [rowItems, assoc_cons]
  have hsession : assoc (rowItems fr r md) (py "session_id") = some (jsonText r.sessionId) := by
    simp [rowItems, assoc_cons]
  have htask : assoc (rowItems fr r md) (py "task_id") = some (jsonText r.taskId) := by
    simp [rowItems, assoc_cons]
  have hrun : assoc (rowItems fr r md) (py "run_id") = some (jsonText r.runId) := by
    simp [rowItems, assoc_cons]
  have hevent : assoc (rowItems fr r md) (py "source_event_id") = some (jsonText r.sourceEventId) := by
    simp [rowItems, assoc_cons]
  have htags : assoc (rowItems fr r md) (py "tags") = some (.arr (r.tags.map .str)) := by
    simp [rowItems, assoc_cons]
  have himportance : assoc (rowItems fr r md) (py "importance") = some (.float r.importance.float) := by
    simp [rowItems, assoc_cons]
  have hconfidence : assoc (rowItems fr r md) (py "confidence") = some (.float r.confidence.float) := by
    simp [rowItems, assoc_cons]
  have hsource : assoc (rowItems fr r md) (py "source") = some (.str r.source.value) := by
    simp [rowItems, assoc_cons]
  have hcreated : assoc (rowItems fr r md) (py "created_at") =
      some (jsonText (some (fr.isoformat r.createdAt))) := by simp [rowItems, assoc_cons, jsonText]
  have hupdated : assoc (rowItems fr r md) (py "updated_at") =
      some (jsonText (some (fr.isoformat r.updatedAt))) := by simp [rowItems, assoc_cons, jsonText]
  have hdeleted : assoc (rowItems fr r md) (py "deleted_at") =
      some (jsonText (r.deletedAt.map fr.isoformat)) := by simp [rowItems, assoc_cons]
  have hmetadata : assoc (rowItems fr r md) (py "metadata") = some (.obj md) := by
    simp [rowItems, assoc_cons]
  have hrowTags : rowTags (rowItems fr r md) = some r.tags := by
    unfold rowTags
    rw [htags]
    exact jsonTexts_str r.tags
  have hdel : (r.deletedAt.map fr.isoformat).mapM fr.fromisoformat = some r.deletedAt := by
    cases r.deletedAt with
    | none => rfl
    | some t => simp [Option.mapM, fr.fromisoformat_isoformat]
  have hrowType : rowMember (rowItems fr r md) (py "type") MemoryType.note = some r.type :=
    rowMember_value (a := r.type) htype
  have hrowSource : rowMember (rowItems fr r md) (py "source") SourceType.user = some r.source :=
    rowMember_value (a := r.source) hsource
  unfold MemoryRecord.fromDict
  simp only [hid, hcontent, Option.map_some, JsonLoad.toPy, fr.str_str, hrowType,
    rowText?_jsonText huser, rowText?_jsonText hsession, rowText?_jsonText htask, rowText?_jsonText hrun,
    rowText?_jsonText hevent, hrowTags, rowWeight_float himportance, rowWeight_float hconfidence,
    hrowSource, rowText?_jsonText hcreated, rowText?_jsonText hupdated,
    rowText?_jsonText hdeleted, rowMetadata_obj hmetadata hm, Option.bind_eq_bind, Option.bind_some,
    fr.fromisoformat_isoformat, hdel]
  rfl

theorem toDict_rowItems {r : MemoryRecord} {md : List (PyStr × Json)}
    (hm : r.metadata.dict.items = md.map fun kv => (kv.1, JsonLoad.toPy kv.2)) :
    r.toDict fr = JsonLoad.toPy (.obj (rowItems fr r md)) := by
  have htags : ∀ xs : List PyStr, JsonLoad.toPyList (xs.map .str) = xs.map .str := by
    intro xs
    induction xs with
    | nil => rfl
    | cons x xs ih =>
      rw [List.map_cons, JsonLoad.toPyList, ih]
      rfl
  have hopt : ∀ o, JsonLoad.toPy (jsonText o) = .optStr o := fun o => by cases o <;> rfl
  have hitems : JsonLoad.toPyItems md = r.metadata.dict.items.map fun kv => (.str kv.1, kv.2) := by
    rw [JsonLoad.toPyItems_eq, hm, List.map_map]
    rfl
  unfold MemoryRecord.toDict rowItems
  simp only [JsonLoad.toPy, JsonLoad.toPyItems, hopt, htags, hitems, PyVal.record, PyVal.strList,
    List.map_cons, List.map_nil]

theorem plain_jsonText (o : Option PyStr) :
    (jsonText o).Plain ∧ (jsonText o).intsFit fr.json = true ∧ (jsonText o).strings = o.toList := by
  cases o with
  | none => exact ⟨.null, rfl, rfl⟩
  | some s => exact ⟨.str s, rfl, rfl⟩

theorem plain_texts (xs : List PyStr) : (Json.arr (xs.map .str)).Plain ∧
    (Json.arr (xs.map .str)).intsFit fr.json = true ∧ (Json.arr (xs.map .str)).strings = xs := by
  refine ⟨.arr fun x hx => ?_, ?_, ?_⟩
  · obtain ⟨t, -, rfl⟩ := List.mem_map.mp hx
    exact .str t
  · rw [Json.intsFit, Json.intsFitList_iff]
    intro x hx
    obtain ⟨t, -, rfl⟩ := List.mem_map.mp hx
    rfl
  · rw [Json.strings]
    induction xs with
    | nil => rfl
    | cons x xs ih =>
      rw [List.map_cons, Json.stringsList, ih]
      rfl

/-- The row of a record of plain JSON is plain, its integers can be written and its strings encoded. -/
theorem PlainRecord.row {r : MemoryRecord} {md : List (PyStr × Json)} (h : PlainRecord fr r md) :
    (Json.obj (rowItems fr r md)).Plain ∧ (Json.obj (rowItems fr r md)).intsFit fr.json = true ∧
      ∀ s ∈ (Json.obj (rowItems fr r md)).strings, Py.Encodable s := by
  have hopt := plain_jsonText fr
  have htags := plain_texts fr r.tags
  refine ⟨.obj ?_ ?_, ?_, fun s hs => ?_⟩
  · unfold rowItems
    simp
  · unfold rowItems
    simp only [List.forall_mem_cons]
    exact ⟨.str _, .str _, .str _, (hopt _).1, (hopt _).1, (hopt _).1, (hopt _).1, (hopt _).1, htags.1,
      .float h.importance, .float h.confidence, .str _, .str _, .str _, (hopt _).1, h.plain,
      fun _ hm => absurd hm List.not_mem_nil⟩
  · unfold rowItems
    rw [Json.intsFit, Json.intsFitItems_iff]
    simp only [List.forall_mem_cons]
    exact ⟨rfl, rfl, rfl, (hopt _).2.1, (hopt _).2.1, (hopt _).2.1, (hopt _).2.1, (hopt _).2.1, htags.2.1,
      rfl, rfl, rfl, rfl, rfl, (hopt _).2.1, h.fits, fun _ hm => absurd hm List.not_mem_nil⟩
  · have hiso : ∀ t, Py.Encodable (fr.isoformat t) := fun t => (fr.isoformat_ascii t).encodable
    have hone : ∀ {t : PyStr}, Py.Encodable t → ∀ s ∈ (Json.str t).strings, Py.Encodable s :=
      fun ht => List.forall_mem_singleton.mpr ht
    have htext : ∀ {o : Option PyStr}, (∀ s ∈ o.toList, Py.Encodable s) →
        ∀ s ∈ (jsonText o).strings, Py.Encodable s := fun ho => by
      rw [(hopt _).2.2]
      exact ho
    have hdeleted : ∀ s ∈ (r.deletedAt.map fr.isoformat).toList, Py.Encodable s := by
      intro s hs
      obtain ⟨t, -, rfl⟩ := Option.map_eq_some_iff.mp (Option.mem_toList.mp hs)
      exact hiso t
    have hlit : ∀ {t : PyStr}, Ascii t → Py.Encodable t := fun ht => ht.encodable
    have hnone : ∀ x : PyFloat, ∀ s ∈ (Json.float x).strings, Py.Encodable s :=
      fun _ _ hm => absurd hm List.not_mem_nil
    have htexts := h.texts
    simp only [List.forall_mem_cons, List.cons_append, List.forall_mem_append] at htexts
    obtain ⟨hid, hcontent, htag, ⟨⟨⟨huser, hsession⟩, htask⟩, hrun⟩, hevent⟩ := htexts
    have hall : ∀ kv ∈ rowItems fr r md, Py.Encodable kv.1 ∧ ∀ s ∈ kv.2.strings, Py.Encodable s := by
      unfold rowItems
      simp only [List.forall_mem_cons]
      refine ⟨⟨hlit (ascii_lit _ (by decide)), hone hid⟩,
        ⟨hlit (ascii_lit _ (by decide)), hone hcontent⟩,
        ⟨hlit (ascii_lit _ (by decide)), hone (hlit (StrEnum.value_ascii r.type))⟩,
        ⟨hlit (ascii_lit _ (by decide)), htext huser⟩,
        ⟨hlit (ascii_lit _ (by decide)), htext hsession⟩,
        ⟨hlit (ascii_lit _ (by decide)), htext htask⟩,
        ⟨hlit (ascii_lit _ (by decide)), htext hrun⟩,
        ⟨hlit (ascii_lit _ (by decide)), htext hevent⟩,
        ⟨hlit (ascii_lit _ (by decide)), ?_⟩,
        ⟨hlit (ascii_lit _ (by decide)), hnone _⟩,
        ⟨hlit (ascii_lit _ (by decide)), hnone _⟩,
        ⟨hlit (ascii_lit _ (by decide)), hone (hlit (StrEnum.value_ascii r.source))⟩,
        ⟨hlit (ascii_lit _ (by decide)), hone (hiso _)⟩,
        ⟨hlit (ascii_lit _ (by decide)), hone (hiso _)⟩,
        ⟨hlit (ascii_lit _ (by decide)), htext hdeleted⟩,
        ⟨hlit (ascii_lit _ (by decide)), h.strings⟩,
        fun _ hm => absurd hm List.not_mem_nil⟩
      rw [htags.2.2]
      exact htag
    obtain ⟨kv, hkv, hs⟩ := JsonLoad.mem_strings_obj.mp hs
    rcases hs with rfl | hs
    · exact (hall kv hkv).1
    · exact (hall kv hkv).2 s hs

theorem PlainRecord.storable {r : MemoryRecord} {md : List (PyStr × Json)} (h : PlainRecord fr r md) :
    Storable fr r :=
  storable_of_row fr (toDict_rowItems fr h.metadata) (h.row fr).1 (h.row fr).2.1 (h.row fr).2.2
    (fromDict_rowItems fr h.metadata)

end

end Tomtit
