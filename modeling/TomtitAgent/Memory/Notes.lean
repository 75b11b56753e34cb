import TomtitAgent.Memory.MemoryAgent
import TomtitAgent.Python.Reachable

/-!
# The notes of `InMemoryStore`

A note is a record of type NOTE with a name in its metadata.  `note_index` is a second copy of the
names: `write` and `update` set it, `update` and `delete` clear it, `read_note`, `write_note` and
`list_notes` go by it alone.

* `Call`, `InMemoryStore.call`   a method call with its arguments, and what it returns and leaves;
* `NotesAgree`   what `read_note` and `list_notes` say is what the live notes are;
* `NoteIndex`   the invariant of the index;
* `KeepsIndex`, `Call.keepsIndex`   the calls that keep it;
* `notes_agree_of_run`   a run of such calls leaves the notes and the index in agreement.

The index does not keep the older of two notes of one name, so the deletion or renaming of the newer
one hides the other (`not_notesAgree`); and an entry stays when its id is written over.
-/

namespace Tomtit
open Py

/-- The answers of `utc_now()`, in order, and of `uuid4()` during one call. -/
structure Readings where
  now : Nat → Time
  uuid : PyStr

inductive Call where
  | write (record : MemoryRecord)
  | update (memoryId : PyStr) (patch : List PatchField)
  | delete (memoryId : PyStr) (reason : Option PyStr)
  | writeNote (name content : PyStr)
  | get (memoryId : PyStr)
  | search (query : MemoryQuery)
  | listAll (includeDeleted : Bool)
  | readNote (name : PyStr)
  | listNotes

inductive Reply where
  | record (r : MemoryRecord)
  | found (r : Option MemoryRecord)
  | deleted (done : Bool)
  | records (rs : List MemoryRecord)
  | content (text : Option PyStr)
  | names (ns : List PyStr)

/-- `MemoryRecord(content=content, type=MemoryType.NOTE, metadata={"name": note_name})` -/
def newNote (m : Readings) (name content : PyStr) : MemoryRecord where
  id := m.uuid
  content := content
  type := .note
  userId := none
  sessionId := none
  taskId := none
  runId := none
  sourceEventId := none
  tags := []
  importance := weight05
  confidence := weight1
  source := .user
  createdAt := m.now 0
  updatedAt := m.now 1
  deletedAt := none
  metadata := ⟨⟨[(py "name", .str name)], List.nodup_singleton _⟩⟩

def emptyNoteName : PyExc := valueError (py "note name cannot be empty")

namespace InMemoryStore

/-- `_remove_stale_note_index` -/
def removeStaleNoteIndex (oldNoteName : Option PyStr) (memoryId : PyStr) (s : InMemoryStore) :
    InMemoryStore :=
  match oldNoteName with
  | none => s
  | some name =>
    if s.noteIndex.get? name = some memoryId then { s with noteIndex := s.noteIndex.erase name } else s

def update (rt : MemoryRuntime) (now : Time) (memoryId : PyStr) (patch : List PatchField)
    (s : InMemoryStore) : Option MemoryRecord × InMemoryStore :=
  match s.get memoryId with
  | none => (none, s)
  | some r =>
    let r' := (r.applyPatch patch).markUpdated now
    (some r', syncNoteIndex rt r' (removeStaleNoteIndex (noteName rt r) r.id (s.file r')))

/-- The live record that the index has for a name; the empty id counts as no entry. -/
def indexedNote (name : PyStr) (s : InMemoryStore) : Option MemoryRecord :=
  match s.noteIndex.get? name with
  | none => none
  | some memoryId => if memoryId = [] then none else s.get memoryId

def writeNote (rt : MemoryRuntime) (m : Readings) (name content : PyStr) (s : InMemoryStore) :
    Except PyExc MemoryRecord × InMemoryStore :=
  if strip name = [] then (.error emptyNoteName, s)
  else match s.indexedNote (strip name) with
    | some r =>
      let r' := { r with content := content }.markUpdated (m.now 0)
      (.ok r', s.file r')
    | none =>
      let r := newNote m (strip name) content
      (.ok (r.markUpdated (m.now 2)), s.write rt (m.now 2) r)

def readNote (name : PyStr) (s : InMemoryStore) : Option PyStr :=
  (s.indexedNote (strip name)).map MemoryRecord.content

def listNotes (s : InMemoryStore) : List PyStr :=
  sorted ((s.noteIndex.items.filter fun kv => (s.get kv.2).isSome).map Prod.fst)

def call (rt : MemoryRuntime) (m : Readings) (s : InMemoryStore) : Call → Except PyExc Reply × InMemoryStore
  | .write r => (.ok (.record (r.markUpdated (m.now 0))), s.write rt (m.now 0) r)
  | .update k patch => (.ok (.found (s.update rt (m.now 0) k patch).1), (s.update rt (m.now 0) k patch).2)
  | .delete k why => (.ok (.deleted (s.delete rt (m.now 0) k why).1), (s.delete rt (m.now 0) k why).2)
  | .writeNote name text => ((s.writeNote rt m name text).1.map .record, (s.writeNote rt m name text).2)
  | .get k => (.ok (.found (s.get k)), s)
  | .search q => (.ok (.records (s.search rt q)), s)
  | .listAll deleted => (.ok (.records (s.listAll deleted)), s)
  | .readNote name => (.ok (.content (s.readNote name)), s)
  | .listNotes => (.ok (.names s.listNotes), s)

def after (rt : MemoryRuntime) (a : Readings × Call) (s : InMemoryStore) : InMemoryStore :=
  (s.call rt a.1 a.2).2

end InMemoryStore

/-- The call that `MemoryAgent.write_note` makes on its store.  The record is new at each call, so a
second note of a name is written beside the first. -/
def MemoryAgent.writeNote (agent : MemoryAgent) (m : Readings) (name content : PyStr)
    (taskId runId sourceEventId : Option PyStr) (metadata : Dict PyStr PyVal) : Except PyExc Call :=
  if strip name = [] then .error emptyNoteName
  else .ok (.write { newNote m (strip name) content with
    userId := agent.userId
    sessionId := agent.sessionId
    taskId := taskId
    runId := runId
    sourceEventId := sourceEventId
    metadata := ⟨metadata.set (py "name") (.str (strip name))⟩ })

/-! ### the notes and the index -/

section
variable (rt : MemoryRuntime)

def IsNote (name : PyStr) (r : MemoryRecord) : Prop :=
  r.type = .note ∧ InMemoryStore.noteName rt r = some name

/-- The readers of the notes show the live notes: `read_note` finds a name exactly when a live note
has it, and then the content of one; `list_notes` is the sorted list of the names. -/
structure NotesAgree (s : InMemoryStore) : Prop where
  found : ∀ name, s.readNote name ≠ none ↔ ∃ r ∈ s.live, IsNote rt (strip name) r
  content : ∀ name text, s.readNote name = some text →
    ∃ r ∈ s.live, IsNote rt (strip name) r ∧ r.content = text
  sorted : s.listNotes.Pairwise (· < ·)
  names : ∀ n, n ∈ s.listNotes ↔ ∃ r ∈ s.live, IsNote rt n r

/-- The name under which `_sync_note_index` files a record. -/
def noteOf (r : MemoryRecord) : Option PyStr :=
  if r.type ≠ .note ∨ r.isDeleted = true then none else InMemoryStore.noteName rt r

/-- An entry whose record is live is that note's name under an id that is not empty, and the name of
every live note has an entry whose record is live. -/
structure NoteIndex (s : InMemoryStore) : Prop where
  sound : ∀ n k r, s.noteIndex.get? n = some k → s.get k = some r → k ≠ [] ∧ noteOf rt r = some n
  complete : ∀ r ∈ s.live, ∀ n, noteOf rt r = some n →
    ∃ k x, s.noteIndex.get? n = some k ∧ s.get k = some x

/-- The record `r'` can be filed: a note has an id that is not empty, and where the index leads from
another name to its id, that entry is taken out (`stale`) or `r'` is deleted, and no other live note
has the name. -/
def KeepsIndex (r' : MemoryRecord) (stale : Option PyStr) (s : InMemoryStore) : Prop :=
  (noteOf rt r' ≠ none → r'.id ≠ []) ∧
  ∀ n, s.noteIndex.get? n = some r'.id → noteOf rt r' ≠ some n →
    (stale = some n ∨ r'.isDeleted = true) ∧ ∀ x ∈ s.live, x.id ≠ r'.id → noteOf rt x ≠ some n

/-- The calls that keep the index: of those that file a record, the record can be filed. -/
def Call.keepsIndex (m : Readings) (s : InMemoryStore) : Call → Prop
  | .write r => KeepsIndex rt (r.markUpdated (m.now 0)) none s
  | .update k patch => ∀ r, s.get k = some r →
      KeepsIndex rt ((r.applyPatch patch).markUpdated (m.now 0)) (InMemoryStore.noteName rt r) s
  | .delete k why => ∀ r, s.get k = some r →
      KeepsIndex rt (InMemoryStore.tombstone (m.now 0) why r) (InMemoryStore.noteName rt r) s
  | .writeNote name text => strip name ≠ [] → s.indexedNote (strip name) = none →
      KeepsIndex rt ((newNote m (strip name) text).markUpdated (m.now 2)) none s
  | _ => True

theorem noteOf_eq_some {r : MemoryRecord} {n : PyStr} :
    noteOf rt r = some n ↔ IsNote rt n r ∧ r.isDeleted = false := by
  unfold noteOf IsNote
  by_cases h : r.type ≠ .note ∨ r.isDeleted = true
  · rw [if_pos h]
    refine iff_of_false (by simp) ?_
    rintro ⟨⟨ht, -⟩, hd⟩
    rcases h with h | h
    · exact h ht
    · rw [hd] at h
      exact absurd h (by simp)
  · rw [if_neg h]
    rw [not_or, not_not, Bool.not_eq_true] at h
    exact ⟨fun e => ⟨⟨h.1, e⟩, h.2⟩, fun e => e.1.2⟩

theorem noteName_ne_nil {rt : MemoryRuntime} {r : MemoryRecord} {n : PyStr}
    (h : InMemoryStore.noteName rt r = some n) : n ≠ [] := by
  unfold InMemoryStore.noteName at h
  split at h
  · exact absurd h (by simp)
  · exact absurd h (by simp)
  · split_ifs at h with hne
    rw [← Option.some.inj h]
    exact hne

theorem noteOf_live {s : InMemoryStore} {r : MemoryRecord} (h : r ∈ s.live) {n : PyStr} :
    noteOf rt r = some n ↔ IsNote rt n r := by
  rw [noteOf_eq_some]
  exact and_iff_left (InMemoryStore.mem_live.mp h).2

/-! ### what a call files -/

/-- The record `r'` is filed: it replaces the record of its id, the index gets its name, and the
entry of the stale name goes if it leads to that id. -/
structure Refiled (r' : MemoryRecord) (stale : Option PyStr) (s s' : InMemoryStore) : Prop where
  records : s'.records = s.records.set r'.id r'
  index : ∀ n, s'.noteIndex.get? n =
    if noteOf rt r' = some n then some r'.id
    else if stale = some n ∧ s.noteIndex.get? n = some r'.id then none
    else s.noteIndex.get? n

theorem syncNoteIndex_index (r : MemoryRecord) (s : InMemoryStore) (n : PyStr) :
    (InMemoryStore.syncNoteIndex rt r s).noteIndex.get? n =
      if noteOf rt r = some n then some r.id else s.noteIndex.get? n := by
  unfold InMemoryStore.syncNoteIndex noteOf
  by_cases h : r.type ≠ .note ∨ r.isDeleted = true
  · rw [if_pos h, if_pos h, if_neg (by simp)]
  · rw [if_neg h, if_neg h]
    cases InMemoryStore.noteName rt r with
    | none => rw [if_neg (by simp)]
    | some name =>
      show (s.noteIndex.set name r.id).get? n = _
      rw [Dict.get?_set]
      by_cases e : n = name
      · rw [if_pos e, if_pos (by rw [e])]
      · rw [if_neg e, if_neg fun h => e (Option.some.inj h).symm]

theorem removeStaleNoteIndex_index (stale : Option PyStr) (k : PyStr) (s : InMemoryStore) (n : PyStr) :
    (s.removeStaleNoteIndex stale k).noteIndex.get? n =
      if stale = some n ∧ s.noteIndex.get? n = some k then none else s.noteIndex.get? n := by
  unfold InMemoryStore.removeStaleNoteIndex
  cases stale with
  | none => rw [if_neg (by simp)]
  | some name =>
    dsimp only
    by_cases h : s.noteIndex.get? name = some k
    · rw [if_pos h]
      show (s.noteIndex.erase name).get? n = _
      rw [Dict.get?_erase]
      by_cases e : n = name
      · rw [if_pos e, if_pos ⟨by rw [e], by rw [e, h]⟩]
      · rw [if_neg e, if_neg fun h => e (Option.some.inj h.1).symm]
    · rw [if_neg h, if_neg]
      rintro ⟨e, h'⟩
      rw [Option.some.inj e] at h
      exact h h'

theorem removeStaleNoteIndex_records (stale : Option PyStr) (k : PyStr) (s : InMemoryStore) :
    (s.removeStaleNoteIndex stale k).records = s.records := by
  unfold InMemoryStore.removeStaleNoteIndex
  split
  · rfl
  · split_ifs <;> rfl

theorem refiled_write (now : Time) (r : MemoryRecord) (s : InMemoryStore) :
    Refiled rt (r.markUpdated now) none s (s.write rt now r) where
  records := InMemoryStore.syncNoteIndex_records rt _ _
  index n := by
    rw [if_neg (c := none = some n ∧ _) (by simp)]
    exact syncNoteIndex_index rt _ _ n

theorem refiled_update {now : Time} {k : PyStr} {patch : List PatchField} {s : InMemoryStore}
    {r : MemoryRecord} (h : s.get k = some r) :
    Refiled rt ((r.applyPatch patch).markUpdated now) (InMemoryStore.noteName rt r) s
      (s.update rt now k patch).2 := by
  have hid : ((r.applyPatch patch).markUpdated now).id = r.id := MemoryRecord.applyPatch_id patch r
  unfold InMemoryStore.update
  rw [h]
  constructor
  · exact (InMemoryStore.syncNoteIndex_records rt _ _).trans (removeStaleNoteIndex_records _ _ _)
  · intro n
    refine (syncNoteIndex_index rt _ _ n).trans ?_
    rw [removeStaleNoteIndex_index, hid]
    rfl

theorem noteName_tombstone (now : Time) (why : Option PyStr) (r : MemoryRecord) :
    InMemoryStore.noteName rt (InMemoryStore.tombstone now why r) = InMemoryStore.noteName rt r := by
  have hget : (InMemoryStore.tombstone now why r).metadata.dict.get? (py "name") =
      r.metadata.dict.get? (py "name") := by
    unfold InMemoryStore.tombstone
    split
    · rfl
    · rfl
    · refine (Dict.get?_set _ _ _ _).trans (if_neg ?_)
      simp
  unfold InMemoryStore.noteName
  rw [hget]

theorem noteOf_tombstone (now : Time) (why : Option PyStr) (r : MemoryRecord) :
    noteOf rt (InMemoryStore.tombstone now why r) = none := by
  unfold noteOf
  rw [if_pos (.inr (InMemoryStore.tombstone_isDeleted now why r))]

theorem refiled_delete {now : Time} {k : PyStr} {why : Option PyStr} {s : InMemoryStore}
    {r : MemoryRecord} (h : s.get k = some r) :
    Refiled rt (InMemoryStore.tombstone now why r) (InMemoryStore.noteName rt r) s
      (s.delete rt now k why).2 := by
  have hdrop : ∀ (x : MemoryRecord) (t : InMemoryStore),
      InMemoryStore.dropNote rt x t = t.removeStaleNoteIndex (InMemoryStore.noteName rt x) x.id := by
    intro x t
    rfl
  unfold InMemoryStore.delete
  rw [h]
  dsimp only
  rw [hdrop, noteName_tombstone]
  constructor
  · exact removeStaleNoteIndex_records _ _ _
  · intro n
    rw [removeStaleNoteIndex_index, noteOf_tombstone, if_neg (Option.some_ne_none n).symm]
    rfl

/-! ### what filing a record keeps -/

section
variable {rt} {r' : MemoryRecord} {stale : Option PyStr} {s s' : InMemoryStore}

theorem Refiled.get (h : Refiled rt r' stale s s') (k : PyStr) :
    s'.get k = if k = r'.id then (if r'.isDeleted then none else some r') else s.get k := by
  unfold InMemoryStore.get
  rw [h.records, Dict.get?_set]
  by_cases e : k = r'.id
  · rw [if_pos e, if_pos e]
  · rw [if_neg e, if_neg e]

theorem Refiled.mem_live (h : Refiled rt r' stale s s') {x : MemoryRecord} :
    x ∈ s'.live ↔ (x = r' ∧ r'.isDeleted = false) ∨ (x ∈ s.live ∧ x.id ≠ r'.id) := by
  have hlive : ∀ t : InMemoryStore, x ∈ t.live ↔ t.get x.id = some x := fun t => by
    rw [InMemoryStore.get_eq_some]
    exact (and_iff_left rfl).symm
  rw [hlive, hlive, h.get]
  by_cases e : x.id = r'.id
  · rw [if_pos e]
    cases hd : r'.isDeleted with
    | true => simp [e]
    | false =>
      rw [if_neg Bool.false_ne_true]
      constructor
      · intro hx
        exact .inl ⟨(Option.some.inj hx).symm, rfl⟩
      · rintro (⟨rfl, -⟩ | ⟨-, hne⟩)
        · rfl
        · exact absurd e hne
  · rw [if_neg e]
    constructor
    · intro hx
      exact .inr ⟨hx, e⟩
    · rintro (⟨rfl, -⟩ | ⟨hx, -⟩)
      · exact absurd rfl e
      · exact hx

theorem NoteIndex.refiled (hs : NoteIndex rt s) (h : Refiled rt r' stale s s')
    (hk : KeepsIndex rt r' stale s) : NoteIndex rt s' := by
  have hlive : ∀ {n}, noteOf rt r' = some n → r'.isDeleted = false := fun e =>
    ((noteOf_eq_some rt).mp e).2
  refine ⟨fun n k x hn hx => ?_, fun x hx n hn => ?_⟩
  · rw [h.index] at hn
    rw [h.get] at hx
    by_cases hown : noteOf rt r' = some n
    · rw [if_pos hown] at hn
      rw [← Option.some.inj hn, if_pos rfl, hlive hown, if_neg Bool.false_ne_true] at hx
      rw [← Option.some.inj hx, ← Option.some.inj hn]
      exact ⟨hk.1 (by rw [hown]; simp), hown⟩
    · rw [if_neg hown] at hn
      by_cases hstale : stale = some n ∧ s.noteIndex.get? n = some r'.id
      · rw [if_pos hstale] at hn
        exact absurd hn (by simp)
      · rw [if_neg hstale] at hn
        by_cases e : k = r'.id
        · -- an entry that leads to the new record without its name: the record is deleted
          rw [if_pos e] at hx
          rw [e] at hn
          rcases (hk.2 n hn hown).1 with hst | hd
          · exact absurd ⟨hst, hn⟩ hstale
          · rw [hd, if_pos rfl] at hx
            exact absurd hx (by simp)
        · rw [if_neg e] at hx
          exact hs.sound n k x hn hx
  · rcases h.mem_live.mp hx with ⟨rfl, hd⟩ | ⟨hx, hne⟩
    · refine ⟨x.id, x, ?_, ?_⟩
      · rw [h.index, if_pos hn]
      · rw [h.get, if_pos rfl, hd, if_neg Bool.false_ne_true]
    · obtain ⟨k, y, hk', hy⟩ := hs.complete x hx n hn
      by_cases hown : noteOf rt r' = some n
      · refine ⟨r'.id, r', ?_, ?_⟩
        · rw [h.index, if_pos hown]
        · rw [h.get, if_pos rfl, hlive hown, if_neg Bool.false_ne_true]
      · have hkne : k ≠ r'.id := by
          rintro rfl
          exact (hk.2 n hk' hown).2 x hx hne hn
        refine ⟨k, y, ?_, ?_⟩
        · rw [h.index, if_neg hown, if_neg, hk']
          rintro ⟨-, e⟩
          rw [hk'] at e
          exact hkne (Option.some.inj e)
        · rw [h.get, if_neg hkne, hy]

end

theorem NoteIndex.indexedNote {s : InMemoryStore} (hs : NoteIndex rt s) {n : PyStr} {r : MemoryRecord}
    (h : s.indexedNote n = some r) : s.noteIndex.get? n = some r.id ∧ r ∈ s.live ∧ noteOf rt r = some n := by
  unfold InMemoryStore.indexedNote at h
  cases e : s.noteIndex.get? n with
  | none =>
    rw [e] at h
    exact absurd h (by simp)
  | some k =>
    rw [e] at h
    dsimp only at h
    by_cases hk : k = []
    · rw [if_pos hk] at h
      exact absurd h (by simp)
    · rw [if_neg hk] at h
      obtain ⟨hl, hid⟩ := InMemoryStore.get_eq_some.mp h
      exact ⟨by rw [hid], hl, (hs.sound n k r e h).2⟩

theorem refiled_writeNote {m : Readings} {name text : PyStr} {s : InMemoryStore} {r : MemoryRecord}
    (hs : NoteIndex rt s) (hname : strip name ≠ []) (h : s.indexedNote (strip name) = some r) :
    Refiled rt ({ r with content := text }.markUpdated (m.now 0)) none s (s.writeNote rt m name text).2 := by
  obtain ⟨hi, hl, hn⟩ := hs.indexedNote rt h
  unfold InMemoryStore.writeNote
  rw [if_neg hname, h]
  have hsame : noteOf rt ({ r with content := text }.markUpdated (m.now 0)) = noteOf rt r := rfl
  refine ⟨rfl, fun n => ?_⟩
  show s.noteIndex.get? n = _
  rw [if_neg (c := none = some n ∧ _) (by simp), hsame, hn]
  by_cases e : some (strip name) = some n
  · rw [if_pos e, ← Option.some.inj e]
    exact hi
  · rw [if_neg e]

theorem refiled_newNote {m : Readings} {name text : PyStr} {s : InMemoryStore}
    (hname : strip name ≠ []) (h : s.indexedNote (strip name) = none) :
    Refiled rt ((newNote m (strip name) text).markUpdated (m.now 2)) none s
      (s.writeNote rt m name text).2 := by
  unfold InMemoryStore.writeNote
  rw [if_neg hname, h]
  exact refiled_write rt _ _ s

/-- A call that keeps the index keeps the invariant. -/
theorem NoteIndex.call {m : Readings} {c : Call} {s : InMemoryStore} (hs : NoteIndex rt s)
    (hc : c.keepsIndex rt m s) : NoteIndex rt (s.call rt m c).2 := by
  cases c with
  | write r => exact hs.refiled (refiled_write rt _ r s) hc
  | update k patch =>
    cases e : s.get k with
    | none =>
      show NoteIndex rt (s.update rt (m.now 0) k patch).2
      unfold InMemoryStore.update
      rw [e]
      exact hs
    | some r => exact hs.refiled (refiled_update rt e) (hc r e)
  | delete k why =>
    cases e : s.get k with
    | none =>
      show NoteIndex rt (s.delete rt (m.now 0) k why).2
      unfold InMemoryStore.delete
      rw [e]
      exact hs
    | some r => exact hs.refiled (refiled_delete rt e) (hc r e)
  | writeNote name text =>
    by_cases hname : strip name = []
    · show NoteIndex rt (s.writeNote rt m name text).2
      unfold InMemoryStore.writeNote
      rw [if_pos hname]
      exact hs
    · cases e : s.indexedNote (strip name) with
      | none => exact hs.refiled (refiled_newNote rt hname e) (hc hname e)
      | some r =>
        obtain ⟨hi, -, hn⟩ := hs.indexedNote rt e
        refine hs.refiled (refiled_writeNote rt hs hname e) ⟨fun _ => ?_, fun n hin hne => ?_⟩
        · exact (hs.sound _ _ r hi (InMemoryStore.get_eq_some.mpr ⟨(hs.indexedNote rt e).2.1, rfl⟩)).1
        · have hl := InMemoryStore.get_eq_some.mpr ⟨(hs.indexedNote rt e).2.1, rfl⟩
          exact absurd (hs.sound n _ r hin hl).2 hne
  | get k => exact hs
  | search q => exact hs
  | listAll deleted => exact hs
  | readNote name => exact hs
  | listNotes => exact hs

/-! ### the readers -/

theorem indexedNote_ne_none {s : InMemoryStore} (hs : NoteIndex rt s) {n : PyStr} :
    s.indexedNote n ≠ none ↔ ∃ r ∈ s.live, IsNote rt n r := by
  constructor
  · intro h
    obtain ⟨r, hr⟩ := Option.ne_none_iff_exists'.mp h
    obtain ⟨-, hl, hn⟩ := hs.indexedNote rt hr
    exact ⟨r, hl, (noteOf_live rt hl).mp hn⟩
  · rintro ⟨r, hl, hn⟩
    obtain ⟨k, x, hk, hx⟩ := hs.complete r hl n ((noteOf_live rt hl).mpr hn)
    unfold InMemoryStore.indexedNote
    rw [hk]
    dsimp only
    rw [if_neg (hs.sound n k x hk hx).1, hx]
    simp

theorem mem_listNotes {s : InMemoryStore} (hs : NoteIndex rt s) {n : PyStr} :
    n ∈ s.listNotes ↔ ∃ r ∈ s.live, IsNote rt n r := by
  unfold InMemoryStore.listNotes
  rw [mem_sorted, List.mem_map]
  constructor
  · rintro ⟨⟨n', k⟩, hmem, rfl⟩
    obtain ⟨hin, hsome⟩ := List.mem_filter.mp hmem
    obtain ⟨r, hr⟩ := Option.isSome_iff_exists.mp hsome
    have hl := (InMemoryStore.get_eq_some.mp hr).1
    exact ⟨r, hl, (noteOf_live rt hl).mp (hs.sound n' k r (Dict.get?_eq_some.mpr hin) hr).2⟩
  · rintro ⟨r, hl, hn⟩
    obtain ⟨k, x, hk, hx⟩ := hs.complete r hl n ((noteOf_live rt hl).mpr hn)
    refine ⟨(n, k), List.mem_filter.mpr ⟨Dict.get?_eq_some.mp hk, ?_⟩, rfl⟩
    dsimp only
    rw [hx]
    rfl

theorem listNotes_sorted (s : InMemoryStore) : s.listNotes.Pairwise (· < ·) := by
  have hnd : ((s.noteIndex.items.filter fun kv => (s.get kv.2).isSome).map Prod.fst).Nodup :=
    s.noteIndex.nodup.sublist (List.filter_sublist.map _)
  have hsorted : s.listNotes.Pairwise (· ≠ ·) := (sorted_perm _).nodup_iff.mpr hnd
  exact ((sorted_pairwise _).and hsorted).imp fun h => lt_of_le_of_ne h.1 h.2

theorem notesAgree_of_noteIndex {s : InMemoryStore} (hs : NoteIndex rt s) : NotesAgree rt s where
  found name := by
    rw [← indexedNote_ne_none rt hs]
    unfold InMemoryStore.readNote
    rw [Ne, Option.map_eq_none_iff]
  content name text h := by
    obtain ⟨r, hr, rfl⟩ := Option.map_eq_some_iff.mp h
    obtain ⟨-, hl, hn⟩ := hs.indexedNote rt hr
    exact ⟨r, hl, (noteOf_live rt hl).mp hn, rfl⟩
  sorted := listNotes_sorted s
  names n := mem_listNotes rt hs

theorem noteIndex_empty : NoteIndex rt InMemoryStore.empty where
  sound _ _ _ h := absurd h (by simp [InMemoryStore.empty, Dict.empty, Dict.get?, assoc])
  complete _ h := absurd h List.not_mem_nil

/-- A run from the empty store whose calls keep the index leaves the readers of the notes right. -/
theorem notes_agree_of_run {s : InMemoryStore}
    (h : Reachable (InMemoryStore.after rt) (fun a s => a.2.keepsIndex rt a.1 s) InMemoryStore.empty s) :
    NotesAgree rt s :=
  notesAgree_of_noteIndex rt (h.invariant (noteIndex_empty rt) fun _ _ ha hs => hs.call rt ha)

end

/-! ### two notes of one name -/

/-- A note named `a`, written at the time 0. -/
def noteA (id : PyStr) : MemoryRecord := newNote ⟨fun _ => 0, id⟩ (py "a") []

theorem noteOf_noteA (id : PyStr) : noteOf plainEnv.toMemoryRuntime (noteA id) = some (py "a") := by
  have hne : py "a" ≠ [] := by
    rw [py_ofList]
    exact List.cons_ne_nil _ _
  have hstrip : strip (py "a") = py "a" := by
    rw [py_ofList]
    rfl
  have hget : (noteA id).metadata.dict.get? (py "name") = some (.str (py "a")) :=
    assoc_cons.trans (if_pos rfl)
  unfold noteOf
  rw [if_neg (by simp [noteA, newNote, MemoryRecord.isDeleted])]
  unfold InMemoryStore.noteName
  rw [hget]
  show (if strip (py "a") = [] then none else some (strip (py "a"))) = _
  rw [hstrip, if_neg hne]

def atZero : Readings := ⟨fun _ => 0, []⟩

def oneNote : InMemoryStore :=
  InMemoryStore.after plainEnv.toMemoryRuntime (atZero, .write (noteA (py "1"))) .empty

theorem oneNote_filed : Refiled plainEnv.toMemoryRuntime (noteA (py "1")) none .empty oneNote :=
  refiled_write plainEnv.toMemoryRuntime 0 (noteA (py "1")) .empty

theorem oneNote_get : oneNote.get (py "1") = some (noteA (py "1")) := by
  rw [oneNote_filed.get]
  rfl

def oneDeleted : InMemoryStore :=
  InMemoryStore.after plainEnv.toMemoryRuntime (atZero, .delete (py "1") none) oneNote

theorem oneDeleted_filed : Refiled plainEnv.toMemoryRuntime (InMemoryStore.tombstone 0 none (noteA (py "1")))
    (some (py "a")) oneNote oneDeleted := by
  have hnamed : InMemoryStore.noteName plainEnv.toMemoryRuntime (noteA (py "1")) = some (py "a") :=
    ((noteOf_eq_some _).mp (noteOf_noteA (py "1"))).1.2
  exact hnamed ▸ refiled_delete plainEnv.toMemoryRuntime oneNote_get

theorem oneDeleted_index (n : PyStr) : oneDeleted.noteIndex.get? n = none := by
  rw [oneDeleted_filed.index, noteOf_tombstone, if_neg (Option.some_ne_none n).symm, oneNote_filed.index, noteOf_noteA]
  by_cases hn : py "a" = n
  · rw [if_pos (congrArg some hn), if_pos ⟨congrArg some hn, congrArg some (InMemoryStore.tombstone_id ..).symm⟩]
  · have hsome : some (py "a") ≠ some n := fun h => hn (Option.some.inj h)
    rw [if_neg fun h => hsome h.1, if_neg hsome, if_neg fun h => (Option.some_ne_none n) h.1.symm]
    rfl

theorem keepsIndex_noteA {id : PyStr} (hid : id ≠ []) {s : InMemoryStore} (h : ∀ n, s.noteIndex.get? n = none) :
    (Call.write (noteA id)).keepsIndex plainEnv.toMemoryRuntime atZero s :=
  ⟨fun _ => hid, fun n hn => absurd (hn.symm.trans (h n)) (Option.some_ne_none _)⟩

theorem keepsIndex_delete : (Call.delete (py "1") none).keepsIndex plainEnv.toMemoryRuntime atZero oneNote := by
  intro r hr
  obtain rfl := Option.some.inj (oneNote_get.symm.trans hr)
  refine ⟨fun hn => absurd (noteOf_tombstone ..) hn, fun n _ _ => ⟨.inr (InMemoryStore.tombstone_isDeleted ..), ?_⟩⟩
  intro x hx hne
  rcases oneNote_filed.mem_live.mp hx with ⟨rfl, -⟩ | ⟨hx, -⟩
  · exact absurd (InMemoryStore.tombstone_id ..).symm hne
  · exact absurd hx List.not_mem_nil

/-- A note is written, deleted, and written anew under another id. -/
def oneAnew : InMemoryStore :=
  InMemoryStore.after plainEnv.toMemoryRuntime (atZero, .write (noteA (py "2"))) oneDeleted

theorem notes_agree_anew : NotesAgree plainEnv.toMemoryRuntime oneAnew := by
  refine notes_agree_of_run _ (((Reachable.start.next ?_).next ?_).next ?_)
  · refine keepsIndex_noteA ?_ fun n => rfl
    rw [py_ofList]
    exact List.cons_ne_nil _ _
  · exact keepsIndex_delete
  · refine keepsIndex_noteA ?_ oneDeleted_index
    rw [py_ofList]
    exact List.cons_ne_nil _ _

/-- The store with two notes of one name, and the newer of them deleted. -/
def oneHidden : InMemoryStore :=
  InMemoryStore.after plainEnv.toMemoryRuntime (atZero, .delete (py "2") none)
    (InMemoryStore.after plainEnv.toMemoryRuntime (atZero, .write (noteA (py "2"))) oneNote)

theorem oneHidden_filed :
    Refiled plainEnv.toMemoryRuntime (noteA (py "1")) none .empty oneNote ∧
      Refiled plainEnv.toMemoryRuntime (noteA (py "2")) none oneNote
        (oneNote.write plainEnv.toMemoryRuntime 0 (noteA (py "2"))) ∧
      Refiled plainEnv.toMemoryRuntime (InMemoryStore.tombstone 0 none (noteA (py "2"))) (some (py "a"))
        (oneNote.write plainEnv.toMemoryRuntime 0 (noteA (py "2"))) oneHidden := by
  have h2 := refiled_write plainEnv.toMemoryRuntime 0 (noteA (py "2")) oneNote
  have hget : (oneNote.write plainEnv.toMemoryRuntime 0 (noteA (py "2"))).get (py "2") =
      some (noteA (py "2")) := by
    rw [h2.get]
    rfl
  have h3 := @refiled_delete plainEnv.toMemoryRuntime 0 (py "2") none _ _ hget
  rw [((noteOf_eq_some _).mp (noteOf_noteA (py "2"))).1.2] at h3
  exact ⟨refiled_write plainEnv.toMemoryRuntime 0 (noteA (py "1")) .empty, h2, h3⟩

theorem oneHidden_spec : noteA (py "1") ∈ oneHidden.live ∧ oneHidden.noteIndex.get? (py "a") = none := by
  obtain ⟨h1, h2, h3⟩ := oneHidden_filed
  have hne : py "1" ≠ py "2" := by simp
  constructor
  · refine h3.mem_live.mpr (.inr ⟨h2.mem_live.mpr (.inr ⟨h1.mem_live.mpr (.inl ⟨rfl, rfl⟩), hne⟩), ?_⟩)
    rw [InMemoryStore.tombstone_id]
    exact hne
  · rw [h3.index, if_neg, if_pos]
    · refine ⟨rfl, ?_⟩
      rw [h2.index, if_pos (noteOf_noteA (py "2")), InMemoryStore.tombstone_id]
    · intro e
      have := ((noteOf_eq_some _).mp e).2
      rw [InMemoryStore.tombstone_isDeleted] at this
      exact absurd this (by simp)

theorem strip_noteA : strip (py "a") = py "a" := by
  rw [py_ofList]
  rfl

theorem oneHidden_readNote : oneHidden.readNote (py "a") = none := by
  unfold InMemoryStore.readNote InMemoryStore.indexedNote
  rw [strip_noteA, oneHidden_spec.2]
  rfl

/-- The deletion of the newer of two notes of one name leaves `read_note` with nothing to find. -/
theorem not_notesAgree : ¬ ∀ (rt : MemoryRuntime) (s : InMemoryStore),
    Reachable (InMemoryStore.after rt) (fun _ _ => True) InMemoryStore.empty s → NotesAgree rt s := by
  intro hall
  have hagree := hall plainEnv.toMemoryRuntime oneHidden
    (((Reachable.start.next trivial).next trivial).next trivial)
  refine (hagree.found (py "a")).mpr ⟨_, oneHidden_spec.1, ?_⟩ oneHidden_readNote
  rw [strip_noteA]
  exact ((noteOf_eq_some _).mp (noteOf_noteA (py "1"))).1

end Tomtit
