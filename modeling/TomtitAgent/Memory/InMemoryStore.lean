import TomtitAgent.Memory.Records
import TomtitAgent.Python.Ranking

/-!
# `InMemoryStore`

The records by id in insertion order, and the index of the note names.  A record is filed under its
own id (`keyed`), and nothing changes an id, so a store whose keys and ids differ cannot be built.

`live` is the store as its readers see it: the records that are not deleted, in insertion order.
A deletion keeps the record and takes it out of `live` (`live_delete`); a write of a new id adds it
at the end (`live_write`); `search` and `listAll` only rearrange `live` (`search_eq`,
`mem_listAll`).
-/

namespace Tomtit
open Py

structure InMemoryStore where
  records : Dict PyStr MemoryRecord
  noteIndex : Dict PyStr PyStr
  keyed : ∀ kv ∈ records.items, kv.1 = kv.2.id

namespace InMemoryStore

/-- `InMemoryStore()` -/
def empty : InMemoryStore where
  records := Dict.empty
  noteIndex := Dict.empty
  keyed := fun _ h => absurd h List.not_mem_nil

/-- `_note_name` -/
def noteName (rt : MemoryRuntime) (r : MemoryRecord) : Option PyStr :=
  match r.metadata.dict.get? (py "name") with
  | none => none
  | some .none => none
  | some v => if strip (rt.str v) = [] then none else some (strip (rt.str v))

/-- `self.records[record.id] = record` -/
def file (s : InMemoryStore) (r : MemoryRecord) : InMemoryStore where
  records := s.records.set r.id r
  noteIndex := s.noteIndex
  keyed := by
    intro kv hkv
    rcases mem_upsert hkv with rfl | h
    · rfl
    · exact s.keyed kv h

/-- `_sync_note_index` -/
def syncNoteIndex (rt : MemoryRuntime) (r : MemoryRecord) (s : InMemoryStore) : InMemoryStore :=
  if r.type ≠ .note ∨ r.isDeleted = true then s
  else match noteName rt r with
    | none => s
    | some name => { s with noteIndex := s.noteIndex.set name r.id }

/-- `write` at the time `now` -/
def write (rt : MemoryRuntime) (now : Time) (r : MemoryRecord) (s : InMemoryStore) : InMemoryStore :=
  syncNoteIndex rt (r.markUpdated now) (s.file (r.markUpdated now))

def get (s : InMemoryStore) (memoryId : PyStr) : Option MemoryRecord :=
  match s.records.get? memoryId with
  | none => none
  | some r => if r.isDeleted then none else some r

/-- `_matches_text` -/
def matchesText (rt : MemoryRuntime) (r : MemoryRecord) (text : PyStr) : Bool :=
  contains (rt.lower (joinWith (py " ")
    [r.content, joinWith (py " ") r.tags,
      rt.str (.dict (r.metadata.dict.items.map fun kv => (.str kv.1, kv.2))), r.type.value])) text

/-- The tests of `search` on a record, apart from the one on deletion. -/
def admits (rt : MemoryRuntime) (q : MemoryQuery) (r : MemoryRecord) : Bool :=
  let text := strip (rt.lower q.text)
  let tags := q.tags.getD []
  !(q.userId.any (· ≠ []) && r.userId ≠ q.userId) &&
  !(q.sessionId.any (· ≠ []) && r.sessionId ≠ q.sessionId) &&
  !(q.types.any (· ≠ []) && !(q.types.any fun ts => r.type ∈ ts)) &&
  !(tags ≠ [] && !(tags.any fun t => t ∈ r.tags)) &&
  !(text ≠ [] && !matchesText rt r text)

def search (rt : MemoryRuntime) (q : MemoryQuery) (s : InMemoryStore) : List MemoryRecord :=
  sliceTo q.limit (sortDescending MemoryRecord.rank
    (s.records.values.filter fun r => !(r.isDeleted && !q.includeDeleted) && admits rt q r))

def dropNote (rt : MemoryRuntime) (r : MemoryRecord) (s : InMemoryStore) : InMemoryStore :=
  match noteName rt r with
  | none => s
  | some name =>
    if s.noteIndex.get? name = some r.id then { s with noteIndex := s.noteIndex.erase name } else s

def tombstone (now : Time) (reason : Option PyStr) (r : MemoryRecord) : MemoryRecord :=
  match reason with
  | none => r.markDeleted now
  | some [] => r.markDeleted now
  | some why => { r with metadata := r.metadata.setDeleteReason why }.markDeleted now

def delete (rt : MemoryRuntime) (now : Time) (memoryId : PyStr) (reason : Option PyStr)
    (s : InMemoryStore) : Bool × InMemoryStore :=
  match s.get memoryId with
  | none => (false, s)
  | some r => (true, dropNote rt (tombstone now reason r) (s.file (tombstone now reason r)))

def listAll (includeDeleted : Bool) (s : InMemoryStore) : List MemoryRecord :=
  sortDescending MemoryRecord.updatedAt
    (if includeDeleted then s.records.values else s.records.values.filter fun r => !r.isDeleted)

/-! ### the live records -/

/-- The records that are not deleted, in insertion order. -/
def live (s : InMemoryStore) : List MemoryRecord := s.records.values.filter fun r => !r.isDeleted

theorem syncNoteIndex_records (rt : MemoryRuntime) (r : MemoryRecord) (s : InMemoryStore) :
    (syncNoteIndex rt r s).records = s.records := by
  unfold syncNoteIndex
  split_ifs
  · rfl
  · split <;> rfl

theorem dropNote_records (rt : MemoryRuntime) (r : MemoryRecord) (s : InMemoryStore) :
    (dropNote rt r s).records = s.records := by
  unfold dropNote
  split
  · rfl
  · split_ifs <;> rfl

theorem get?_eq_some {s : InMemoryStore} {k : PyStr} {r : MemoryRecord} :
    s.records.get? k = some r ↔ r ∈ s.records.values ∧ r.id = k := by
  rw [Dict.get?_eq_some]
  constructor
  · intro h
    exact ⟨List.mem_map.mpr ⟨_, h, rfl⟩, (s.keyed _ h).symm⟩
  · rintro ⟨h, rfl⟩
    obtain ⟨⟨k, v⟩, hkv, rfl⟩ := List.mem_map.mp h
    rw [← s.keyed _ hkv]
    exact hkv

theorem ids_eq_keys (s : InMemoryStore) : s.records.values.map MemoryRecord.id = s.records.keys := by
  unfold Dict.values Dict.keys
  rw [List.map_map]
  exact List.map_congr_left fun kv hkv => (s.keyed kv hkv).symm

theorem ids_nodup (s : InMemoryStore) : (s.records.values.map MemoryRecord.id).Nodup := by
  rw [ids_eq_keys]
  exact s.records.nodup

theorem mem_live {s : InMemoryStore} {r : MemoryRecord} :
    r ∈ s.live ↔ s.records.get? r.id = some r ∧ r.isDeleted = false := by
  unfold live
  rw [List.mem_filter, Bool.not_eq_true', get?_eq_some]
  exact and_congr_left fun _ => ⟨fun h => ⟨h, rfl⟩, fun h => h.1⟩

theorem live_ids_nodup (s : InMemoryStore) : (s.live.map MemoryRecord.id).Nodup :=
  s.ids_nodup.sublist (List.filter_sublist.map _)

theorem live_nodup (s : InMemoryStore) : s.live.Nodup := List.Nodup.of_map _ s.live_ids_nodup

theorem live_id_inj {s : InMemoryStore} {r r' : MemoryRecord} (h : r ∈ s.live) (h' : r' ∈ s.live)
    (e : r.id = r'.id) : r = r' := by
  have h1 := (mem_live.mp h).1
  rw [e, (mem_live.mp h').1] at h1
  exact (Option.some.inj h1).symm

theorem get_eq_some {s : InMemoryStore} {k : PyStr} {r : MemoryRecord} :
    s.get k = some r ↔ r ∈ s.live ∧ r.id = k := by
  rw [mem_live]
  unfold get
  constructor
  · intro h
    split at h
    · exact absurd h (by simp)
    · next r' e =>
      split_ifs at h with hd
      cases h
      have hid := (get?_eq_some.mp e).2
      refine ⟨⟨?_, eq_false_of_ne_true hd⟩, hid⟩
      rw [hid]
      exact e
  · rintro ⟨⟨h, hd⟩, rfl⟩
    rw [h]
    dsimp only
    rw [hd, if_neg Bool.false_ne_true]

/-! ### what a write and a deletion do to the live records -/

@[simp] theorem tombstone_id (now : Time) (reason : Option PyStr) (r : MemoryRecord) :
    (tombstone now reason r).id = r.id := by
  unfold tombstone
  split <;> rfl

@[simp] theorem tombstone_isDeleted (now : Time) (reason : Option PyStr) (r : MemoryRecord) :
    (tombstone now reason r).isDeleted = true := by
  unfold tombstone
  split <;> rfl

theorem values_file_of_mem {s : InMemoryStore} {r : MemoryRecord} (h : r.id ∈ s.records.keys) :
    (s.file r).records.values = s.records.values.map fun x => if x.id = r.id then r else x := by
  show (upsert r.id r s.records.items).map Prod.snd = (s.records.items.map Prod.snd).map _
  rw [upsert_eq_map s.records.nodup h, List.map_map, List.map_map]
  refine List.map_congr_left fun kv hkv => ?_
  show (if kv.1 = r.id then (r.id, r) else kv).2 = if kv.2.id = r.id then r else kv.2
  rw [← s.keyed kv hkv]
  split_ifs <;> rfl

theorem values_file_of_notMem {s : InMemoryStore} {r : MemoryRecord} (h : r.id ∉ s.records.keys) :
    (s.file r).records.values = s.records.values ++ [r] := by
  show (upsert r.id r s.records.items).map Prod.snd = _
  rw [upsert_of_notMem h, List.map_append]
  rfl

theorem live_congr {s s' : InMemoryStore} (h : s.records = s'.records) : s.live = s'.live := by
  unfold live
  rw [h]

theorem delete_records (rt : MemoryRuntime) (now : Time) (k : PyStr) (reason : Option PyStr)
    (s : InMemoryStore) :
    (∃ r ∈ s.live, r.id = k ∧ (s.delete rt now k reason).1 = true ∧
        (s.delete rt now k reason).2.records = (s.file (tombstone now reason r)).records) ∨
      (s.get k = none ∧ s.delete rt now k reason = (false, s)) := by
  unfold delete
  cases e : s.get k with
  | none => exact .inr ⟨rfl, rfl⟩
  | some r =>
    obtain ⟨hr, hk⟩ := get_eq_some.mp e
    exact .inl ⟨r, hr, hk, rfl, dropNote_records rt _ _⟩

theorem live_delete (rt : MemoryRuntime) (now : Time) (k : PyStr) (reason : Option PyStr)
    (s : InMemoryStore) :
    (s.delete rt now k reason).2.live = s.live.filter fun r => r.id ≠ k := by
  rcases delete_records rt now k reason s with ⟨r, hr, rfl, -, e⟩ | ⟨hnone, e⟩
  · have hkey : (tombstone now reason r).id ∈ s.records.keys := by
      rw [tombstone_id, ← ids_eq_keys]
      exact List.mem_map_of_mem (List.mem_of_mem_filter hr)
    rw [live_congr e]
    unfold live
    rw [values_file_of_mem hkey, tombstone_id]
    induction s.records.values with
    | nil => rfl
    | cons x xs ih =>
      rw [List.map_cons]
      by_cases hx : x.id = r.id
      · rw [if_pos hx, List.filter_cons_of_neg (by rw [tombstone_isDeleted]; simp), ih]
        rw [List.filter_filter, List.filter_filter, List.filter_cons_of_neg (by simp [hx])]
      · rw [if_neg hx]
        cases hd : x.isDeleted with
        | true =>
          rw [List.filter_cons_of_neg (by simp [hd]), List.filter_cons_of_neg (by simp [hd])]
          exact ih
        | false =>
          rw [List.filter_cons_of_pos (by simp [hd]), List.filter_cons_of_pos (by simp [hd]),
            List.filter_cons_of_pos (by simp [hx]), ih]
  · rw [e]
    refine (List.filter_eq_self.mpr fun r hr => ?_).symm
    rw [decide_eq_true_eq]
    intro hk
    rw [get_eq_some.mpr ⟨hr, hk⟩] at hnone
    exact absurd hnone (by simp)

theorem get?_delete {rt : MemoryRuntime} {now : Time} {k : PyStr} {reason : Option PyStr}
    {s : InMemoryStore} {k' : PyStr} (h : k' ≠ k ∨ ∀ r, s.records.get? k' = some r → r.isDeleted = true) :
    (s.delete rt now k reason).2.records.get? k' = s.records.get? k' := by
  rcases delete_records rt now k reason s with ⟨r, hr, rfl, -, e⟩ | ⟨-, e⟩
  · rw [e]
    show (s.records.set _ _).get? k' = _
    rw [Dict.get?_set, tombstone_id, if_neg]
    rintro rfl
    rcases h with h | h
    · exact h rfl
    · have hlive := mem_live.mp hr
      rw [h r hlive.1] at hlive
      exact absurd hlive.2 (by simp)
  · rw [e]

theorem keys_delete (rt : MemoryRuntime) (now : Time) (k : PyStr) (reason : Option PyStr)
    (s : InMemoryStore) : (s.delete rt now k reason).2.records.keys = s.records.keys := by
  rcases delete_records rt now k reason s with ⟨r, hr, rfl, -, e⟩ | ⟨-, e⟩
  · rw [e]
    refine upsert_of_mem ?_ _
    rw [tombstone_id]
    show r.id ∈ s.records.keys
    rw [← ids_eq_keys]
    exact List.mem_map_of_mem (List.mem_of_mem_filter hr)
  · rw [e]

theorem live_write {rt : MemoryRuntime} {now : Time} {r : MemoryRecord} {s : InMemoryStore}
    (hfresh : r.id ∉ s.records.keys) (hlive : r.isDeleted = false) :
    (s.write rt now r).live = s.live ++ [r.markUpdated now] := by
  unfold write
  rw [live_congr (syncNoteIndex_records rt _ _)]
  unfold live
  rw [values_file_of_notMem (r := r.markUpdated now) hfresh, List.filter_append,
    List.filter_cons_of_pos (by rw [Bool.not_eq_true']; exact hlive)]
  rfl

theorem keys_write {rt : MemoryRuntime} {now : Time} {r : MemoryRecord} {s : InMemoryStore}
    (hfresh : r.id ∉ s.records.keys) : (s.write rt now r).records.keys = s.records.keys ++ [r.id] := by
  unfold write
  rw [syncNoteIndex_records]
  show (upsert r.id (r.markUpdated now) s.records.items).map Prod.fst = _
  rw [upsert_of_notMem hfresh, List.map_append]
  rfl

theorem values_write {rt : MemoryRuntime} {now : Time} {x r : MemoryRecord} {s : InMemoryStore}
    (h : r ∈ (s.write rt now x).records.values) : r ∈ s.records.values ∨ r = x.markUpdated now := by
  unfold write at h
  rw [syncNoteIndex_records] at h
  obtain ⟨kv, hkv, rfl⟩ := List.mem_map.mp h
  rcases mem_upsert hkv with rfl | hkv
  · exact .inr rfl
  · exact .inl (List.mem_map_of_mem hkv)

theorem values_delete {rt : MemoryRuntime} {now : Time} {k : PyStr} {reason : Option PyStr}
    {r : MemoryRecord} {s : InMemoryStore} (h : r ∈ (s.delete rt now k reason).2.records.values) :
    r ∈ s.records.values ∨ ∃ x ∈ s.records.values, r = tombstone now reason x := by
  rcases delete_records rt now k reason s with ⟨x, hx, -, -, e⟩ | ⟨-, e⟩
  · rw [e] at h
    obtain ⟨kv, hkv, rfl⟩ := List.mem_map.mp h
    rcases mem_upsert hkv with rfl | hkv
    · exact .inr ⟨x, List.mem_of_mem_filter hx, rfl⟩
    · exact .inl (List.mem_map_of_mem hkv)
  · rw [e] at h
    exact .inl h

theorem mem_live_write {rt : MemoryRuntime} {now : Time} {x : MemoryRecord} {s : InMemoryStore}
    (hx : x.isDeleted = false) {r : MemoryRecord} :
    r ∈ (s.write rt now x).live ↔ r = x.markUpdated now ∨ (r ∈ s.live ∧ r.id ≠ x.id) := by
  have hget : ∀ k, (s.write rt now x).records.get? k =
      if k = x.id then some (x.markUpdated now) else s.records.get? k := by
    intro k
    unfold write
    rw [syncNoteIndex_records]
    exact Dict.get?_set _ _ _ _
  rw [mem_live, mem_live, hget]
  by_cases h : r.id = x.id
  · rw [if_pos h]
    constructor
    · rintro ⟨e, -⟩
      exact .inl (Option.some.inj e).symm
    · rintro (rfl | ⟨-, hne⟩)
      · exact ⟨rfl, hx⟩
      · exact absurd h hne
  · rw [if_neg h]
    constructor
    · intro hr
      exact .inr ⟨hr, h⟩
    · rintro (rfl | ⟨hr, -⟩)
      · exact absurd rfl h
      · exact hr

/-! ### what a reader sees -/

/-- A search that leaves out the deleted records ranks the live ones it admits. -/
theorem search_eq (rt : MemoryRuntime) {q : MemoryQuery} (h : q.includeDeleted = false)
    (s : InMemoryStore) :
    s.search rt q = sliceTo q.limit (sortDescending MemoryRecord.rank (s.live.filter (admits rt q))) := by
  unfold search live
  rw [List.filter_filter, h]
  refine congrArg (fun p => sliceTo q.limit (sortDescending MemoryRecord.rank (List.filter p _))) ?_
  funext r
  rw [Bool.not_false, Bool.and_true, Bool.and_comm]

theorem mem_search {rt : MemoryRuntime} {q : MemoryQuery} (h : q.includeDeleted = false)
    {s : InMemoryStore} {r : MemoryRecord} (hr : r ∈ s.search rt q) : r ∈ s.live ∧ admits rt q r = true := by
  rw [search_eq rt h] at hr
  exact List.mem_filter.mp (mem_sortDescending.mp (List.mem_of_mem_take hr))

theorem mem_listAll {s : InMemoryStore} {r : MemoryRecord} : r ∈ s.listAll false ↔ r ∈ s.live := by
  unfold listAll
  rw [mem_sortDescending, if_neg Bool.false_ne_true]
  rfl

end InMemoryStore
end Tomtit
