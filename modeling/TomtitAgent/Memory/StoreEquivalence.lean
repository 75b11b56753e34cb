import TomtitAgent.Memory.FileMemoryStore

/-!
# `InMemoryStore` and `FileMemoryStore`

The two stores, given the same calls and the same clock.  The records of the one are the latest lines of
the file of the other (`Mirrors`), in the same order; this needs no more than that every record can be
stored as its line and that no write goes back in time.  The notes agree as long as the index leads to
the newest note of each name (`InStep`): the file store has no index and looks for that one.

* `Call.keepsStores`   the calls after which the stores still agree;
* `stores_agree_of_run`   in a run of such calls both stores return the same.
-/

namespace Tomtit
open Py

section
variable (fr : FileRuntime)

/-- The note of a name that `FileMemoryStore` finds. -/
def newestNote (name : PyStr) (s : InMemoryStore) : Option MemoryRecord :=
  (sortDescending MemoryRecord.updatedAt (s.live.filter (FileMemoryStore.isCandidate fr name))).head?

/-- The record can be stored, and as a live note it is the newest of its name. -/
def Fits (r' : MemoryRecord) (s : InMemoryStore) : Prop :=
  Storable fr r' ∧ ∀ n, noteOf fr.toMemoryRuntime r' = some n → newestNote fr n (s.file r') = some r'

/-- A record that is appended is not older than the record of its id. -/
def NotOlder (r' : MemoryRecord) (s : InMemoryStore) : Prop :=
  ∀ current, s.records.get? r'.id = some current → current.updatedAt ≤ r'.updatedAt

/-- The calls after which the two stores still agree. -/
def Call.keepsStores (m : Readings) (s : InMemoryStore) (c : Call) : Prop :=
  c.keepsIndex fr.toMemoryRuntime m s ∧
  match c with
  | .write r => Fits fr (r.markUpdated (m.now 0)) s ∧ NotOlder (r.markUpdated (m.now 0)) s
  | .update k patch => ∀ r, s.get k = some r → Fits fr ((r.applyPatch patch).markUpdated (m.now 0)) s
  | .delete k why => ∀ r, s.get k = some r → Fits fr (InMemoryStore.tombstone (m.now 0) why r) s
  | .writeNote name text => strip name ≠ [] →
      match s.indexedNote (strip name) with
      | some r => Fits fr ({ r with content := text }.markUpdated (m.now 0)) s
      | none =>
        let r := (newNote m (strip name) text).markUpdated (m.now 2)
        Fits fr r s ∧ NotOlder r s
  | _ => True

/-! ### the records -/

/-- The file holds the records of the other store, in their order. -/
structure Mirrors (s : InMemoryStore) (f : FileMemoryStore) : Prop where
  rows : ∃ rs, f.Holds fr rs ∧ latestOf rs = s.records
  storable : ∀ r ∈ s.records.values, Storable fr r

theorem Mirrors.empty : Mirrors fr InMemoryStore.empty FileMemoryStore.empty where
  rows := ⟨[], ⟨[], rfl, TextHolds.nil fr⟩, rfl⟩
  storable _ h := absurd h List.not_mem_nil

section
variable {fr} {s s' : InMemoryStore} {f : FileMemoryStore} {r' : MemoryRecord} {stale : Option PyStr}

theorem Mirrors.load (h : Mirrors fr s f) : f.loadLatestRecords fr = .ok s.records := by
  obtain ⟨rs, hrs, e⟩ := h.rows
  unfold FileMemoryStore.loadLatestRecords
  rw [hrs.rows, ← e]
  rfl

theorem storable_set (h : ∀ r ∈ s.records.values, Storable fr r) (hr : Storable fr r') :
    ∀ r ∈ (s.records.set r'.id r').values, Storable fr r := by
  intro r hmem
  obtain ⟨kv, hkv, rfl⟩ := List.mem_map.mp hmem
  rcases mem_upsert hkv with rfl | hkv
  · exact hr
  · exact h _ (List.mem_map_of_mem hkv)

theorem Mirrors.append (h : Mirrors fr s f) (hs : s'.records = s.records.set r'.id r')
    (hr : Storable fr r') (hle : NotOlder r' s) :
    (f.appendJsonl fr r').1 = .ok () ∧ Mirrors fr s' (f.appendJsonl fr r').2 := by
  obtain ⟨rs, hrs, e⟩ := h.rows
  obtain ⟨hok, hholds⟩ := hrs.appendJsonl fr hr
  refine ⟨hok, ⟨rs ++ [r'], hholds, ?_⟩, ?_⟩
  · rw [hs, ← e]
    unfold latestOf
    rw [List.foldl_append]
    show keepLatest (latestOf rs) r' = _
    refine keepLatest_of_le fun current hc => hle current ?_
    rw [← e]
    exact hc
  · rw [hs]
    exact storable_set h.storable hr

theorem liveRecord_eq (k : PyStr) : liveRecord s.records k = s.get k := rfl

theorem Mirrors.replace (h : Mirrors fr s f) {k : PyStr} {g : MemoryRecord → MemoryRecord}
    {r : MemoryRecord} (hget : s.get k = some r) (hid : (g r).id = r.id)
    (hs : s'.records = s.records.set (g r).id (g r)) (hr : Storable fr (g r)) :
    (f.replaceRecord fr k g).1 = .ok (some (g r)) ∧
      Mirrors fr s' (f.replaceRecord fr k g).2 := by
  have hk : k = (g r).id := by
    rw [hid]
    exact (InMemoryStore.get_eq_some.mp hget).2.symm
  have hall : ∀ x ∈ (s.records.set k (g r)).values, Storable fr x := by
    rw [hk]
    exact storable_set h.storable hr
  obtain ⟨hok, hholds⟩ := rewriteRecords_holds fr hall f
  unfold FileMemoryStore.replaceRecord
  rw [h.load]
  dsimp only
  rw [liveRecord_eq, hget]
  dsimp only
  rw [hok]
  have hrec : s'.records.values = (s.records.set k (g r)).values := by rw [hs, ← hk]
  refine ⟨rfl, ⟨_, hholds, ?_⟩, ?_⟩
  · rw [← hrec]
    exact latestOf_values s'
  · rw [hrec]
    exact hall

theorem Mirrors.replace_none (h : Mirrors fr s f) {k : PyStr} {g : MemoryRecord → MemoryRecord}
    (hget : s.get k = none) : f.replaceRecord fr k g = (.ok none, f) := by
  unfold FileMemoryStore.replaceRecord
  rw [h.load]
  dsimp only
  rw [liveRecord_eq, hget]

theorem Mirrors.write (h : Mirrors fr s f) {m : Readings} {r : MemoryRecord}
    (hst : Storable fr (r.markUpdated (m.now 0))) (hle : NotOlder (r.markUpdated (m.now 0)) s) :
    (f.call fr m (.write r)).1 = (s.call fr.toMemoryRuntime m (.write r)).1 ∧
      Mirrors fr (s.call fr.toMemoryRuntime m (.write r)).2 (f.call fr m (.write r)).2 := by
  obtain ⟨hok, hmirrors⟩ := h.append (refiled_write fr.toMemoryRuntime (m.now 0) r s).records hst hle
  refine ⟨?_, hmirrors⟩
  show (((f.appendJsonl fr (r.markUpdated (m.now 0))).1.map fun _ => r.markUpdated (m.now 0)).map
    Reply.record : Except PyExc Reply) = _
  rw [hok]
  rfl

theorem Mirrors.update (h : Mirrors fr s f) {m : Readings} {k : PyStr} {patch : List PatchField}
    (hst : ∀ r, s.get k = some r → Storable fr ((r.applyPatch patch).markUpdated (m.now 0))) :
    (f.call fr m (.update k patch)).1 = (s.call fr.toMemoryRuntime m (.update k patch)).1 ∧
      Mirrors fr (s.call fr.toMemoryRuntime m (.update k patch)).2 (f.call fr m (.update k patch)).2 := by
  unfold InMemoryStore.call FileMemoryStore.call FileMemoryStore.update
  dsimp only
  cases e : s.get k with
  | none =>
    have hsame : s.update fr.toMemoryRuntime (m.now 0) k patch = (none, s) := by
      unfold InMemoryStore.update
      rw [e]
    rw [h.replace_none e, hsame]
    exact ⟨rfl, h⟩
  | some r =>
    have hid : ((r.applyPatch patch).markUpdated (m.now 0)).id = r.id := MemoryRecord.applyPatch_id patch r
    obtain ⟨hok, hmirrors⟩ := h.replace e (g := fun r => (r.applyPatch patch).markUpdated (m.now 0)) hid
      (refiled_update fr.toMemoryRuntime e).records (hst r e)
    have hret : (s.update fr.toMemoryRuntime (m.now 0) k patch).1 =
        some ((r.applyPatch patch).markUpdated (m.now 0)) := by
      unfold InMemoryStore.update
      rw [e]
    refine ⟨?_, hmirrors⟩
    rw [hok, hret]
    rfl

theorem Mirrors.delete (h : Mirrors fr s f) {m : Readings} {k : PyStr} {why : Option PyStr}
    (hst : ∀ r, s.get k = some r → Storable fr (InMemoryStore.tombstone (m.now 0) why r)) :
    (f.call fr m (.delete k why)).1 = (s.call fr.toMemoryRuntime m (.delete k why)).1 ∧
      Mirrors fr (s.call fr.toMemoryRuntime m (.delete k why)).2 (f.call fr m (.delete k why)).2 := by
  unfold InMemoryStore.call FileMemoryStore.call FileMemoryStore.delete
  dsimp only
  cases e : s.get k with
  | none =>
    have hsame : s.delete fr.toMemoryRuntime (m.now 0) k why = (false, s) := by
      unfold InMemoryStore.delete
      rw [e]
    rw [h.replace_none e, hsame]
    exact ⟨rfl, h⟩
  | some r =>
    obtain ⟨hok, hmirrors⟩ := h.replace e (InMemoryStore.tombstone_id _ why r)
      (refiled_delete fr.toMemoryRuntime e).records (hst r e)
    have hret : (s.delete fr.toMemoryRuntime (m.now 0) k why).1 = true := by
      unfold InMemoryStore.delete
      rw [e]
    refine ⟨?_, hmirrors⟩
    rw [hok, hret]
    rfl

/-! ### the readers of the records -/

theorem Mirrors.get (h : Mirrors fr s f) (k : PyStr) : f.get fr k = .ok (s.get k) := by
  unfold FileMemoryStore.get
  rw [h.load]
  rfl

theorem Mirrors.listAll (h : Mirrors fr s f) (deleted : Bool) :
    f.listAll fr deleted = .ok (s.listAll deleted) := by
  unfold FileMemoryStore.listAll
  rw [h.load]
  rfl

theorem Mirrors.search (h : Mirrors fr s f) (q : MemoryQuery) :
    f.search fr q = .ok (s.search fr.toMemoryRuntime q) := by
  have hfine : ∀ a b : MemoryRecord, a.rank = b.rank → a.updatedAt = b.updatedAt := fun a b e =>
    (Prod.mk.inj (toLex.injective e)).2
  unfold FileMemoryStore.search
  rw [h.listAll]
  refine congrArg Except.ok (congrArg (sliceTo q.limit) ?_)
  unfold InMemoryStore.listAll
  rw [sortDescending_filter_sort hfine]
  refine congrArg (sortDescending MemoryRecord.rank) ?_
  by_cases hd : q.includeDeleted = true
  · rw [if_pos hd, hd]
    refine List.filter_congr fun r _ => ?_
    rw [Bool.not_true, Bool.and_false, Bool.not_false, Bool.true_and]
  · rw [if_neg hd, List.filter_filter]
    refine List.filter_congr fun r _ => ?_
    rw [Bool.not_eq_true] at hd
    rw [hd, Bool.not_false, Bool.and_true, Bool.and_comm]

theorem Mirrors.latestNoteByName (h : Mirrors fr s f) (name : PyStr) :
    f.latestNoteByName fr name = .ok (if strip name = [] then none else newestNote fr (strip name) s) := by
  unfold FileMemoryStore.latestNoteByName
  by_cases hname : strip name = []
  · rw [if_pos hname, if_pos hname]
  · rw [if_neg hname, if_neg hname, h.listAll]
    refine congrArg Except.ok (congrArg List.head? ?_)
    unfold InMemoryStore.listAll
    rw [if_neg Bool.false_ne_true, sortDescending_filter_sort fun _ _ e => e]
    rfl

/-! ### the notes -/

theorem isCandidate_iff {name : PyStr} {r : MemoryRecord} :
    FileMemoryStore.isCandidate fr name r = true ↔ noteOf fr.toMemoryRuntime r = some name := by
  rw [noteOf_eq_some]
  unfold FileMemoryStore.isCandidate IsNote
  rw [Bool.and_eq_true, Bool.and_eq_true, decide_eq_true_eq, decide_eq_true_eq, Bool.not_eq_true']

theorem mem_of_newestNote {name : PyStr} {r : MemoryRecord} (h : newestNote fr name s = some r) :
    r ∈ s.live ∧ noteOf fr.toMemoryRuntime r = some name := by
  have hsorted : r ∈ sortDescending MemoryRecord.updatedAt
      (s.live.filter (FileMemoryStore.isCandidate fr name)) := List.mem_of_mem_head? h
  obtain ⟨hl, hc⟩ := List.mem_filter.mp (mem_sortDescending.mp hsorted)
  exact ⟨hl, isCandidate_iff.mp hc⟩

theorem newestNote_ne_none {name : PyStr} {r : MemoryRecord} (hl : r ∈ s.live)
    (hn : noteOf fr.toMemoryRuntime r = some name) : newestNote fr name s ≠ none := by
  intro h
  have hnil : sortDescending MemoryRecord.updatedAt
      (s.live.filter (FileMemoryStore.isCandidate fr name)) = [] := List.head?_eq_none_iff.mp h
  have hmem : r ∈ s.live.filter (FileMemoryStore.isCandidate fr name) :=
    List.mem_filter.mpr ⟨hl, isCandidate_iff.mpr hn⟩
  have hsorted : r ∈ sortDescending MemoryRecord.updatedAt
      (s.live.filter (FileMemoryStore.isCandidate fr name)) := mem_sortDescending.mpr hmem
  rw [hnil] at hsorted
  exact absurd hsorted List.not_mem_nil

/-- A record without the name takes its id out of the candidates, and changes nothing else there. -/
theorem candidates_file {name : PyStr} (h : noteOf fr.toMemoryRuntime r' ≠ some name) :
    (s.file r').live.filter (FileMemoryStore.isCandidate fr name) =
      (s.live.filter (FileMemoryStore.isCandidate fr name)).filter fun x => x.id ≠ r'.id := by
  have hnot : FileMemoryStore.isCandidate fr name r' = false := by
    rw [← Bool.not_eq_true]
    exact fun hc => h (isCandidate_iff.mp hc)
  have hvalues : ∀ t : InMemoryStore, t.live.filter (FileMemoryStore.isCandidate fr name) =
      t.records.values.filter (FileMemoryStore.isCandidate fr name) := by
    intro t
    unfold InMemoryStore.live
    rw [List.filter_filter]
    refine List.filter_congr fun x _ => ?_
    cases hx : FileMemoryStore.isCandidate fr name x with
    | false => rw [Bool.false_and]
    | true => rw [Bool.true_and, ((noteOf_eq_some _).mp (isCandidate_iff.mp hx)).2, Bool.not_false]
  rw [hvalues, hvalues]
  by_cases hk : r'.id ∈ s.records.keys
  · rw [InMemoryStore.values_file_of_mem hk]
    induction s.records.values with
    | nil => rfl
    | cons x xs ih =>
      rw [List.map_cons]
      by_cases hx : x.id = r'.id
      · rw [if_pos hx, List.filter_cons_of_neg (by rw [hnot]; simp), ih, List.filter_filter,
          List.filter_filter, List.filter_cons_of_neg (by simp [hx])]
      · rw [if_neg hx]
        cases hc : FileMemoryStore.isCandidate fr name x with
        | false =>
          rw [List.filter_cons_of_neg (by simp [hc]), List.filter_cons_of_neg (by simp [hc])]
          exact ih
        | true =>
          rw [List.filter_cons_of_pos hc, List.filter_cons_of_pos hc,
            List.filter_cons_of_pos (by simp [hx]), ih]
  · rw [InMemoryStore.values_file_of_notMem hk, List.filter_append,
      List.filter_cons_of_neg (by rw [hnot]; simp), List.filter_nil, List.append_nil]
    refine (List.filter_eq_self.mpr fun x hx => ?_).symm
    rw [decide_eq_true_eq]
    intro e
    apply hk
    rw [← e, ← InMemoryStore.ids_eq_keys]
    exact List.mem_map_of_mem (List.mem_filter.mp hx).1

theorem newestNote_file {name : PyStr} {r : MemoryRecord} (h : noteOf fr.toMemoryRuntime r' ≠ some name)
    (hr : newestNote fr name s = some r) (hid : r.id ≠ r'.id) :
    newestNote fr name (s.file r') = some r := by
  unfold newestNote at hr ⊢
  rw [candidates_file h, sortDescending_filter]
  cases hsort : sortDescending MemoryRecord.updatedAt
      (s.live.filter (FileMemoryStore.isCandidate fr name)) with
  | nil =>
    rw [hsort] at hr
    exact absurd hr (by simp)
  | cons x xs =>
    rw [hsort] at hr
    rw [← Option.some.inj hr] at hid
    rw [List.filter_cons_of_pos (by simp [hid]), ← hr]
    rfl

end

structure IndexNewest (s : InMemoryStore) : Prop where
  index : NoteIndex fr.toMemoryRuntime s
  newest : ∀ n r, s.indexedNote n = some r → newestNote fr n s = some r

theorem IndexNewest.empty : IndexNewest fr InMemoryStore.empty where
  index := noteIndex_empty _
  newest _ _ h := absurd ((noteIndex_empty fr.toMemoryRuntime).indexedNote _ h).2.1 List.not_mem_nil

section
variable {fr} {s s' : InMemoryStore} {r' : MemoryRecord} {stale : Option PyStr}

theorem IndexNewest.indexedNote (h : IndexNewest fr s) (n : PyStr) :
    s.indexedNote n = newestNote fr n s := by
  cases e : s.indexedNote n with
  | some r => exact (h.newest n r e).symm
  | none =>
    cases e' : newestNote fr n s with
    | none => rfl
    | some r =>
      obtain ⟨hl, hn⟩ := mem_of_newestNote e'
      exact absurd e ((indexedNote_ne_none _ h.index).mpr ⟨r, hl, (noteOf_live _ hl).mp hn⟩)

theorem IndexNewest.refiled (h : IndexNewest fr s) (hr : Refiled fr.toMemoryRuntime r' stale s s')
    (hk : KeepsIndex fr.toMemoryRuntime r' stale s)
    (hf : ∀ n, noteOf fr.toMemoryRuntime r' = some n → newestNote fr n (s.file r') = some r') :
    IndexNewest fr s' := by
  have hindex := h.index.refiled hr hk
  have hlive : s'.live = (s.file r').live := InMemoryStore.live_congr hr.records
  have hnewest : ∀ n, newestNote fr n s' = newestNote fr n (s.file r') := by
    intro n
    unfold newestNote
    rw [hlive]
  refine ⟨hindex, fun n r hn => ?_⟩
  rw [hnewest]
  obtain ⟨hi, hl, hname⟩ := hindex.indexedNote _ hn
  by_cases hown : noteOf fr.toMemoryRuntime r' = some n
  · rw [hr.index, if_pos hown] at hi
    rcases hr.mem_live.mp hl with ⟨rfl, -⟩ | ⟨-, hne⟩
    · exact hf n hown
    · exact absurd (Option.some.inj hi).symm hne
  · rcases hr.mem_live.mp hl with ⟨rfl, -⟩ | ⟨hl', hne⟩
    · exact absurd hname hown
    · -- the entry and its record are those of the store before
      have hbefore : s.noteIndex.get? n = some r.id := by
        rw [hr.index, if_neg hown] at hi
        split_ifs at hi
        exact hi
      have hget := InMemoryStore.get_eq_some.mpr ⟨hl', rfl⟩
      have hnote : s.indexedNote n = some r := by
        unfold InMemoryStore.indexedNote
        rw [hbefore]
        dsimp only
        rw [if_neg (h.index.sound n r.id r hbefore hget).1, hget]
      exact newestNote_file hown (h.newest n r hnote) hne

theorem listNotes_eq (h : IndexNewest fr s) {f : FileMemoryStore} (hm : Mirrors fr s f) :
    f.listNotes fr = .ok s.listNotes := by
  unfold FileMemoryStore.listNotes
  rw [hm.listAll]
  refine congrArg Except.ok (strict_sorted_ext (sortedSet_strict _) (listNotes_sorted s) fun n => ?_)
  rw [mem_sortedSet, List.mem_filterMap, mem_listNotes _ h.index]
  constructor
  · rintro ⟨r, hr, hn⟩
    obtain ⟨hl, ht⟩ := List.mem_filter.mp hr
    exact ⟨r, InMemoryStore.mem_listAll.mp hl, of_decide_eq_true ht, hn⟩
  · rintro ⟨r, hl, ht, hn⟩
    exact ⟨r, List.mem_filter.mpr ⟨InMemoryStore.mem_listAll.mpr hl, decide_eq_true ht⟩, hn⟩

theorem readNote_eq (h : IndexNewest fr s) {f : FileMemoryStore} (hm : Mirrors fr s f) (name : PyStr) :
    f.readNote fr name = .ok (s.readNote name) := by
  unfold FileMemoryStore.readNote InMemoryStore.readNote
  rw [hm.latestNoteByName, strip_strip, h.indexedNote]
  by_cases hname : strip name = []
  · have hnone : newestNote fr (strip name) s = none := by
      rw [← h.indexedNote, ← not_not (a := s.indexedNote _ = none), ← Ne, indexedNote_ne_none _ h.index]
      rintro ⟨r, -, -, hn⟩
      exact noteName_ne_nil hn hname
    rw [if_pos hname, hnone]
    rfl
  · rw [if_neg hname]
    rfl

/-! ### one call -/

section
variable {f : FileMemoryStore} {m : Readings}

/-- What a call returns in the two stores, and what it keeps. -/
def Agrees (fr : FileRuntime) (m : Readings) (c : Call) (s : InMemoryStore) (f : FileMemoryStore) : Prop :=
  (f.call fr m c).1 = (s.call fr.toMemoryRuntime m c).1 ∧
    IndexNewest fr (s.call fr.toMemoryRuntime m c).2 ∧
    Mirrors fr (s.call fr.toMemoryRuntime m c).2 (f.call fr m c).2

theorem agrees_write (h : IndexNewest fr s) (hm : Mirrors fr s f) {r : MemoryRecord}
    (hc : (Call.write r).keepsStores fr m s) : Agrees fr m (.write r) s f := by
  obtain ⟨hk, ⟨hst, hnew⟩, hle⟩ := hc
  obtain ⟨hsame, hmirrors⟩ := hm.write hst hle
  exact ⟨hsame, h.refiled (refiled_write fr.toMemoryRuntime (m.now 0) r s) hk hnew, hmirrors⟩

theorem agrees_update (h : IndexNewest fr s) (hm : Mirrors fr s f) {k : PyStr} {patch : List PatchField}
    (hc : (Call.update k patch).keepsStores fr m s) : Agrees fr m (.update k patch) s f := by
  obtain ⟨hk, hfit⟩ := hc
  obtain ⟨hsame, hmirrors⟩ := hm.update fun r e => (hfit r e).1
  refine ⟨hsame, ?_, hmirrors⟩
  cases e : s.get k with
  | none =>
    show IndexNewest fr (s.update fr.toMemoryRuntime (m.now 0) k patch).2
    unfold InMemoryStore.update
    rw [e]
    exact h
  | some r => exact h.refiled (refiled_update fr.toMemoryRuntime e) (hk r e) (hfit r e).2

theorem agrees_delete (h : IndexNewest fr s) (hm : Mirrors fr s f) {k : PyStr} {why : Option PyStr}
    (hc : (Call.delete k why).keepsStores fr m s) : Agrees fr m (.delete k why) s f := by
  obtain ⟨hk, hfit⟩ := hc
  obtain ⟨hsame, hmirrors⟩ := hm.delete fun r e => (hfit r e).1
  refine ⟨hsame, ?_, hmirrors⟩
  cases e : s.get k with
  | none =>
    show IndexNewest fr (s.delete fr.toMemoryRuntime (m.now 0) k why).2
    unfold InMemoryStore.delete
    rw [e]
    exact h
  | some r => exact h.refiled (refiled_delete fr.toMemoryRuntime e) (hk r e) (hfit r e).2

theorem agrees_writeNote (h : IndexNewest fr s) (hm : Mirrors fr s f) {name text : PyStr}
    (hc : (Call.writeNote name text).keepsStores fr m s) : Agrees fr m (.writeNote name text) s f := by
  obtain ⟨hk, hfit⟩ := hc
  unfold Agrees InMemoryStore.call FileMemoryStore.call
  dsimp only
  by_cases hname : strip name = []
  · have hleft : s.writeNote fr.toMemoryRuntime m name text = (.error emptyNoteName, s) := by
      unfold InMemoryStore.writeNote
      rw [if_pos hname]
    have hright : f.writeNote fr m name text = (.error emptyNoteName, f) := by
      unfold FileMemoryStore.writeNote
      rw [if_pos hname]
    rw [hleft, hright]
    exact ⟨rfl, h, hm⟩
  · have hfound : f.latestNoteByName fr (strip name) = .ok (s.indexedNote (strip name)) := by
      rw [hm.latestNoteByName, strip_strip, if_neg hname, h.indexedNote]
    cases e : s.indexedNote (strip name) with
    | none =>
      have hfits := hfit hname
      rw [e] at hfits
      obtain ⟨⟨hst, hnew⟩, hle⟩ := hfits
      have hr := @refiled_newNote fr.toMemoryRuntime m name text s hname e
      obtain ⟨hok, hmirrors⟩ := hm.append hr.records hst hle
      have hleft : (s.writeNote fr.toMemoryRuntime m name text).1 =
          .ok ((newNote m (strip name) text).markUpdated (m.now 2)) := by
        unfold InMemoryStore.writeNote
        rw [if_neg hname, e]
      have hright : f.writeNote fr m name text =
          f.write fr (m.now 2) (newNote m (strip name) text) := by
        unfold FileMemoryStore.writeNote
        rw [if_neg hname, hfound, e]
      rw [hright]
      refine ⟨?_, h.refiled hr (hk hname e) hnew, hmirrors⟩
      rw [hleft]
      unfold FileMemoryStore.write
      dsimp only
      rw [hok]
      rfl
    | some r =>
      have hfits := hfit hname
      rw [e] at hfits
      obtain ⟨hst, hnew⟩ := hfits
      have hr := @refiled_writeNote fr.toMemoryRuntime m name text s r h.index hname e
      obtain ⟨hi, hl, hn⟩ := h.index.indexedNote _ e
      have hget := InMemoryStore.get_eq_some.mpr ⟨hl, rfl⟩
      have hkeeps : KeepsIndex fr.toMemoryRuntime ({ r with content := text }.markUpdated (m.now 0)) none s :=
        ⟨fun _ => (h.index.sound _ _ r hi hget).1,
          fun n hin hne => absurd (h.index.sound n _ r hin hget).2 hne⟩
      obtain ⟨hok, hmirrors⟩ := hm.replace hget
        (g := fun r => (r.applyPatch [.content text]).markUpdated (m.now 0)) rfl hr.records hst
      have hleft : (s.writeNote fr.toMemoryRuntime m name text).1 =
          .ok ({ r with content := text }.markUpdated (m.now 0)) := by
        unfold InMemoryStore.writeNote
        rw [if_neg hname, e]
      have hright : f.writeNote fr m name text =
          (((f.update fr (m.now 0) r.id [.content text]).1.map fun x => x.getD r),
            (f.update fr (m.now 0) r.id [.content text]).2) := by
        unfold FileMemoryStore.writeNote
        rw [if_neg hname, hfound, e]
      rw [hright]
      refine ⟨?_, h.refiled hr hkeeps hnew, hmirrors⟩
      rw [hleft]
      unfold FileMemoryStore.update
      dsimp only
      rw [hok]
      rfl

/-- A call that meets the condition returns the same in both stores, and they still agree after it. -/
theorem agrees_call (h : IndexNewest fr s) (hm : Mirrors fr s f) {c : Call}
    (hc : c.keepsStores fr m s) : Agrees fr m c s f := by
  cases c with
  | write r => exact agrees_write h hm hc
  | update k patch => exact agrees_update h hm hc
  | delete k why => exact agrees_delete h hm hc
  | writeNote name text => exact agrees_writeNote h hm hc
  | get k =>
    refine ⟨?_, h, hm⟩
    show (f.get fr k).map Reply.found = _
    rw [hm.get]
    rfl
  | search q =>
    refine ⟨?_, h, hm⟩
    show (f.search fr q).map Reply.records = _
    rw [hm.search]
    rfl
  | listAll deleted =>
    refine ⟨?_, h, hm⟩
    show (f.listAll fr deleted).map Reply.records = _
    rw [hm.listAll]
    rfl
  | readNote name =>
    refine ⟨?_, h, hm⟩
    show (f.readNote fr name).map Reply.content = _
    rw [readNote_eq h hm]
    rfl
  | listNotes =>
    refine ⟨?_, h, hm⟩
    show (f.listNotes fr).map Reply.names = _
    rw [listNotes_eq h hm]
    rfl

end

end

/-! ### runs -/

def bothAfter (a : Readings × Call) (w : InMemoryStore × FileMemoryStore) :
    InMemoryStore × FileMemoryStore :=
  ((w.1.call fr.toMemoryRuntime a.1 a.2).2, (w.2.call fr a.1 a.2).2)

/-- In a run of calls that meet the condition, issued to both stores from empty with the same clock,
every call returns the same in both. -/
theorem stores_agree_of_run {w : InMemoryStore × FileMemoryStore}
    (h : Reachable (bothAfter fr) (fun a w => a.2.keepsStores fr a.1 w.1)
      (InMemoryStore.empty, FileMemoryStore.empty) w)
    (m : Readings) (c : Call) (hc : c.keepsStores fr m w.1) :
    (w.2.call fr m c).1 = (w.1.call fr.toMemoryRuntime m c).1 := by
  have hinv := h.invariant (P := fun w => IndexNewest fr w.1 ∧ Mirrors fr w.1 w.2)
    ⟨IndexNewest.empty fr, Mirrors.empty fr⟩ fun a w ha hw => (agrees_call hw.1 hw.2 ha).2
  exact (agrees_call hinv.1 hinv.2 hc).1

end

/-! ### two notes of one name -/

/-- What `json.dumps` accepts in the metadata of a call. -/
def Call.serialisable (fr : FileRuntime) : Call → Prop
  | .write r => ∃ j, jsonOf fr.json (.record r.metadata.dict.items) = .ok j
  | .update _ patch => ∀ f ∈ patch, ∀ md, f = .metadata md → ∃ j, jsonOf fr.json (.record md.items) = .ok j
  | _ => True

def epochText : PyStr := py "1970-01-01T00:00:00+00:00"

theorem intText_ne_epochText (t : Time) : intText t ≠ epochText := by
  intro e
  have hmem : CodePoint.ofChar 'T' ∈ intText t := by
    rw [e]
    exact mem_py.mpr (by simp)
  have hdigits := natText_digits t.natAbs
  have hnot : CodePoint.ofChar 'T' ∉ natText t.natAbs := fun h => absurd (hdigits _ h) (by decide)
  unfold intText at hmem
  split_ifs at hmem
  · rcases List.mem_cons.mp hmem with h | h
    · exact absurd h (by decide)
    · exact hnot h
  · exact hnot hmem

/-- A runtime for the epoch: the other times are written as integers. -/
def plainFile : FileRuntime where
  toMemoryRuntime := plainEnv.toMemoryRuntime
  json := halves
  isoformat t := if t = 0 then epochText else intText t
  fromisoformat s := if s = epochText then some 0 else match JsonLoad.number halves s with
    | some (.int n, []) => some n
    | _ => none
  fromisoformat_isoformat t := by
    by_cases ht : t = 0
    · rw [if_pos ht, if_pos rfl, ht]
    · rw [if_neg ht, if_neg (intText_ne_epochText t)]
      have h := JsonLoad.number_int halves t rfl JsonLoad.stop_nil
      rw [List.append_nil] at h
      rw [h]
  isoformat_ascii t := by
    by_cases ht : t = 0
    · rw [if_pos ht]
      exact ascii_lit _ (by decide)
    · rw [if_neg ht]
      exact Json.intText_ascii t
  recordsPath := py ".agent/memory/records.jsonl"
  rowError _ := valueError []

theorem noteA_plain {id : PyStr} (hid : Py.Encodable id) :
    PlainRecord plainFile (noteA id) [(py "name", .str (py "a"))] := by
  have hlit : Py.Encodable (py "name") ∧ Py.Encodable (py "a") :=
    ⟨(ascii_lit _ (by decide)).encodable, (ascii_lit _ (by decide)).encodable⟩
  refine ⟨rfl, .obj (List.nodup_singleton _) ?_, rfl, fun s hs => ?_, ?_, ?_, fun s hs => ?_⟩
  · exact List.forall_mem_singleton.mpr (.str _)
  · obtain ⟨kv, hkv, hs⟩ := JsonLoad.mem_strings_obj.mp hs
    rw [List.mem_singleton.mp hkv] at hs
    rcases hs with rfl | hs
    · exact hlit.1
    · rw [List.mem_singleton.mp hs]
      exact hlit.2
  · show weight05.float.isFinite = true
    decide
  · show weight1.float.isFinite = true
    decide
  · rcases List.mem_cons.mp hs with rfl | hs
    · exact hid
    · rw [List.mem_singleton.mp hs]
      exact fun _ h => absurd h List.not_mem_nil

theorem noteA_storable {id : PyStr} (hid : Py.Encodable id) :
    Storable plainFile (noteA id) ∧ Storable plainFile (InMemoryStore.tombstone 0 none (noteA id)) := by
  have h := noteA_plain hid
  refine ⟨h.storable, @PlainRecord.storable plainFile _ [(py "name", .str (py "a"))] ?_⟩
  exact ⟨h.metadata, h.plain, h.fits, h.strings, h.importance, h.confidence, h.texts⟩

def oneEach : InMemoryStore × FileMemoryStore :=
  bothAfter plainFile (atZero, .write (noteA (py "1"))) (InMemoryStore.empty, FileMemoryStore.empty)

theorem oneEach_fst : oneEach.1 = oneNote := rfl

/-- The note is deleted in both, and written anew under another id. -/
def anewInBoth : InMemoryStore × FileMemoryStore :=
  bothAfter plainFile (atZero, .write (noteA (py "2"))) (bothAfter plainFile (atZero, .delete (py "1") none) oneEach)

theorem keepsStores_noteA {id : PyStr} (hid : id ≠ []) (henc : Py.Encodable id) {s : InMemoryStore}
    (hindex : ∀ n, s.noteIndex.get? n = none) (hlive : s.live = []) (hnew : id ∉ s.records.keys) :
    (Call.write (noteA id)).keepsStores plainFile atZero s := by
  refine ⟨keepsIndex_noteA hid hindex, ⟨(noteA_storable henc).1, fun n hn => ?_⟩, fun current h => ?_⟩
  · have hfile : (s.file (noteA id)).live = [noteA id] := by
      unfold InMemoryStore.live
      rw [InMemoryStore.values_file_of_notMem hnew, List.filter_append]
      show s.live ++ [noteA id] = [noteA id]
      rw [hlive, List.nil_append]
    have hcandidate : FileMemoryStore.isCandidate plainFile n (noteA id) = true := isCandidate_iff.mpr hn
    unfold newestNote
    show (sortDescending _ ((s.file (noteA id)).live.filter _)).head? = _
    rw [hfile, List.filter_cons_of_pos hcandidate]
    rfl
  · exact absurd (h.symm.trans (Dict.get?_eq_none.mpr hnew)) (Option.some_ne_none _)

theorem keepsStores_delete : (Call.delete (py "1") none).keepsStores plainFile atZero oneNote := by
  refine ⟨keepsIndex_delete, fun r hr => ?_⟩
  obtain rfl := Option.some.inj (oneNote_get.symm.trans hr)
  refine ⟨(noteA_storable (ascii_lit _ (by decide)).encodable).2, fun n hn => ?_⟩
  exact absurd (hn.symm.trans (noteOf_tombstone ..)) (Option.some_ne_none n)

theorem oneDeleted_vacant : oneDeleted.live = [] ∧ py "2" ∉ oneDeleted.records.keys := by
  constructor
  · refine List.eq_nil_iff_forall_not_mem.mpr fun x hx => ?_
    rcases oneDeleted_filed.mem_live.mp hx with ⟨-, hdeleted⟩ | ⟨hx, hne⟩
    · rw [InMemoryStore.tombstone_isDeleted] at hdeleted
      exact Bool.noConfusion hdeleted
    · rcases oneNote_filed.mem_live.mp hx with ⟨rfl, -⟩ | ⟨hx, -⟩
      · exact hne (InMemoryStore.tombstone_id ..).symm
      · exact absurd hx List.not_mem_nil
  · rw [oneDeleted_filed.records, oneNote_filed.records, Dict.mem_keys_set, Dict.mem_keys_set]
    have hne : py "2" ≠ py "1" := by simp
    rintro (h | h | h)
    · exact hne h
    · exact hne h
    · exact absurd h List.not_mem_nil

theorem stores_agree_anew : (anewInBoth.2.call plainFile atZero (.readNote (py "a"))).1 =
    (anewInBoth.1.call plainFile.toMemoryRuntime atZero (.readNote (py "a"))).1 := by
  have hrun : Reachable (bothAfter plainFile) (fun a w => a.2.keepsStores plainFile a.1 w.1)
      (InMemoryStore.empty, FileMemoryStore.empty) anewInBoth := by
    unfold anewInBoth oneEach
    refine ((Reachable.start.next ?_).next ?_).next ?_
    · refine keepsStores_noteA ?_ (ascii_lit _ (by decide)).encodable (fun n => rfl) rfl List.not_mem_nil
      rw [py_ofList]
      exact List.cons_ne_nil _ _
    · exact keepsStores_delete
    · refine keepsStores_noteA ?_ (ascii_lit _ (by decide)).encodable oneDeleted_index oneDeleted_vacant.1
        oneDeleted_vacant.2
      rw [py_ofList]
      exact List.cons_ne_nil _ _
  exact stores_agree_of_run plainFile hrun atZero (.readNote (py "a")) ⟨trivial, trivial⟩

/-- Both stores after a second note of the name and its deletion. -/
def hiddenInOne : InMemoryStore × FileMemoryStore :=
  bothAfter plainFile (atZero, .delete (py "2") none)
    (bothAfter plainFile (atZero, .write (noteA (py "2"))) oneEach)

theorem bothAfter_fst (fr : FileRuntime) (a : Readings × Call) (w : InMemoryStore × FileMemoryStore) :
    (bothAfter fr a w).1 = InMemoryStore.after fr.toMemoryRuntime a w.1 := rfl

theorem hiddenInOne_fst : hiddenInOne.1 = oneHidden := by
  unfold hiddenInOne
  rw [bothAfter_fst, bothAfter_fst, oneEach_fst]
  rfl

theorem Mirrors.bothAfter_write {fr : FileRuntime} {w : InMemoryStore × FileMemoryStore}
    (h : Mirrors fr w.1 w.2) {m : Readings} {r : MemoryRecord} (hst : Storable fr (r.markUpdated (m.now 0)))
    (hle : NotOlder (r.markUpdated (m.now 0)) w.1) :
    Mirrors fr (bothAfter fr (m, .write r) w).1 (bothAfter fr (m, .write r) w).2 := (h.write hst hle).2

theorem Mirrors.bothAfter_delete {fr : FileRuntime} {w : InMemoryStore × FileMemoryStore}
    (h : Mirrors fr w.1 w.2) {m : Readings} {k : PyStr} {why : Option PyStr}
    (hst : ∀ r, w.1.get k = some r → Storable fr (InMemoryStore.tombstone (m.now 0) why r)) :
    Mirrors fr (bothAfter fr (m, .delete k why) w).1 (bothAfter fr (m, .delete k why) w).2 :=
  (h.delete hst).2

theorem mirrors_hiddenInOne : Mirrors plainFile hiddenInOne.1 hiddenInOne.2 := by
  obtain ⟨hst1, -⟩ := @noteA_storable (py "1") (ascii_lit _ (by decide)).encodable
  obtain ⟨hst2, hst3⟩ := @noteA_storable (py "2") (ascii_lit _ (by decide)).encodable
  have hfirst : NotOlder (noteA (py "1")) InMemoryStore.empty := by
    intro current h
    exact absurd h (by simp [InMemoryStore.empty, Dict.empty, Dict.get?, assoc])
  have hsecond : NotOlder (noteA (py "2")) oneNote := by
    intro current h
    have hne : (noteA (py "2")).id ≠ (noteA (py "1")).id := by
      show py "2" ≠ py "1"
      simp
    rw [oneHidden_filed.1.records, Dict.get?_set, if_neg hne] at h
    exact absurd h (by simp [InMemoryStore.empty, Dict.empty, Dict.get?, assoc])
  have hlast : ∀ r, (oneNote.write plainEnv.toMemoryRuntime 0 (noteA (py "2"))).get (py "2") = some r →
      Storable plainFile (InMemoryStore.tombstone 0 none r) := by
    intro r hr
    rw [oneHidden_filed.2.1.get, if_pos (show py "2" = (noteA (py "2")).id from rfl)] at hr
    rw [← Option.some.inj hr]
    exact hst3
  have m1 : Mirrors plainFile oneEach.1 oneEach.2 := by
    unfold oneEach
    exact Mirrors.bothAfter_write (Mirrors.empty plainFile) hst1 hfirst
  have m2 := m1.bothAfter_write (m := atZero) (r := noteA (py "2")) hst2 (by rw [oneEach_fst]; exact hsecond)
  unfold hiddenInOne
  refine m2.bothAfter_delete ?_
  rw [bothAfter_fst, oneEach_fst]
  exact hlast

/-- After the deletion of the newer of two notes of one name the file store finds the older one, and
the other store does not. -/
theorem not_stores_agree : ¬ ∀ (fr : FileRuntime) (w : InMemoryStore × FileMemoryStore),
    Reachable (bothAfter fr) (fun a _ => a.2.serialisable fr) (InMemoryStore.empty, FileMemoryStore.empty) w →
    ∀ (m : Readings) (c : Call), c.serialisable fr →
      (w.2.call fr m c).1 = (w.1.call fr.toMemoryRuntime m c).1 := by
  intro hall
  have hjson : ∀ id, (Call.write (noteA id)).serialisable plainFile := fun id => ⟨_, rfl⟩
  have hrun : Reachable (bothAfter plainFile) (fun a _ => a.2.serialisable plainFile)
      (InMemoryStore.empty, FileMemoryStore.empty) oneEach := by
    unfold oneEach
    exact Reachable.start.next (hjson (py "1"))
  have hrun' : Reachable (bothAfter plainFile) (fun a _ => a.2.serialisable plainFile)
      (InMemoryStore.empty, FileMemoryStore.empty) hiddenInOne := by
    unfold hiddenInOne
    exact Reachable.next (a := (atZero, .delete (py "2") none))
      (Reachable.next (a := (atZero, .write (noteA (py "2")))) hrun (hjson (py "2"))) trivial
  have hsame := hall plainFile _ hrun' atZero (.readNote (py "a")) trivial
  have hread : hiddenInOne.2.readNote plainFile (py "a") =
      .ok ((newestNote plainFile (py "a") oneHidden).map MemoryRecord.content) := by
    unfold FileMemoryStore.readNote
    rw [mirrors_hiddenInOne.latestNoteByName, strip_strip, strip_noteA, hiddenInOne_fst, if_neg]
    · rfl
    · rw [py_ofList]
      exact List.cons_ne_nil _ _
  have hnew := @newestNote_ne_none plainFile _ _ _ oneHidden_spec.1 (noteOf_noteA (py "1"))
  obtain ⟨r, hr⟩ := Option.ne_none_iff_exists'.mp hnew
  have hcall : ∀ f : FileMemoryStore, (f.call plainFile atZero (.readNote (py "a"))).1 =
      (f.readNote plainFile (py "a")).map Reply.content := fun f => rfl
  have hleft : (hiddenInOne.2.call plainFile atZero (.readNote (py "a"))).1 =
      .ok (.content (some r.content)) := by
    rw [hcall, hread, hr]
    rfl
  have hright : (hiddenInOne.1.call plainFile.toMemoryRuntime atZero (.readNote (py "a"))).1 =
      .ok (.content none) := by
    show Except.ok (Reply.content (hiddenInOne.1.readNote (py "a"))) = _
    rw [hiddenInOne_fst, oneHidden_readNote]
  rw [hleft, hright] at hsame
  exact absurd (Reply.content.inj (Except.ok.inj hsame)) (Option.some_ne_none _)

end Tomtit
