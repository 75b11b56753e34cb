import TomtitAgent.Conversation.MemoryOperations

/-!
# Bulk deletion

`Forgets kind user w w'` is what a bulk deletion owes a user: no reader of `w'` sees a record of
the kind that belongs to the user, and every other record of `w` is still there as it was.

Each of the three functions deletes the records of its kind that have fewer than `limit` records
ahead of them in the ranking of the search (`Removes`), whatever their user.  So it keeps the promise
exactly when the records of the kind within the limit are those of the user
(`forgets_iff_of_removes`).
-/

namespace Tomtit
open Py

/-! ### the loop -/

section
variable {env : MemoryEnv} {cond : MemoryRecord → Bool} {reason : PyStr}

theorem deleteSeen_eq {rs : List MemoryRecord} (hnd : (rs.map MemoryRecord.id).Nodup)
    {seen : List PyStr} (hseen : ∀ r ∈ rs, r.id ∉ seen) (n : Nat) (w : World) :
    deleteSeen env cond reason seen rs (n, w) =
      (n + rs.countP cond, w.deleteEach env cond reason rs) := by
  induction rs generalizing seen n w with
  | nil => rfl
  | cons r rs ih =>
    rw [List.map_cons, List.nodup_cons] at hnd
    have hrest : ∀ x ∈ rs, x.id ∉ r.id :: seen := by
      intro x hx hmem
      rcases List.mem_cons.mp hmem with e | hmem
      · exact hnd.1 (e ▸ List.mem_map_of_mem hx)
      · exact hseen x (List.mem_cons_of_mem r hx) hmem
    rw [deleteSeen, if_neg (hseen r List.mem_cons_self), World.deleteEach]
    cases hc : cond r with
    | true =>
      rw [if_pos rfl, if_pos rfl, ih hnd.2 hrest, List.countP_cons_of_pos hc]
      rw [Nat.add_right_comm, Nat.add_assoc]
    | false =>
      rw [if_neg Bool.false_ne_true, if_neg Bool.false_ne_true, ih hnd.2 hrest,
        List.countP_cons_of_neg (by rw [hc]; exact Bool.false_ne_true)]

theorem profileRecords_nodup (type : MemoryType) (limit : Nat) (w : World) :
    (w.profileRecords env type limit).Nodup := by
  rw [profileRecords_eq]
  exact ((sortDescending_perm _).nodup_iff.mpr
    ((InMemoryStore.live_nodup w.store).filter _)).sublist (List.take_sublist _ _)

/-- The records of both types that the bulk deletions go through. -/
def bulkRecords (env : MemoryEnv) (limit : Nat) (w : World) : List MemoryRecord :=
  w.profileRecords env .fact limit ++ w.profileRecords env .preference limit

theorem mem_bulkRecords {limit : Nat} {w : World} {r : MemoryRecord} :
    r ∈ bulkRecords env limit w ↔
      r ∈ w.live ∧ (r.tagged .fact = true ∨ r.tagged .preference = true) ∧
        w.aheadOf r.type r < limit := mem_profileBothRecords

theorem bulkRecords_ids_nodup (limit : Nat) (w : World) :
    ((bulkRecords env limit w).map MemoryRecord.id).Nodup := by
  have hdisjoint : ∀ r ∈ w.profileRecords env .fact limit,
      ∀ r' ∈ w.profileRecords env .preference limit, r ≠ r' := by
    rintro r hr _ hr' rfl
    have h1 := (mem_profileRecords.mp hr).2.1
    have h2 := (mem_profileRecords.mp hr').2.1
    unfold MemoryRecord.tagged at h1 h2
    rw [Bool.and_eq_true, decide_eq_true_eq] at h1 h2
    exact absurd (h1.1.symm.trans h2.1) (by simp)
  have hnd : (bulkRecords env limit w).Nodup :=
    List.nodup_append.mpr ⟨profileRecords_nodup _ _ _, profileRecords_nodup _ _ _, hdisjoint⟩
  refine hnd.map_on fun r hr r' hr' e => ?_
  exact InMemoryStore.live_id_inj (mem_bulkRecords.mp hr).1 (mem_bulkRecords.mp hr').1 e

end

/-! ### what a bulk deletion does -/

/-- `w'` is `w` with exactly the live records that satisfy `hit` deleted. -/
structure Removes (hit : MemoryRecord → Prop) (w w' : World) : Prop where
  live : ∀ r, r ∈ w'.live ↔ r ∈ w.live ∧ ¬ hit r
  others : ∀ k r, w.store.records.get? k = some r → r.isDeleted = true ∨ ¬ hit r →
    w'.store.records.get? k = some r
  keys : w'.store.records.keys = w.store.records.keys

theorem removes_deleteEach {env : MemoryEnv} {cond : MemoryRecord → Bool} {reason : PyStr}
    {rs : List MemoryRecord} {w : World} (h : ∀ x ∈ rs, x ∈ w.live) :
    Removes (fun r => r ∈ rs ∧ cond r = true) w (w.deleteEach env cond reason rs) where
  live _ := World.mem_live_deleteEach env h
  others k r hr hkeep := by
    rw [World.get?_deleteEach env, hr]
    by_cases hd : r.isDeleted = true
    · refine .inr fun r' hr' => ?_
      rw [← Option.some.inj (hr.symm.trans hr')]
      exact hd
    · refine .inl fun x hx hc e => ?_
      have hxr : x = r := by
        have hget := (InMemoryStore.mem_live.mp (h x hx)).1
        rw [e, hr] at hget
        exact (Option.some.inj hget).symm
      subst hxr
      exact (hkeep.resolve_left hd) ⟨hx, hc⟩
  keys := World.keys_deleteEach env rs w

/-- What the deletion of the records of a kind owes the user. -/
structure Forgets (env : MemoryEnv) (kind : MemoryRecord → Bool) (user : Option PyStr)
    (w w' : World) : Prop where
  listAll : ∀ r ∈ w'.store.listAll false, ¬ (kind r = true ∧ r.userId = user)
  search : ∀ q : MemoryQuery, q.includeDeleted = false →
    ∀ r ∈ w'.store.search env.toMemoryRuntime q, ¬ (kind r = true ∧ r.userId = user)
  snapshot : ∀ r ∈ confirmedRecords env w', ¬ (kind r = true ∧ r.userId = user)
  others : ∀ k r, w.store.records.get? k = some r →
    r.isDeleted = true ∨ ¬ (kind r = true ∧ r.userId = user) → w'.store.records.get? k = some r
  keys : w'.store.records.keys = w.store.records.keys

theorem mem_live_of_confirmedRecords {env : MemoryEnv} {w : World} {r : MemoryRecord}
    (h : r ∈ confirmedRecords env w) : r ∈ w.live := by
  have hm := (List.mem_filter.mp ((List.mem_insertionSort _).mp h)).1
  exact (mem_bulkRecords.mp hm).1

theorem forgets_iff_of_removes {env : MemoryEnv} {kind : MemoryRecord → Bool} {user : Option PyStr}
    {w w' : World} {hit within : MemoryRecord → Prop} (hR : Removes hit w w')
    (hhit : ∀ r ∈ w.live, hit r ↔ kind r = true ∧ within r) :
    Forgets env kind user w w' ↔ ∀ r ∈ w.live, kind r = true → (r.userId = user ↔ within r) := by
  constructor
  · intro hF r hr hk
    constructor
    · intro hu
      by_contra hout
      have hlive : r ∈ w'.live := (hR.live r).mpr ⟨hr, fun h => hout ((hhit r hr).mp h).2⟩
      exact hF.listAll r (InMemoryStore.mem_listAll.mpr hlive) ⟨hk, hu⟩
    · intro hin
      by_contra hu
      obtain ⟨hget, hd⟩ := InMemoryStore.mem_live.mp hr
      have hkept := hF.others _ r hget (.inr fun h => hu h.2)
      have hlive : r ∈ w'.live := InMemoryStore.mem_live.mpr ⟨hkept, hd⟩
      exact ((hR.live r).mp hlive).2 ((hhit r hr).mpr ⟨hk, hin⟩)
  · intro h
    have hgone : ∀ r ∈ w'.live, ¬ (kind r = true ∧ r.userId = user) := by
      rintro r hr ⟨hk, hu⟩
      obtain ⟨hl, hnot⟩ := (hR.live r).mp hr
      exact hnot ((hhit r hl).mpr ⟨hk, (h r hl hk).mp hu⟩)
    refine ⟨fun r hr => hgone r (InMemoryStore.mem_listAll.mp hr),
      fun q hq r hr => hgone r (InMemoryStore.mem_search hq hr).1,
      fun r hr => hgone r (mem_live_of_confirmedRecords hr), fun k r hr hkeep => ?_, hR.keys⟩
    refine hR.others k r hr ?_
    by_cases hd : r.isDeleted = true
    · exact .inl hd
    · refine .inr fun hh => ?_
      have hid := (InMemoryStore.get?_eq_some.mp hr).2
      have hl : r ∈ w.live := InMemoryStore.mem_live.mpr ⟨by rw [hid]; exact hr, eq_false_of_ne_true hd⟩
      obtain ⟨hk, hin⟩ := (hhit r hl).mp hh
      exact (hkeep.resolve_left hd) ⟨hk, (h r hl hk).mpr hin⟩

/-! ### the three functions -/

/-- A user-profile record: a fact or a preference with the tag and the schema of the profile. -/
def MemoryRecord.isProfile (r : MemoryRecord) : Bool :=
  (r.tagged .fact || r.tagged .preference) && hasProfileSchema r.metadata.dict

def MemoryRecord.isProfileOf (sessionId : PyStr) (r : MemoryRecord) : Bool :=
  r.isProfile && r.sessionId = some sessionId

def MemoryRecord.isAffection (r : MemoryRecord) : Bool :=
  r.tagged .fact && r.states self (py "affection")

section
variable (env : MemoryEnv)

theorem removes_bulk (cond : MemoryRecord → Bool) (reason : PyStr) (limit : Nat) (w : World) :
    Removes (fun r => r ∈ bulkRecords env limit w ∧ cond r = true) w
      (deleteSeen env cond reason [] (bulkRecords env limit w) (0, w)).2 := by
  rw [deleteSeen_eq (bulkRecords_ids_nodup limit w) fun _ _ => List.not_mem_nil]
  exact removes_deleteEach fun x hx => (mem_bulkRecords.mp hx).1

theorem removes_deleteAllProfileMemory (w : World) :
    Removes (fun r => r ∈ bulkRecords env 500 w ∧ hasProfileSchema r.metadata.dict = true) w
      (deleteAllProfileMemory env w).2 := removes_bulk env _ _ 500 w

theorem removes_deleteProfileMemoryForSession (sessionId : PyStr) (w : World) :
    Removes (fun r => r ∈ bulkRecords env 500 w ∧
        (r.sessionId = some sessionId && hasProfileSchema r.metadata.dict) = true) w
      (deleteProfileMemoryForSession env sessionId w).2 := removes_bulk env _ _ 500 w

theorem removes_deleteAllAffectionFacts (w : World) :
    Removes (fun r => r ∈ confirmedProfileFacts env w ∧ r.concerns self (py "affection") = true) w
      (deleteAllAffectionFacts env w).2 :=
  removes_deleteEach fun _ hx => (mem_profileRecords.mp (List.mem_filter.mp hx).1).1

theorem deleteAllProfileMemory_hits {w : World} {r : MemoryRecord} (hr : r ∈ w.live) :
    (r ∈ bulkRecords env 500 w ∧ hasProfileSchema r.metadata.dict = true) ↔
      r.isProfile = true ∧ w.aheadOf r.type r < 500 := by
  unfold MemoryRecord.isProfile
  rw [mem_bulkRecords, Bool.and_eq_true, Bool.or_eq_true]
  exact ⟨fun ⟨⟨_, ht, ha⟩, hs⟩ => ⟨⟨ht, hs⟩, ha⟩, fun ⟨⟨ht, hs⟩, ha⟩ => ⟨⟨hr, ht, ha⟩, hs⟩⟩

theorem deleteProfileMemoryForSession_hits {sessionId : PyStr} {w : World} {r : MemoryRecord}
    (hr : r ∈ w.live) :
    (r ∈ bulkRecords env 500 w ∧
        (r.sessionId = some sessionId && hasProfileSchema r.metadata.dict) = true) ↔
      r.isProfileOf sessionId = true ∧ w.aheadOf r.type r < 500 := by
  unfold MemoryRecord.isProfileOf
  rw [Bool.and_eq_true, Bool.and_eq_true, and_comm (a := _ = true) (b := hasProfileSchema _ = true),
    ← and_assoc, deleteAllProfileMemory_hits env hr]
  exact and_right_comm

theorem deleteAllAffectionFacts_hits {w : World} {r : MemoryRecord} (hr : r ∈ w.live) :
    (r ∈ confirmedProfileFacts env w ∧ r.concerns self (py "affection") = true) ↔
      r.isAffection = true ∧ w.aheadOf .fact r < 200 := by
  unfold confirmedProfileFacts MemoryRecord.isAffection MemoryRecord.states
  rw [List.mem_filter, mem_profileRecords, Bool.and_eq_true, Bool.and_eq_true]
  exact ⟨fun ⟨⟨⟨_, ht, ha⟩, hc⟩, hs⟩ => ⟨⟨ht, hc, hs⟩, ha⟩,
    fun ⟨⟨ht, hc, hs⟩, ha⟩ => ⟨⟨⟨hr, ht, ha⟩, hc⟩, hs⟩⟩

theorem deleteAllProfileMemory_forgets_iff (user : Option PyStr) (w : World) :
    Forgets env (·.isProfile) user w (deleteAllProfileMemory env w).2 ↔
      ∀ r ∈ w.live, r.isProfile = true → (r.userId = user ↔ w.aheadOf r.type r < 500) :=
  forgets_iff_of_removes (removes_deleteAllProfileMemory env w)
    fun _ hr => deleteAllProfileMemory_hits env hr

/-- When each bulk deletion keeps its promise to a user: the records of its kind within the limit
of its search are those of the user. -/
theorem bulkDelete_forgets_iff (user : Option PyStr) (sessionId : PyStr) (w : World) :
    (Forgets env (·.isProfile) user w (deleteAllProfileMemory env w).2 ↔
        ∀ r ∈ w.live, r.isProfile = true → (r.userId = user ↔ w.aheadOf r.type r < 500)) ∧
      (Forgets env (·.isProfileOf sessionId) user w (deleteProfileMemoryForSession env sessionId w).2 ↔
        ∀ r ∈ w.live, r.isProfileOf sessionId = true →
          (r.userId = user ↔ w.aheadOf r.type r < 500)) ∧
      (Forgets env (·.isAffection) user w (deleteAllAffectionFacts env w).2 ↔
        ∀ r ∈ w.live, r.isAffection = true → (r.userId = user ↔ w.aheadOf .fact r < 200)) := by
  refine ⟨deleteAllProfileMemory_forgets_iff env user w, ?_, ?_⟩
  · exact forgets_iff_of_removes (removes_deleteProfileMemoryForSession env sessionId w)
      fun _ hr => deleteProfileMemoryForSession_hits env hr
  · exact forgets_iff_of_removes (removes_deleteAllAffectionFacts env w)
      fun _ hr => deleteAllAffectionFacts_hits env hr

end

/-! ### a store beyond the limit -/

/-- More live facts of the profile than the limit: one of them outlives `delete_all_profile_memory`. -/
theorem not_forgets_of_crowd {env : MemoryEnv} {user : Option PyStr} {w : World}
    (hmany : 500 < w.live.length)
    (hall : ∀ r ∈ w.live, r.tagged .fact = true ∧ r.isProfile = true ∧ r.userId = user) :
    ¬ Forgets env (·.isProfile) user w (deleteAllProfileMemory env w).2 := by
  have hfilter : w.live.filter (·.tagged .fact) = w.live :=
    List.filter_eq_self.mpr fun r hr => (hall r hr).1
  rw [deleteAllProfileMemory_forgets_iff]
  intro h
  obtain ⟨r, hr, ht, ha⟩ := exists_beyond env (by rw [hfilter]; exact hmany)
  obtain ⟨-, hp, hu⟩ := hall r hr
  have hin := (h r hr hp).mp hu
  rw [of_decide_eq_true (Bool.and_eq_true_iff.mp ht).1] at hin
  exact absurd hin (Nat.not_lt.mpr ha)

/-- The `n`-th of many skills of the user, as `save_auto_profile_fact` stores one. -/
def skillRecord (n : Nat) : MemoryRecord where
  id := [Fin.ofNat _ n]
  content := py "bạn biết " ++ natText n
  type := .fact
  userId := none
  sessionId := some (py "s")
  taskId := none
  runId := none
  sourceEventId := none
  tags := [userProfile, self, py "skill"]
  importance := weight08
  confidence := weight095
  source := .user
  createdAt := n
  updatedAt := n
  deletedAt := none
  metadata := v2Metadata self (py "skill") (natText n) [] []

/-- A store with the first `n` skills. -/
def skillStore (n : Nat) (h : n ≤ 0x110000) : InMemoryStore where
  records :=
    { items := (List.range n).map fun i => ((skillRecord i).id, skillRecord i)
      nodup := by
        rw [List.map_map]
        refine List.nodup_range.map_on fun i hi j hj e => ?_
        have hij := congrArg Fin.val (List.cons.inj e).1
        rw [List.mem_range] at hi hj
        rw [Fin.val_ofNat, Fin.val_ofNat, Nat.mod_eq_of_lt (by omega), Nat.mod_eq_of_lt (by omega)] at hij
        exact hij }
  noteIndex := Dict.empty
  keyed := by
    intro kv hkv
    obtain ⟨i, -, rfl⟩ := List.mem_map.mp hkv
    rfl

theorem live_skillStore (n : Nat) (h : n ≤ 0x110000) :
    (skillStore n h).live = (List.range n).map skillRecord := by
  have hvalues : (skillStore n h).records.values = (List.range n).map skillRecord := List.map_map
  unfold InMemoryStore.live
  rw [hvalues]
  refine List.filter_eq_self.mpr fun r hr => ?_
  obtain ⟨i, -, rfl⟩ := List.mem_map.mp hr
  rfl

theorem skillRecord_isProfile (n : Nat) : (skillRecord n).isProfile = true := by
  have hextra : Extra [] := fun _ h => absurd h List.not_mem_nil
  have hschema : hasProfileSchema (skillRecord n).metadata.dict = true :=
    (v2Metadata_reads hextra).2.2.1
  unfold MemoryRecord.isProfile
  rw [hschema, Bool.and_true, Bool.or_eq_true]
  left
  simp [MemoryRecord.tagged, skillRecord]

/-- A profile of `n` skills. -/
def skillWorld (n : Nat) (h : n ≤ 0x110000) : World where
  store := skillStore n h
  ticks := 0
  made := n
  texts := by
    intro r hr
    have hvalues : (skillStore n h).records.values = (List.range n).map skillRecord := List.map_map
    rw [hvalues] at hr
    obtain ⟨i, -, rfl⟩ := List.mem_map.mp hr
    exact profileMetadata_texts _ _

def crowdedWorld : World := skillWorld 501 (by norm_num)

/-- With 501 skills `delete_all_profile_memory` leaves one behind. -/
theorem not_forgets_skills :
    ¬ Forgets plainEnv (·.isProfile) none crowdedWorld
      (deleteAllProfileMemory plainEnv crowdedWorld).2 := by
  have hlive : crowdedWorld.live = (List.range 501).map skillRecord := live_skillStore 501 (by norm_num)
  refine not_forgets_of_crowd ?_ ?_
  · rw [hlive, List.length_map, List.length_range]
    norm_num
  · intro r hr
    rw [hlive] at hr
    obtain ⟨i, -, rfl⟩ := List.mem_map.mp hr
    exact ⟨by simp [MemoryRecord.tagged, skillRecord], skillRecord_isProfile i, rfl⟩

end Tomtit
