import TomtitAgent.SessionPersistence.FileStore

/-!
# A save happens or does not

* `writeData_apply`, `createTemp_apply`, `replace_apply`, `cleanupTemp_apply`   what each step does
  to the directory, whatever fails;
* `commit_spec`  the same of the whole `try` block;
* `load_congr`   `load` reads the file of its session only;
* `save_atomic`  a save that fails changes no session, a save that returns changes one.
-/

open Py

namespace Tomtit

namespace FileSessionStore
open Effect

section
variable {store : FileSessionStore} {env : FileEnv} {mode : Nat} {entries : Dict PyStr DirEntry}

/-! ### the steps -/

def callResult (env : FileEnv) (op : FileOp) : Except PyExc Unit :=
  if env.fails op then .error osError else .ok ()

theorem call_apply (op : FileOp) (d : SessionDir) : call env op d = (callResult env op, d) := by
  unfold call callResult
  split_ifs <;> rfl

theorem call_bind {α : Type} (op : FileOp) (f : Unit → Disk α) (d : SessionDir) :
    (call env op >>= f) d = if env.fails op then (.error osError, d) else f () d := by
  rw [bind_apply, call_apply]
  unfold callResult
  split_ifs <;> rfl

theorem change_bind {α : Type} (g : Dict PyStr DirEntry → Dict PyStr DirEntry) (f : Unit → Disk α) :
    (change g >>= f) (.directory mode entries) = f () (.directory mode (g entries)) := rfl

theorem get_bind {α : Type} (f : SessionDir → Disk α) (d : SessionDir) : (Effect.get >>= f) d = f d d := rfl

theorem finally_call {α : Type} (x : Disk α) (op : FileOp) (d : SessionDir) :
    finally_ x (call env op) d = (if env.fails op then .error osError else (x d).1, (x d).2) := by
  unfold finally_
  rcases x d with ⟨r, d'⟩
  dsimp only
  rw [call_apply]
  unfold callResult
  split_ifs <;> rfl

theorem createTemp_apply (canonical : PyStr) :
    createTemp env canonical (.directory mode entries) =
      if env.fails .mkstemp then (.error osError, .directory mode entries)
      else match freeName env canonical (.directory mode entries) with
        | none => (.error osError, .directory mode entries)
        | some name => (.ok name, .directory mode (entries.set name (.file ByteArray.empty))) := by
  unfold createTemp
  rw [call_bind]
  refine if_congr Iff.rfl rfl ?_
  rw [get_bind]
  cases freeName env canonical (.directory mode entries) with
  | none => rfl
  | some name => rfl

def partially (env : FileEnv) (temp : PyStr) (data : Bytes) (entries : Dict PyStr DirEntry) :
    Dict PyStr DirEntry :=
  entries.set temp (.file ⟨data.data.take env.reaches⟩)

theorem writeData_apply (temp : PyStr) (data : Bytes) :
    writeData env temp data (.directory mode entries) =
      if env.fails .write ∨ env.fails .flush then
        (.error osError, .directory mode (partially env temp data entries))
      else (callResult env .fsync,
        .directory mode ((partially env temp data entries).set temp (.file data))) := by
  unfold writeData partially
  rw [change_bind, call_bind]
  by_cases hw : env.fails .write = true
  · rw [if_pos hw, if_pos (Or.inl hw)]
  rw [if_neg hw, call_bind]
  by_cases hf : env.fails .flush = true
  · rw [if_pos hf, if_pos (Or.inr hf)]
  rw [if_neg hf, if_neg (not_or.mpr ⟨hw, hf⟩), change_bind, call_apply]

theorem writeData_others (temp : PyStr) (data : Bytes) :
    ∃ entries', (writeData env temp data (.directory mode entries)).2 = .directory mode entries' ∧
      (∀ name, name ≠ temp → entries'.get? name = entries.get? name) ∧
      ((writeData env temp data (.directory mode entries)).1 = .ok () →
        entries'.get? temp = some (.file data)) ∧
      (entries'.get? temp).isSome = true := by
  have hpart : ∀ name, name ≠ temp →
      (partially env temp data entries).get? name = entries.get? name := by
    intro name hne
    unfold partially
    rw [Dict.get?_set, if_neg hne]
  rw [writeData_apply]
  split_ifs
  · refine ⟨_, rfl, hpart, fun h => absurd h (by simp), ?_⟩
    unfold partially
    rw [Dict.get?_set, if_pos rfl]
    rfl
  · refine ⟨_, rfl, fun name hne => ?_, fun _ => ?_, ?_⟩
    · rw [Dict.get?_set, if_neg hne, hpart name hne]
    · rw [Dict.get?_set, if_pos rfl]
    · rw [Dict.get?_set, if_pos rfl]
      rfl

theorem writeData_ok_iff (temp : PyStr) (data : Bytes) :
    (writeData env temp data (.directory mode entries)).1 = .ok () ↔
      env.fails .write = false ∧ env.fails .flush = false ∧ env.fails .fsync = false := by
  rw [writeData_apply]
  unfold callResult
  by_cases hw : env.fails .write = true
  · rw [if_pos (Or.inl hw)]
    exact iff_of_false (by simp) (by simp [hw])
  by_cases hf : env.fails .flush = true
  · rw [if_pos (Or.inr hf)]
    exact iff_of_false (by simp) (by simp [hf])
  rw [if_neg (not_or.mpr ⟨hw, hf⟩)]
  by_cases hs : env.fails .fsync = true
  · simp [hs]
  · simp [hw, hf, hs]

theorem writeAndFsyncTemp_apply (temp : PyStr) (data : Bytes) :
    writeAndFsyncTemp env temp data (.directory mode entries) =
      if env.fails .fdopen then (.error osError, .directory mode entries)
      else (if env.fails .close then .error osError
          else (writeData env temp data (.directory mode entries)).1,
        (writeData env temp data (.directory mode entries)).2) := by
  unfold writeAndFsyncTemp
  rw [call_bind, finally_call]

theorem writeAndFsyncTemp_ok_iff (temp : PyStr) (data : Bytes) :
    (writeAndFsyncTemp env temp data (.directory mode entries)).1 = .ok () ↔
      env.fails .fdopen = false ∧ env.fails .close = false ∧
        env.fails .write = false ∧ env.fails .flush = false ∧ env.fails .fsync = false := by
  rw [writeAndFsyncTemp_apply, ← @writeData_ok_iff env mode entries temp data]
  by_cases ho : env.fails .fdopen = true
  · simp [ho]
  by_cases hc : env.fails .close = true
  · simp [ho, hc]
  · simp [ho, hc]

theorem writeAndFsyncTemp_others {temp : PyStr} (data : Bytes) (htemp : (entries.get? temp).isSome = true) :
    ∃ entries', (writeAndFsyncTemp env temp data (.directory mode entries)).2 = .directory mode entries' ∧
      (∀ name, name ≠ temp → entries'.get? name = entries.get? name) ∧
      ((writeAndFsyncTemp env temp data (.directory mode entries)).1 = .ok () →
        entries'.get? temp = some (.file data)) ∧
      (entries'.get? temp).isSome = true := by
  rw [writeAndFsyncTemp_apply]
  split_ifs
  · exact ⟨entries, rfl, fun _ _ => rfl, fun h => absurd h (by simp), htemp⟩
  · obtain ⟨entries', h1, h2, _, h4⟩ := @writeData_others env mode entries temp data
    exact ⟨entries', h1, h2, fun h => absurd h (by simp), h4⟩
  · exact writeData_others temp data

theorem replace_apply {temp : PyStr} (target : PyStr) {e : DirEntry} (he : entries.get? temp = some e) :
    replace env temp target (.directory mode entries) =
      if env.fails .replace ∨ entries.get? target = some .directory then
        (.error osError, .directory mode entries)
      else (.ok (), .directory mode ((entries.erase temp).set target e)) := by
  unfold replace
  rw [call_bind]
  by_cases hr : env.fails .replace = true
  · rw [if_pos hr, if_pos (Or.inl hr)]
  rw [if_neg hr, get_bind, get_bind]
  have hentry : ∀ name, entryOf (.directory mode entries) name = entries.get? name := fun _ => rfl
  rw [hentry, hentry, he]
  by_cases ho : entries.get? target = some .directory
  · rw [ho, if_pos (Or.inr rfl)]
    rfl
  · rw [if_neg (not_or.mpr ⟨hr, ho⟩)]
    rcases htarget : entries.get? target with _ | t
    · rfl
    · cases t with
      | directory => exact absurd htarget ho
      | _ => rfl

theorem cleanupTemp_apply (temp : PyStr) :
    ∃ entries', cleanupTemp env temp (.directory mode entries) = (.ok (), .directory mode entries') ∧
      (∀ name, name ≠ temp → entries'.get? name = entries.get? name) ∧
      (env.fails .unlink = false ∨ entries.get? temp = none → entries'.get? temp = none) := by
  have hrun : (do
      call env .unlink
      if (entryOf (← Effect.get) temp).isSome then change fun entries => entries.erase temp : Disk Unit)
      (.directory mode entries) =
      if env.fails .unlink then (.error osError, .directory mode entries)
      else if (entries.get? temp).isSome then (.ok (), .directory mode (entries.erase temp))
      else (.ok (), .directory mode entries) := by
    rw [call_bind]
    refine if_congr Iff.rfl rfl ?_
    rw [get_bind]
    show (if (entries.get? temp).isSome = true then _ else _ : Disk Unit) _ = _
    split_ifs <;> rfl
  unfold cleanupTemp swallow
  rw [hrun]
  split_ifs with hu hs
  · exact ⟨entries, rfl, fun _ _ => rfl, fun h => h.resolve_left (by simp [hu])⟩
  · refine ⟨entries.erase temp, rfl, fun name hne => ?_, fun _ => ?_⟩
    · rw [Dict.get?_erase, if_neg hne]
    · rw [Dict.get?_erase, if_pos rfl]
  · exact ⟨entries, rfl, fun _ _ => rfl, fun _ => by simpa using hs⟩

/-! ### the `try` block -/

/-- The operations of the `try` block after the directory. -/
def commitOps : List FileOp := [.mkstemp, .fdopen, .write, .flush, .fsync, .close, .replace]

structure Committed (env : FileEnv) (entries : Dict PyStr DirEntry) (canonical target : PyStr)
    (data : Bytes) (result : Except PyExc Unit) (entries' : Dict PyStr DirEntry) : Prop where
  ok : result = .ok () → (∀ op ∈ commitOps, env.fails op = false) ∧
    ∀ name, entries'.get? name = if name = target then some (.file data) else entries.get? name
  error : ∀ e, result = .error e →
    (∀ name, (∀ drawn, name ≠ tempName canonical drawn) → entries'.get? name = entries.get? name) ∧
    (env.fails .unlink = false → ∀ name, entries'.get? name = entries.get? name)

theorem finally_cleanup {x : Disk Unit} (temp : PyStr) {d : SessionDir} {r : Except PyExc Unit}
    (h : x d = (r, .directory mode entries)) :
    ∃ entries', finally_ x (cleanupTemp env temp) d = (r, .directory mode entries') ∧
      (∀ name, name ≠ temp → entries'.get? name = entries.get? name) ∧
      (env.fails .unlink = false ∨ entries.get? temp = none → entries'.get? temp = none) := by
  obtain ⟨entries', hc, ho, ht⟩ := @cleanupTemp_apply env mode entries temp
  refine ⟨entries', ?_, ho, ht⟩
  unfold finally_
  rw [h]
  dsimp only
  rw [hc]

theorem committed_error {temp target canonical drawn : PyStr} {data : Bytes} {e : PyExc}
    {entries₁ entries₂ : Dict PyStr DirEntry} (htemp : temp = tempName canonical drawn)
    (hfree : entries.get? temp = none)
    (h₁ : ∀ name, name ≠ temp → entries₁.get? name = entries.get? name)
    (h₂ : ∀ name, name ≠ temp → entries₂.get? name = entries₁.get? name)
    (hunlink : env.fails .unlink = false ∨ entries₁.get? temp = none → entries₂.get? temp = none) :
    Committed env entries canonical target data (.error e) entries₂ := by
  refine ⟨fun h => absurd h (by simp), fun _ _ => ⟨fun name hname => ?_, fun hu name => ?_⟩⟩
  · have hne : name ≠ temp := htemp ▸ hname drawn
    rw [h₂ name hne, h₁ name hne]
  · by_cases hne : name = temp
    · rw [hne, hunlink (Or.inl hu), hfree]
    · rw [h₂ name hne, h₁ name hne]

theorem commit_spec (canonical target : PyStr) (data : Bytes)
    (htarget : ∀ drawn, target ≠ tempName canonical drawn) :
    ∃ entries', (commit env canonical target data (.directory mode entries)).2 =
      .directory mode entries' ∧ Committed env entries canonical target data
        (commit env canonical target data (.directory mode entries)).1 entries' := by
  have same : ∀ e, Committed env entries canonical target data (.error e) entries := fun e =>
    ⟨fun h => absurd h (by simp), fun _ _ => ⟨fun _ _ => rfl, fun _ _ => rfl⟩⟩
  unfold commit
  rw [bind_apply, createTemp_apply]
  by_cases hm : env.fails .mkstemp = true
  · rw [if_pos hm]
    exact ⟨entries, rfl, same _⟩
  rw [if_neg hm]
  cases hname : freeName env canonical (.directory mode entries) with
  | none => exact ⟨entries, rfl, same _⟩
  | some temp =>
    obtain ⟨⟨drawn, htemp⟩, hfree⟩ : (∃ drawn, temp = tempName canonical drawn) ∧
        entries.get? temp = none := by
      unfold freeName at hname
      obtain ⟨drawn, _, hdrawn⟩ := List.mem_map.mp (List.mem_of_find?_eq_some hname)
      have hfree := List.find?_some hname
      exact ⟨⟨drawn, hdrawn.symm⟩, Option.isNone_iff_eq_none.mp hfree⟩
    dsimp only
    -- the temporary file is there from now on
    obtain ⟨entries₁, hw, ho₁, hdata, hsome⟩ := @writeAndFsyncTemp_others env mode
      (entries.set temp (.file ByteArray.empty)) temp data (by rw [Dict.get?_set, if_pos rfl]; rfl)
    have ho₁ : ∀ name, name ≠ temp → entries₁.get? name = entries.get? name := by
      intro name hne
      rw [ho₁ name hne, Dict.get?_set, if_neg hne]
    have hok := @writeAndFsyncTemp_ok_iff env mode (entries.set temp (.file ByteArray.empty)) temp data
    rcases hrun : writeAndFsyncTemp env temp data
      (.directory mode (entries.set temp (.file ByteArray.empty))) with ⟨r, d⟩
    rw [hrun] at hw hdata hok
    obtain rfl : d = .directory mode entries₁ := hw
    cases r with
    | error e =>
      obtain ⟨entries₂, hx, ho₂, hu⟩ := @finally_cleanup env mode entries₁ (do
        writeAndFsyncTemp env temp data
        replace env temp target) temp _ (.error e) (by rw [bind_apply, hrun])
      rw [hx]
      exact ⟨entries₂, rfl, committed_error htemp hfree ho₁ ho₂ hu⟩
    | ok _ =>
      have hr := @replace_apply env mode _ _ target _ (hdata rfl)
      by_cases hbad : env.fails .replace = true ∨ entries₁.get? target = some .directory
      · rw [if_pos hbad] at hr
        obtain ⟨entries₂, hx, ho₂, hu⟩ := @finally_cleanup env mode entries₁ (do
          writeAndFsyncTemp env temp data
          replace env temp target) temp _ (.error osError) (by rw [bind_apply, hrun]; exact hr)
        rw [hx]
        exact ⟨entries₂, rfl, committed_error htemp hfree ho₁ ho₂ hu⟩
      · rw [if_neg hbad] at hr
        obtain ⟨entries₂, hx, ho₂, hu⟩ := @finally_cleanup env mode _ (do
          writeAndFsyncTemp env temp data
          replace env temp target) temp _ (.ok ()) (by rw [bind_apply, hrun]; exact hr)
        rw [hx]
        have hne : temp ≠ target := fun e => htarget drawn (e.symm.trans htemp)
        refine ⟨entries₂, rfl, fun _ => ⟨?_, fun name => ?_⟩, fun e h => absurd h (by simp)⟩
        · obtain ⟨h1, h2, h3, h4, h5⟩ := hok.mp rfl
          have h6 : env.fails .replace = false := Bool.eq_false_of_not_eq_true fun h => hbad (Or.inl h)
          simp only [commitOps, List.forall_mem_cons, List.not_mem_nil, false_imp_iff, implies_true,
            and_true]
          exact ⟨Bool.eq_false_of_not_eq_true hm, h1, h3, h4, h5, h2, h6⟩
        · by_cases hnt : name = temp
          · rw [hnt, if_neg hne, hfree]
            exact hu (Or.inr (by rw [Dict.get?_set, if_neg hne, Dict.get?_erase, if_pos rfl]))
          · rw [ho₂ name hnt, Dict.get?_set]
            refine if_congr Iff.rfl rfl ?_
            rw [Dict.get?_erase, if_neg hnt, ho₁ name hnt]

/-! ### the directory -/

/-- The directory with these entries was there, or nothing was. -/
def Founded (d : SessionDir) (mode : Nat) (entries : Dict PyStr DirEntry) : Prop :=
  insecure mode = false ∧ (d = .directory mode entries ∨ d = .absent ∧ entries = Dict.empty)

theorem insecure_masked (m : Nat) : insecure (0o700 &&& m) = false := by
  have h : (0o700 &&& m) &&& 0o077 = 0 := by
    rw [Nat.land_comm 0o700 m, Nat.land_assoc]
    exact Nat.and_zero m
  unfold insecure
  rw [h]
  rfl

def ensureOps : SessionDir → List FileOp
  | .absent => [.inspect, .mkdir, .chmod]
  | _ => [.inspect]

structure Ensured (env : FileEnv) (d : SessionDir) (result : Except PyExc Unit) (d' : SessionDir) : Prop where
  ok : result = .ok () → (∀ op ∈ ensureOps d, env.fails op = false) ∧
    ∃ mode entries, d' = .directory mode entries ∧ Founded d mode entries
  error : ∀ e, result = .error e → d' = d ∨ ∃ mode, d' = .directory mode Dict.empty ∧ Founded d mode Dict.empty

theorem ensureDir_spec (d : SessionDir) :
    Ensured env d (store.ensureDir env d).1 (store.ensureDir env d).2 := by
  have same : ∀ e, Ensured env d (.error e) d := fun e =>
    ⟨fun h => absurd h (by simp), fun _ _ => Or.inl rfl⟩
  unfold ensureDir
  rw [call_bind]
  by_cases hi : env.fails .inspect = true
  · rw [if_pos hi]
    exact same _
  rw [if_neg hi, get_bind]
  have hi := Bool.eq_false_of_not_eq_true hi
  cases d with
  | symlink dangling => exact same _
  | notDirectory => exact same _
  | directory mode entries =>
    show Ensured env _ (raiseIf (insecure mode = true) _) _
    unfold raiseIf
    split_ifs with hm
    · exact same _
    · have hm := Bool.eq_false_of_not_eq_true hm
      exact ⟨fun _ => ⟨List.forall_mem_singleton.mpr hi, mode, entries, rfl, hm, Or.inl rfl⟩,
        fun e h => absurd h (by simp)⟩
  | absent =>
    show Ensured env _ ((call env .mkdir >>= _) _).1 ((call env .mkdir >>= _) _).2
    rw [call_bind]
    by_cases hk : env.fails .mkdir = true
    · rw [if_pos hk]
      exact same _
    rw [if_neg hk, bind_apply]
    dsimp only [Effect.set]
    rw [call_bind]
    by_cases hc : env.fails .chmod = true
    · rw [if_pos hc]
      exact ⟨fun h => absurd h (by simp),
        fun _ _ => Or.inr ⟨_, rfl, insecure_masked _, Or.inr ⟨rfl, rfl⟩⟩⟩
    · rw [if_neg hc]
      show Ensured env _ (.ok ()) (.directory 0o700 Dict.empty)
      refine ⟨fun _ => ⟨?_, 0o700, Dict.empty, rfl, rfl, Or.inr ⟨rfl, rfl⟩⟩, fun e h => absurd h (by simp)⟩
      simp only [ensureOps, List.forall_mem_cons, List.not_mem_nil, false_imp_iff, implies_true,
        and_true]
      exact ⟨hi, Bool.eq_false_of_not_eq_true hk, Bool.eq_false_of_not_eq_true hc⟩

/-! ### what `load` reads -/

theorem fileName_ne_tempName {id name : PyStr} (h : store.fileName id = .ok name) (canonical drawn : PyStr) :
    name ≠ tempName canonical drawn := by
  unfold fileName at h
  split at h
  · next text htext =>
    rw [← Except.ok.inj h]
    intro e
    have hdot := canonicalUuid_no_dot _ htext
    cases text with
    | nil => exact canonicalUuid_ne_nil _ htext rfl
    | cons c cs =>
      have hc : c = 46 := (List.cons.inj e).1
      exact hdot (hc ▸ List.mem_cons_self)
  · exact absurd h (by simp)

/-- A session whose entry is the same loads to the same. -/
theorem load_congr {d : SessionDir} (hf : Founded d mode entries) {entries' : Dict PyStr DirEntry}
    {id : PyStr} (hname : ∀ name, store.fileName id = .ok name → entries'.get? name = entries.get? name)
    (env' : FileEnv) : store.load env' id (.directory mode entries') = store.load env' id d := by
  unfold load
  cases hid : canonicalUuid store.texts.json id with
  | none => rfl
  | some canonical =>
    have hname := hname (canonical ++ py ".json") (by unfold fileName; rw [hid])
    have hread : store.readSession env' canonical (canonical ++ py ".json") (.directory mode entries') =
        store.readSession env' canonical (canonical ++ py ".json") d := by
      unfold readSession
      by_cases hi : env'.fails .inspect = true
      · rw [if_pos hi, if_pos hi]
      rw [if_neg hi, if_neg hi]
      dsimp only
      rw [if_neg (by rw [hf.1]; simp), hname]
      rcases hf.2 with rfl | ⟨rfl, rfl⟩
      · dsimp only
        rw [if_neg (by rw [hf.1]; simp)]
      · rfl
    dsimp only
    rw [hread]

theorem entry_founded {d : SessionDir} (hf : Founded d mode entries) (name : PyStr) :
    entryOf d name = entries.get? name := by
  rcases hf.2 with rfl | ⟨rfl, rfl⟩
  · rfl
  · rfl

/-! ### main result -/

theorem fsyncParent_apply (d : SessionDir) : fsyncParent env d = (.ok (), d) := by
  have hrun : (do call env .openDir; call env .syncDir : Disk Unit) d =
      (if env.fails .openDir then .error osError else callResult env .syncDir, d) := by
    rw [call_bind, call_apply]
    split_ifs <;> rfl
  unfold fsyncParent
  rw [swallow_ok, hrun]
  intro e he
  rw [hrun] at he
  unfold callResult at he
  dsimp only at he
  split_ifs at he <;> rw [← Except.error.inj he] <;> rfl

/-- The operations before and with the replacement of the file. -/
def saveOps (d : SessionDir) : List FileOp := ensureOps d ++ commitOps

/-- All or nothing: a failure of any operation, or of the serializer, raises; then every session loads
as before, and the files are the same unless the temporary file could not be removed.  Otherwise the
file of the session is the only one that changes. -/
structure SaveAtomic (store : FileSessionStore) (env : FileEnv) (session : SessionState) (d : SessionDir) :
    Prop where
  raises : (∃ e, store.payload session = .error e) ∨ (∃ op ∈ saveOps d, env.fails op = true) →
    ∃ e, (store.save env session d).1 = .error e
  failed : ∀ e, (store.save env session d).1 = .error e →
    (∀ env' id, store.load env' id (store.save env session d).2 = store.load env' id d) ∧
    (∀ name, (∀ drawn, name ≠ tempName session.sessionId drawn) →
      entryOf (store.save env session d).2 name = entryOf d name) ∧
    (env.fails .unlink = false → ∀ name, entryOf (store.save env session d).2 name = entryOf d name)
  saved : (store.save env session d).1 = .ok () →
    ∃ data target, store.payload session = .ok data ∧ store.fileName session.sessionId = .ok target ∧
      (∀ name, entryOf (store.save env session d).2 name =
        if name = target then some (.file data) else entryOf d name) ∧
      ∀ env' id, store.fileName id ≠ .ok target →
        store.load env' id (store.save env session d).2 = store.load env' id d

/-- The statements of a save that has its data and its target. -/
def saveData (store : FileSessionStore) (env : FileEnv) (sessionId target : PyStr) (data : Bytes) : Disk Unit := do
  reraise (persistFailure sessionId) do
    store.ensureDir env
    commit env sessionId target data
  fsyncParent env

theorem saveData_apply (sessionId target : PyStr) (data : Bytes) (d : SessionDir) :
    saveData store env sessionId target data d =
      reraise (persistFailure sessionId) (do
        store.ensureDir env
        commit env sessionId target data) d := by
  unfold saveData
  rw [bind_apply]
  rcases reraise (persistFailure sessionId) (do
    store.ensureDir env
    commit env sessionId target data) d with ⟨r, d'⟩
  cases r with
  | error e => rfl
  | ok _ => exact fsyncParent_apply d'

structure Saved (store : FileSessionStore) (env : FileEnv) (sessionId target : PyStr) (data : Bytes)
    (d : SessionDir) (result : Except PyExc Unit) (d' : SessionDir) : Prop where
  ok : result = .ok () → (∀ op ∈ saveOps d, env.fails op = false) ∧
    ∃ mode entries entries', Founded d mode entries ∧ d' = .directory mode entries' ∧
      ∀ name, entries'.get? name = if name = target then some (.file data) else entries.get? name
  error : ∀ e, result = .error e → d' = d ∨
    ∃ mode entries entries', Founded d mode entries ∧ d' = .directory mode entries' ∧
      (∀ name, (∀ drawn, name ≠ tempName sessionId drawn) → entries'.get? name = entries.get? name) ∧
      (env.fails .unlink = false → ∀ name, entries'.get? name = entries.get? name)

theorem saveData_spec {sessionId target : PyStr} (data : Bytes) (d : SessionDir)
    (htarget : ∀ drawn, target ≠ tempName sessionId drawn) :
    Saved store env sessionId target data d (saveData store env sessionId target data d).1
      (saveData store env sessionId target data d).2 := by
  rw [saveData_apply]
  have hd := @ensureDir_spec store env d
  unfold reraise
  rw [bind_apply]
  rcases hrun : store.ensureDir env d with ⟨r, d₁⟩
  rw [hrun] at hd
  cases r with
  | error e =>
    refine ⟨fun h => absurd h (by simp), fun _ _ => ?_⟩
    rcases hd.error e rfl with h | ⟨mode, h, hf⟩
    · exact Or.inl h
    · exact Or.inr ⟨mode, Dict.empty, Dict.empty, hf, h, fun _ _ => rfl, fun _ _ => rfl⟩
  | ok _ =>
    obtain ⟨hops, mode, entries, rfl, hf⟩ := hd.ok rfl
    obtain ⟨entries', hc, hcommit⟩ := @commit_spec env mode entries sessionId target data htarget
    dsimp only
    rcases hrun' : commit env sessionId target data (.directory mode entries) with ⟨r, d₂⟩
    rw [hrun'] at hc hcommit
    obtain rfl : d₂ = .directory mode entries' := hc
    cases r with
    | error e =>
      refine ⟨fun h => absurd h (by simp), fun _ _ => Or.inr ?_⟩
      exact ⟨mode, entries, entries', hf, rfl, hcommit.error e rfl⟩
    | ok _ =>
      refine ⟨fun _ => ⟨fun op hop => ?_, ?_⟩, fun e h => absurd h (by simp)⟩
      · rcases List.mem_append.mp hop with hop | hop
        · exact hops op hop
        · exact (hcommit.ok rfl).1 op hop
      · exact ⟨mode, entries, entries', hf, rfl, (hcommit.ok rfl).2⟩

/-- **A save is atomic.** -/
theorem save_atomic (store : FileSessionStore) (env : FileEnv) (session : SessionState) (d : SessionDir) :
    SaveAtomic store env session d := by
  cases hp : store.payload session with
  | error e =>
    have hrun : store.save env session d = (.error e, d) := by
      unfold save
      rw [bind_apply, hp]
      rfl
    refine ⟨fun _ => ⟨e, by rw [hrun]⟩, fun _ _ => ?_, fun h => ?_⟩
    · rw [hrun]
      exact ⟨fun _ _ => rfl, fun _ _ => rfl, fun _ _ => rfl⟩
    · rw [hrun] at h
      exact absurd h (by simp)
  | ok data =>
    cases hn : store.fileName session.sessionId with
    | error e =>
      have hrun : store.save env session d = (.error e, d) := by
        unfold save
        rw [bind_apply, hp]
        dsimp only [lift]
        rw [bind_apply, hn]
        exact rfl
      refine ⟨fun _ => ⟨e, by rw [hrun]⟩, fun _ _ => ?_, fun h => ?_⟩
      · rw [hrun]
        exact ⟨fun _ _ => rfl, fun _ _ => rfl, fun _ _ => rfl⟩
      · rw [hrun] at h
        exact absurd h (by simp)
    | ok target =>
      have hrun : store.save env session d = saveData store env session.sessionId target data d := by
        unfold save
        rw [bind_apply, hp]
        dsimp only [lift]
        rw [bind_apply, hn]
        rfl
      have htemp := fun drawn => @fileName_ne_tempName store _ _ hn session.sessionId drawn
      have hs := @saveData_spec store env session.sessionId target data d htemp
      rw [← hrun] at hs
      refine ⟨?_, fun e he => ?_, fun hok => ?_⟩
      · rintro (⟨e, he⟩ | ⟨op, hop, hfail⟩)
        · exact absurd (hp.symm.trans he) (by simp)
        · cases hr : (store.save env session d).1 with
          | error e => exact ⟨e, rfl⟩
          | ok _ => exact absurd ((hs.ok hr).1 op hop) (by simp [hfail])
      · rcases hs.error e he with h | ⟨mode, entries, entries', hf, h, hothers, hunlink⟩
        · rw [h]
          exact ⟨fun _ _ => rfl, fun _ _ => rfl, fun _ _ => rfl⟩
        · rw [h]
          refine ⟨fun env' id => ?_, fun name hname => ?_, fun hu name => ?_⟩
          · exact load_congr hf (fun name hname =>
              hothers name (fileName_ne_tempName hname session.sessionId)) env'
          · exact (hothers name hname).trans (entry_founded hf name).symm
          · exact (hunlink hu name).trans (entry_founded hf name).symm
      · obtain ⟨_, mode, entries, entries', hf, h, hnames⟩ := hs.ok hok
        rw [h]
        refine ⟨data, target, hp, hn, fun name => ?_, fun env' id hid => ?_⟩
        · exact (hnames name).trans (if_congr Iff.rfl rfl (entry_founded hf name).symm)
        · refine load_congr hf (fun name hname => ?_) env'
          rw [hnames name, if_neg fun e : name = target => hid (e ▸ hname)]

end

end FileSessionStore

end Tomtit
