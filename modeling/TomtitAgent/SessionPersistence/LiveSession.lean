import TomtitAgent.SessionPersistence.AtomicSave

/-!
# The live session and its document

`SessionRuntime._record_terminal_state` saves the session with the new turn first, and appends the turn
to the live session when the save has returned.

* `recordTerminalState_spec`   one call: both grow by the turn, or neither changes;
* `neverDiverge`   over every run of calls, whatever fails.
-/

open Py

namespace Tomtit

namespace FileSessionStore
open Effect

section
variable {store : FileSessionStore}

structure SaveEntries (store : FileSessionStore) (env : FileEnv) (session : SessionState) (d : SessionDir)
    (result : Except PyExc Unit) (d' : SessionDir) : Prop where
  ok : result = .ok () → ∃ data target, store.payload session = .ok data ∧
    store.fileName session.sessionId = .ok target ∧
    ∀ name, entryOf d' name = if name = target then some (.file data) else entryOf d name
  secured : result = .ok () → ∃ mode entries, d' = .directory mode entries ∧ insecure mode = false
  error : ∀ e, result = .error e →
    ∀ name, (∀ drawn, name ≠ tempName session.sessionId drawn) → entryOf d' name = entryOf d name
  clean : ∀ e, result = .error e → env.fails .unlink = false → ∀ name, entryOf d' name = entryOf d name
  founded : ∀ e, result = .error e → d' = d ∨ ∃ mode entries, d' = .directory mode entries ∧ insecure mode = false

theorem save_payload_error {session : SessionState} {e : PyExc} (hp : store.payload session = .error e)
    (env : FileEnv) (d : SessionDir) : store.save env session d = (.error e, d) := by
  unfold save
  rw [bind_apply, hp]
  rfl

theorem save_fileName_error {session : SessionState} {data : Bytes} {e : PyExc}
    (hp : store.payload session = .ok data) (hn : store.fileName session.sessionId = .error e)
    (env : FileEnv) (d : SessionDir) : store.save env session d = (.error e, d) := by
  unfold save
  rw [bind_apply, hp]
  dsimp only [lift]
  rw [bind_apply, hn]
  exact rfl

theorem save_eq {session : SessionState} {data : Bytes} {target : PyStr}
    (hp : store.payload session = .ok data) (hn : store.fileName session.sessionId = .ok target)
    (env : FileEnv) (d : SessionDir) :
    store.save env session d = saveData store env session.sessionId target data d := by
  unfold save
  rw [bind_apply, hp]
  dsimp only [lift]
  rw [bind_apply, hn]
  rfl

theorem save_entries (store : FileSessionStore) (env : FileEnv) (session : SessionState) (d : SessionDir) :
    SaveEntries store env session d (store.save env session d).1 (store.save env session d).2 := by
  have same : ∀ e, SaveEntries store env session d (.error e) d := fun e =>
    ⟨fun h => absurd h (by simp), fun h => absurd h (by simp), fun _ _ _ _ => rfl, fun _ _ _ _ => rfl,
      fun _ _ => .inl rfl⟩
  cases hp : store.payload session with
  | error e =>
    rw [save_payload_error hp]
    exact same e
  | ok data =>
    cases hn : store.fileName session.sessionId with
    | error e =>
      rw [save_fileName_error hp hn]
      exact same e
    | ok target =>
      have hs := @saveData_spec store env session.sessionId target data d
        fun drawn => fileName_ne_tempName hn session.sessionId drawn
      rw [save_eq hp hn]
      refine ⟨fun h => ⟨data, target, hp, hn, fun name => ?_⟩, fun h => ?_, fun e h name hname => ?_,
        fun e h hu name => ?_, fun e h => ?_⟩
      · obtain ⟨_, mode, entries, entries', hf, hd, hnames⟩ := hs.ok h
        rw [hd, entry_founded hf]
        exact hnames name
      · obtain ⟨_, mode, _, entries', hf, hd, _⟩ := hs.ok h
        exact ⟨mode, entries', hd, hf.1⟩
      · rcases hs.error e h with hd | ⟨mode, entries, entries', hf, hd, hothers, _⟩
        · rw [hd]
        · rw [hd, entry_founded hf]
          exact hothers name hname
      · rcases hs.error e h with hd | ⟨mode, entries, entries', hf, hd, _, hremoved⟩
        · rw [hd]
        · rw [hd, entry_founded hf]
          exact hremoved hu name
      · rcases hs.error e h with hd | ⟨mode, _, entries', hf, hd, _⟩
        · exact .inl hd
        · exact .inr ⟨mode, entries', hd, hf.1⟩

end

end FileSessionStore

structure LiveSession where
  live : SessionState
  disk : SessionDir

/-- A call of `_record_terminal_state`: the state that a run ended in, the clock, and what the operating
system does meanwhile. -/
structure Recording (μ : Type) where
  state : AgentState μ
  now : Datetime
  env : FileEnv

section
variable {μ : Type} (store : FileSessionStore)

/-- The record of a terminal state; the answer of a failed run is masked. -/
def AgentState.turnRecord (now : Datetime) (s : AgentState μ) : TurnRecord where
  taskId := .str s.taskId
  goal := .str s.goal
  finalAnswer := .optStr (if s.status = .completed then s.finalAnswer else none)
  status := s.status
  plannedActions := s.plan.map fun step => step.action.value
  memoryDegraded := s.memoryDegraded
  memoryWriteFailed := s.memoryWriteFailed
  disclosureReasons := s.disclosureReasons
  completedAt := now

def Recording.record (r : Recording μ) : TurnRecord := r.state.turnRecord r.now

namespace LiveSession

/-- `_record_terminal_state` of a runtime with a store. -/
def recordTerminalState (r : Recording μ) (k : LiveSession) : Except PyExc Unit × LiveSession :=
  let candidate := { k.live with
    turns := k.live.turns ++ [r.record]
    updatedAt := r.record.completedAt }
  match store.save r.env candidate k.disk with
  | (.error e, disk) => (.error e, { k with disk })
  | (.ok _, disk) => (.ok (), ⟨k.live.appendTurn r.record, disk⟩)

def after (k : LiveSession) (rs : List (Recording μ)) : LiveSession :=
  rs.foldl (fun k r => (recordTerminalState store r k).2) k

/-- The records of the calls that returned, in their order. -/
def returned (k : LiveSession) : List (Recording μ) → List TurnRecord
  | [] => []
  | r :: rs =>
    match recordTerminalState store r k with
    | (.ok _, k') => r.record :: returned k' rs
    | (.error _, k') => returned k' rs

/-- The document under the name of the session is that of the live session. -/
def Stored (k : LiveSession) : Prop :=
  ∃ data target, store.payload k.live = .ok data ∧ store.fileName k.live.sessionId = .ok target ∧
    FileSessionStore.entryOf k.disk target = some (.file data)

def SameDocuments (d d' : SessionDir) : Prop :=
  ∀ id name, store.fileName id = .ok name →
    FileSessionStore.entryOf d' name = FileSessionStore.entryOf d name

structure Recorded (r : Recording μ) (k : LiveSession) (result : Except PyExc Unit) (k' : LiveSession) :
    Prop where
  ok : result = .ok () → k'.live = k.live.appendTurn r.record ∧ Stored store k'
  error : ∀ e, result = .error e → k'.live = k.live ∧ SameDocuments store k.disk k'.disk

/-- What a run of calls does, and what the next call does after it. -/
structure NeverDiverge (k : LiveSession) (rs : List (Recording μ)) : Prop where
  turns : (after store k rs).live.turns = k.live.turns ++ returned store k rs
  stored : Stored store k ∨ returned store k rs ≠ [] → Stored store (after store k rs)
  next : ∀ r : Recording μ, Recorded store r (after store k rs)
    (recordTerminalState store r (after store k rs)).1 (recordTerminalState store r (after store k rs)).2

end LiveSession
end

namespace LiveSession
variable {μ : Type} {store : FileSessionStore}

theorem recordTerminalState_spec (r : Recording μ) (k : LiveSession) :
    Recorded store r k (recordTerminalState store r k).1 (recordTerminalState store r k).2 := by
  have hsave := FileSessionStore.save_entries store r.env
    { k.live with turns := k.live.turns ++ [r.record], updatedAt := r.record.completedAt } k.disk
  unfold recordTerminalState
  dsimp only
  rcases hrun : store.save r.env { k.live with
    turns := k.live.turns ++ [r.record], updatedAt := r.record.completedAt } k.disk with ⟨result, disk⟩
  rw [hrun] at hsave
  cases result with
  | error e =>
    refine ⟨fun h => absurd h (by simp), fun _ _ => ⟨rfl, fun id name hname => ?_⟩⟩
    exact hsave.error e rfl name (FileSessionStore.fileName_ne_tempName hname _)
  | ok u =>
    obtain ⟨data, target, hpayload, hname, hentries⟩ := hsave.ok rfl
    refine ⟨fun _ => ⟨rfl, data, target, hpayload, hname, ?_⟩, fun e h => absurd h (by simp)⟩
    exact (hentries target).trans (if_pos rfl)

theorem Stored.of_same {k k' : LiveSession} (h : Stored store k) (hlive : k'.live = k.live)
    (hsame : SameDocuments store k.disk k'.disk) : Stored store k' := by
  obtain ⟨data, target, hpayload, hname, hentry⟩ := h
  refine ⟨data, target, hlive ▸ hpayload, hlive ▸ hname, ?_⟩
  rw [hsame _ target hname]
  exact hentry

theorem after_cons (k : LiveSession) (r : Recording μ) (rs : List (Recording μ)) :
    after store k (r :: rs) = after store (recordTerminalState store r k).2 rs := rfl

theorem run_spec (rs : List (Recording μ)) : ∀ k : LiveSession,
    (after store k rs).live.turns = k.live.turns ++ returned store k rs ∧
      (Stored store k ∨ returned store k rs ≠ [] → Stored store (after store k rs)) := by
  induction rs with
  | nil =>
    intro k
    refine ⟨(List.append_nil _).symm, fun h => ?_⟩
    exact h.resolve_right fun hne => hne rfl
  | cons r rs ih =>
    intro k
    have hspec := @recordTerminalState_spec μ store r k
    rw [after_cons, returned]
    rcases hrun : recordTerminalState store r k with ⟨result, k'⟩
    rw [hrun] at hspec
    obtain ⟨hturns, hstored⟩ := ih k'
    dsimp only
    cases result with
    | error e =>
      obtain ⟨hlive, hsame⟩ := hspec.error e rfl
      dsimp only at hlive hsame
      refine ⟨by rw [hturns, hlive], fun h => hstored ?_⟩
      exact h.imp_left fun h => h.of_same hlive hsame
    | ok u =>
      obtain ⟨hlive, hdoc⟩ := hspec.ok rfl
      dsimp only at hlive hdoc
      refine ⟨?_, fun _ => hstored (.inl hdoc)⟩
      rw [hturns, hlive]
      exact List.append_assoc k.live.turns [r.record] (returned store k' rs)

/-- **The live session and its document never diverge.** -/
theorem neverDiverge (store : FileSessionStore) (k : LiveSession) (rs : List (Recording μ)) :
    NeverDiverge store k rs where
  turns := (run_spec rs k).1
  stored := (run_spec rs k).2
  next r := recordTerminalState_spec r (after store k rs)

end LiveSession

end Tomtit
