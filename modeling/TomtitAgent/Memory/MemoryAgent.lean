import TomtitAgent.Memory.InMemoryStore

/-!
# `MemoryAgent`

`save_fact` and `save_preference` make one record and write it to the store.  The store is one
whose `write` may raise: `MemoryEnv.fault` says at which of the writes it does, and then nothing is
stored.  `World` is the store of a profile with the number of clock readings and of records made so far,
which select the answers of `utc_now()` and `uuid4()`.
-/

namespace Tomtit
open Py

structure MemoryEnv extends MemoryRuntime where
  /-- `utc_now()` at each reading -/
  now : Nat → Time
  /-- `str(uuid4())` for each record made -/
  uuid : Nat → PyStr
  /-- the exception that `store.write` raises for each record made, if any -/
  fault : Nat → Option PyExc
  /-- `date.today().isoformat()` -/
  today : PyStr

/-- ASCII letter case, a clock that counts, ids that count, and a store that never fails. -/
def plainEnv : MemoryEnv where
  toUnicode := asciiUnicode
  str v := match v with
    | .str s => s
    | _ => []
  str_str _ := rfl
  now n := n
  uuid n := [Fin.ofNat _ n]
  fault _ := none
  today := py "2026-01-01"

/-- The store of a profile: no record of it has a text key that holds another value. -/
structure World where
  store : InMemoryStore
  ticks : Nat
  made : Nat
  texts : ∀ r ∈ store.records.values, r.metadata.Texts

def World.empty : World := ⟨InMemoryStore.empty, 0, 0, fun _ h => absurd h List.not_mem_nil⟩

def World.live (w : World) : List MemoryRecord := w.store.live

structure NewMemory where
  content : PyStr
  type : MemoryType
  tags : List PyStr
  importance : Weight
  confidence : Weight
  source : SourceType
  metadata : Metadata
  texts : metadata.Texts

structure MemoryAgent where
  userId : Option PyStr
  sessionId : Option PyStr

/-- `_record`: the default factories read the clock for `created_at` and for `updated_at`. -/
def MemoryAgent.record (env : MemoryEnv) (agent : MemoryAgent) (m : NewMemory) (w : World) :
    MemoryRecord where
  id := env.uuid w.made
  content := m.content
  type := m.type
  userId := agent.userId
  sessionId := agent.sessionId
  taskId := none
  runId := none
  sourceEventId := none
  tags := m.tags
  importance := m.importance
  confidence := m.confidence
  source := m.source
  createdAt := env.now w.ticks
  updatedAt := env.now (w.ticks + 1)
  deletedAt := none
  metadata := m.metadata

def blankContent : PyExc := valueError (py "memory content cannot be empty")

/-- `save_memory` -/
def MemoryAgent.saveMemory (env : MemoryEnv) (agent : MemoryAgent) (m : NewMemory) (w : World) :
    Except PyExc MemoryRecord × World :=
  if strip m.content = [] then (.error blankContent, w)
  else
    let r := agent.record env m w
    match env.fault w.made with
    | some e => (.error e, { w with ticks := w.ticks + 2, made := w.made + 1 })
    | none =>
      (.ok (r.markUpdated (env.now (w.ticks + 2))),
        { store := w.store.write env.toMemoryRuntime (env.now (w.ticks + 2)) r,
          ticks := w.ticks + 3, made := w.made + 1
          texts := by
            intro x hx
            rcases InMemoryStore.values_write hx with hx | rfl
            · exact w.texts x hx
            · exact m.texts })

/-- `store.delete(memory_id, reason=reason)` -/
def World.delete (env : MemoryEnv) (memoryId reason : PyStr) (w : World) : World where
  store := (w.store.delete env.toMemoryRuntime (env.now w.ticks) memoryId (some reason)).2
  ticks := if (w.store.get memoryId).isSome then w.ticks + 1 else w.ticks
  made := w.made
  texts := by
    intro r hr
    rcases InMemoryStore.values_delete hr with hr | ⟨x, hx, rfl⟩
    · exact w.texts r hr
    · unfold InMemoryStore.tombstone
      split
      · exact w.texts x hx
      · exact w.texts x hx
      · exact (w.texts x hx).setDeleteReason _

/-- `for rec in records: if cond(rec): store.delete(rec.id, reason=reason)` -/
def World.deleteEach (env : MemoryEnv) (cond : MemoryRecord → Bool) (reason : PyStr) :
    List MemoryRecord → World → World
  | [], w => w
  | r :: rs, w => deleteEach env cond reason rs (if cond r then w.delete env r.id reason else w)

/-! ### the live records -/

namespace World
variable (env : MemoryEnv) {cond : MemoryRecord → Bool} {reason : PyStr}

theorem live_delete (memoryId reason : PyStr) (w : World) :
    (w.delete env memoryId reason).live = w.live.filter fun r => r.id ≠ memoryId :=
  InMemoryStore.live_delete _ _ _ _ _

theorem live_deleteEach (rs : List MemoryRecord) (w : World) :
    (w.deleteEach env cond reason rs).live =
      w.live.filter fun r => !(rs.any fun x => cond x && x.id = r.id) := by
  induction rs generalizing w with
  | nil => exact (List.filter_eq_self.mpr fun _ _ => rfl).symm
  | cons x rs ih =>
    rw [deleteEach, ih]
    cases hx : cond x with
    | false =>
      rw [if_neg Bool.false_ne_true]
      refine List.filter_congr fun r _ => ?_
      rw [List.any_cons, hx, Bool.false_and, Bool.false_or]
    | true =>
      rw [if_pos rfl, live_delete, List.filter_filter]
      refine List.filter_congr fun r _ => ?_
      rw [List.any_cons, hx, Bool.true_and, Bool.not_or, Bool.and_comm]
      by_cases h : x.id = r.id
      · simp [h]
      · simp [h, Ne.symm h]

theorem mem_live_deleteEach {rs : List MemoryRecord} {w : World} (h : ∀ x ∈ rs, x ∈ w.live)
    {r : MemoryRecord} :
    r ∈ (w.deleteEach env cond reason rs).live ↔ r ∈ w.live ∧ ¬ (r ∈ rs ∧ cond r = true) := by
  rw [live_deleteEach, List.mem_filter, Bool.not_eq_true', ← Bool.not_eq_true, List.any_eq_true]
  simp only [Bool.and_eq_true, decide_eq_true_eq]
  refine and_congr_right fun hr => not_congr ⟨?_, fun ⟨hm, hc⟩ => ⟨r, hm, hc, rfl⟩⟩
  rintro ⟨x, hx, hc, e⟩
  rw [← InMemoryStore.live_id_inj (h x hx) hr e]
  exact ⟨hx, hc⟩

theorem made_deleteEach (rs : List MemoryRecord) (w : World) :
    (w.deleteEach env cond reason rs).made = w.made := by
  induction rs generalizing w with
  | nil => rfl
  | cons x rs ih =>
    rw [deleteEach, ih]
    split <;> rfl

theorem keys_deleteEach (rs : List MemoryRecord) (w : World) :
    (w.deleteEach env cond reason rs).store.records.keys = w.store.records.keys := by
  induction rs generalizing w with
  | nil => rfl
  | cons x rs ih =>
    rw [deleteEach, ih]
    split
    · exact InMemoryStore.keys_delete _ _ _ _ _
    · rfl

theorem get?_deleteEach {rs : List MemoryRecord} {w : World} {k : PyStr}
    (h : (∀ x ∈ rs, cond x = true → x.id ≠ k) ∨ ∀ r, w.store.records.get? k = some r → r.isDeleted = true) :
    (w.deleteEach env cond reason rs).store.records.get? k = w.store.records.get? k := by
  induction rs generalizing w with
  | nil => rfl
  | cons x rs ih =>
    rw [deleteEach]
    have hstep : (if cond x then w.delete env x.id reason else w).store.records.get? k =
        w.store.records.get? k := by
      split
      · next hc =>
        refine InMemoryStore.get?_delete (h.imp_left fun h => ?_)
        exact (h x List.mem_cons_self hc).symm
      · rfl
    rw [ih, hstep]
    refine h.imp (fun h y hy => h y (List.mem_cons_of_mem x hy)) fun h r hr => h r ?_
    rw [← hstep]
    exact hr

end World

end Tomtit
