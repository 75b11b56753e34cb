import TomtitAgent.Python.SmallRuntime
import TomtitAgent.State.AgentState

/-!
# `RuntimeAgent.run_memory_recall`

* `formatRecallOutput`   the answer of a hit; it prints what the metadata holds;
* `recallTurn`, `recallLoop`, `runMemoryRecall`   one retrieval, the loop, the run; with the state they give
                         the calls that were made;
* `HonestRecall`         what a recall must be: bounded, paused between retrievals, and true to the last one;
* `honestRecall_iff`     every recall is, unless its hit cannot be printed or prints as the message that
                         nothing was found.
-/

open Py

namespace Tomtit

def recallNoResult : PyStr := py "No matching project decision found."

def recallFailed : PyStr := py "Decision recall failed."

section
variable (rt : Runtime)

/-! ### the answer -/

def recallLine (label : PyStr) (value : Option PyVal) : Except PyExc (List PyStr) :=
  match value.filter truthy with
  | none => .ok []
  | some v => do
    let text ← strVal rt v
    return [label ++ text]

def recallBlock (item : ContextItem) : Except PyExc PyStr := do
  let memoryId := ((metadataGet item.metadata (py "memory_id")).filter truthy).or (item.sourceRef.map .str)
  let idLine ← recallLine rt (py "Memory ID: ") memoryId
  let evidenceLine ← recallLine rt (py "Provenance: ") (metadataGet item.metadata (py "evidence_ref"))
  let taskLine ← recallLine rt (py "Source task: ") (metadataGet item.metadata (py "source_task_id"))
  return joinWith (py "\n") (item.content :: (idLine ++ evidenceLine ++ taskLine))

def recallBlocks : List ContextItem → Except PyExc (List PyStr)
  | [] => .ok []
  | item :: items => do
    let block ← recallBlock rt item
    let blocks ← recallBlocks items
    return block :: blocks

/-- `_format_recall_output` -/
def formatRecallOutput (pack : ContextPack) : Except PyExc PyStr := do
  let blocks ← recallBlocks rt pack.items
  return joinWith (py "\n\n") blocks

/-! ### the loop -/

inductive RecallCall where
  | retrieve (goal : PyStr) (userId sessionId : Option PyStr)
  | sleep
deriving DecidableEq

variable {μ : Type} (client : Nat → Except PyExc ContextPack) (maxAttempts : Int)

/-- One turn of the loop, the retrieval after `attempt` earlier ones; `none` where it is tried again. -/
def recallTurn (attempt : Nat) (s : AgentState μ) : Option (Except PyExc (AgentState μ)) :=
  match client attempt with
  | .error e => some (.ok ((s.addError (py "memory_recall:" ++ excName e)).fail recallFailed))
  | .ok pack =>
    if pack.degraded then
      some (.ok (({ s with memoryDegraded := true }.addError (py "memory_recall:degraded")).fail recallFailed))
    else if pack.items.isEmpty = false then
      some ((formatRecallOutput rt pack).map fun text => { s with contextPack := some pack }.complete text)
    else if (attempt + 1 : Int) ≥ maxAttempts then
      some (.ok ({ s with contextPack := some pack }.complete recallNoResult))
    else none

def retrieveCall (s : AgentState μ) : RecallCall := .retrieve s.goal s.userId s.sessionId

theorem recallTurn_none {attempt : Nat} {s : AgentState μ} (h : recallTurn rt client maxAttempts attempt s = none) :
    (∃ pack, client attempt = .ok pack ∧ pack.degraded = false ∧ pack.items = []) ∧
      (attempt + 1 : Int) < maxAttempts := by
  unfold recallTurn at h
  cases hclient : client attempt with
  | error e =>
    rw [hclient] at h
    exact absurd h (by simp)
  | ok pack =>
    rw [hclient] at h
    dsimp only at h
    split_ifs at h with hdegraded hitems hlast
    refine ⟨⟨pack, rfl, Bool.eq_false_iff.mpr hdegraded, ?_⟩, by omega⟩
    exact List.isEmpty_iff.mp (Bool.not_eq_false _ ▸ hitems)

def recallLoop (attempt : Nat) (s : AgentState μ) : Except PyExc (List RecallCall × AgentState μ) :=
  match _h : recallTurn rt client maxAttempts attempt s with
  | some ended => ended.map fun s' => ([retrieveCall s], s')
  | none => (recallLoop (attempt + 1) s).map fun y => (retrieveCall s :: .sleep :: y.1, y.2)
termination_by (maxAttempts - attempt).toNat
decreasing_by
  have := (recallTurn_none rt client maxAttempts _h).2
  omega

/-- `run_memory_recall` with a client whose retrievals end one after the other as listed. -/
def runMemoryRecall (memoryClient : Option (Nat → Except PyExc ContextPack)) (s : AgentState μ) :
    Except PyExc (List RecallCall × AgentState μ) :=
  if s.done ∨ s.status ≠ .created then .ok ([], s)
  else
    match memoryClient with
    | none => .ok ([], (s.addError (py "memory_recall:no_client")).fail recallFailed)
    | some client => recallLoop rt client maxAttempts 0 s

end

/-! ### what a recall must be -/

def Nothing (answer : Except PyExc ContextPack) : Prop :=
  ∃ pack, answer = .ok pack ∧ pack.degraded = false ∧ pack.items = []

/-- `n + 1` retrievals with a pause between each two. -/
def paused (call : RecallCall) : Nat → List RecallCall
  | 0 => [call]
  | n + 1 => call :: .sleep :: paused call n

/-- A recall that retrieved `n + 1` times. -/
structure HonestRecall {μ : Type} (client : Nat → Except PyExc ContextPack) (maxAttempts : Int) (s : AgentState μ)
    (n : Nat) (calls : List RecallCall) (s' : AgentState μ) : Prop where
  calls : calls = paused (retrieveCall s) n
  bounded : (n + 1 : Int) ≤ max 1 maxAttempts
  retried : ∀ i < n, Nothing (client i)
  stopped : Nothing (client n) → maxAttempts ≤ n + 1
  ended : s'.status = .completed ∨ s'.status = .failed
  completed : s'.status = .completed ↔ ∃ pack, client n = .ok pack ∧ pack.degraded = false
  noResult : s'.finalAnswer = some recallNoResult → (∀ i ≤ n, Nothing (client i)) ∧ maxAttempts ≤ n + 1

/-- The first hit within the bound, if there is one, can be printed, and not as the message that nothing was
found. -/
def HitPrints (rt : Runtime) (client : Nat → Except PyExc ContextPack) (maxAttempts : Int) : Prop :=
  ∀ n pack, (∀ i < n, Nothing (client i)) → (n + 1 : Int) ≤ max 1 maxAttempts → client n = .ok pack →
    pack.degraded = false → pack.items ≠ [] →
    ∃ text, formatRecallOutput rt pack = .ok text ∧ text ≠ recallNoResult

section
variable {rt : Runtime} {μ : Type} {client : Nat → Except PyExc ContextPack} {maxAttempts : Int}
  {s s' : AgentState μ}

variable (rt client maxAttempts) in
theorem recallLoop_ends (attempt : Nat) (s : AgentState μ) :
    ∃ k ended, (∀ i < k, recallTurn rt client maxAttempts (attempt + i) s = none) ∧
      recallTurn rt client maxAttempts (attempt + k) s = some ended ∧
      recallLoop rt client maxAttempts attempt s = ended.map fun s' => (paused (retrieveCall s) k, s') := by
  rw [recallLoop]
  split
  · next ended h => exact ⟨0, ended, fun i hi => absurd hi (Nat.not_lt_zero i), h, rfl⟩
  · next h =>
    obtain ⟨k, ended, hretried, hended, hloop⟩ := recallLoop_ends (attempt + 1) s
    have hshift : ∀ i, attempt + (i + 1) = attempt + 1 + i := fun i => by omega
    refine ⟨k + 1, ended, fun i hi => ?_, ?_, ?_⟩
    · cases i with
      | zero => exact h
      | succ i =>
        rw [hshift]
        exact hretried i (by omega)
    · rw [hshift]
      exact hended
    · rw [hloop]
      cases ended <;> rfl
termination_by (maxAttempts - attempt).toNat
decreasing_by
  have := (recallTurn_none rt client maxAttempts (by assumption)).2
  omega

inductive TurnEnd (rt : Runtime) (client : Nat → Except PyExc ContextPack) (maxAttempts : Int) (n : Nat)
    (ended : Except PyExc (AgentState μ)) : Prop where
  | failed (hclient : ¬ ∃ pack, client n = .ok pack ∧ pack.degraded = false)
      (hended : ∃ s', ended = .ok s' ∧ s'.status = .failed ∧ s'.finalAnswer = some recallFailed)
  | hit (pack : ContextPack) (hclient : client n = .ok pack) (hdegraded : pack.degraded = false)
      (hitems : pack.items ≠ [])
      (hended : (∃ e, formatRecallOutput rt pack = .error e ∧ ended = .error e) ∨
        ∃ text s', formatRecallOutput rt pack = .ok text ∧ ended = .ok s' ∧ s'.status = .completed ∧
          s'.finalAnswer = some text)
  | exhausted (hclient : Nothing (client n)) (hlast : maxAttempts ≤ n + 1)
      (hended : ∃ s', ended = .ok s' ∧ s'.status = .completed ∧ s'.finalAnswer = some recallNoResult)

theorem recallTurn_some {n : Nat} {ended : Except PyExc (AgentState μ)}
    (h : recallTurn rt client maxAttempts n s = some ended) : TurnEnd rt client maxAttempts n ended := by
  unfold recallTurn at h
  cases hclient : client n with
  | error e =>
    rw [hclient] at h
    refine .failed ?_ ⟨_, (Option.some.inj h).symm, rfl, rfl⟩
    rintro ⟨pack, hpack, -⟩
    rw [hclient] at hpack
    exact absurd hpack (by simp)
  | ok pack =>
    rw [hclient] at h
    dsimp only at h
    split_ifs at h with hdegraded hitems hlast
    · refine .failed ?_ ⟨_, (Option.some.inj h).symm, rfl, rfl⟩
      rintro ⟨pack', hpack, hfresh⟩
      rw [hclient] at hpack
      rw [← Except.ok.inj hpack, hdegraded] at hfresh
      exact absurd hfresh (by simp)
    · refine .hit pack hclient (Bool.eq_false_iff.mpr hdegraded) (List.isEmpty_eq_false_iff.mp hitems) ?_
      rw [← Option.some.inj h]
      cases hformat : formatRecallOutput rt pack with
      | error e => exact .inl ⟨e, rfl, rfl⟩
      | ok text => exact .inr ⟨text, _, rfl, rfl, rfl, rfl⟩
    · refine .exhausted ⟨pack, hclient, Bool.eq_false_iff.mpr hdegraded, ?_⟩ hlast
        ⟨_, (Option.some.inj h).symm, rfl, rfl⟩
      exact List.isEmpty_iff.mp (Bool.not_eq_false _ ▸ hitems)

theorem recallFailed_ne : recallFailed ≠ recallNoResult := by
  unfold recallFailed recallNoResult
  simp

theorem paused_length (call : RecallCall) (n : Nat) : (paused call n).length = 2 * n + 1 := by
  induction n with
  | zero => rfl
  | succ n ih =>
    rw [paused, List.length_cons, List.length_cons, ih]
    omega

theorem Nothing.not_hit {n : Nat} {pack : ContextPack} (h : Nothing (client n)) (hclient : client n = .ok pack) :
    pack.items = [] := by
  obtain ⟨pack', hpack, -, hitems⟩ := h
  rw [hclient] at hpack
  rwa [Except.ok.inj hpack]

theorem retried_nothing {k : Nat} (h : ∀ i < k, recallTurn rt client maxAttempts (0 + i) s = none) :
    (∀ i < k, Nothing (client i)) ∧ (k + 1 : Int) ≤ max 1 maxAttempts := by
  have hturn : ∀ i < k, Nothing (client i) ∧ (i + 1 : Int) < maxAttempts := fun i hi =>
    recallTurn_none rt client maxAttempts (Nat.zero_add i ▸ h i hi)
  refine ⟨fun i hi => (hturn i hi).1, ?_⟩
  cases k with
  | zero => exact le_max_left _ _
  | succ k =>
    have hlast := (hturn k (Nat.lt_succ_self k)).2
    refine le_max_of_le_right ?_
    push_cast
    omega

theorem hit_unique {k m : Nat} {pack : ContextPack} {ended : Except PyExc (AgentState μ)}
    (hbefore : ∀ i < k, Nothing (client i)) (hend : TurnEnd rt client maxAttempts k ended)
    (hm : ∀ i < m, Nothing (client i)) (hbound : (m + 1 : Int) ≤ max 1 maxAttempts)
    (hclient : client m = .ok pack) (hitems : pack.items ≠ []) : m = k := by
  rcases Nat.lt_trichotomy m k with hlt | heq | hgt
  · exact absurd ((hbefore m hlt).not_hit hclient) hitems
  · exact heq
  · obtain ⟨pack', hpack, hdegraded, hnone⟩ := hm k hgt
    cases hend with
    | failed hfailed => exact absurd ⟨pack', hpack, hdegraded⟩ hfailed
    | hit pack'' hhit _ hsome =>
      rw [hpack] at hhit
      rw [← Except.ok.inj hhit] at hsome
      exact absurd hnone hsome
    | exhausted _ hlast =>
      rcases le_max_iff.mp hbound with hone | hmax
      · omega
      · omega

theorem runMemoryRecall_fresh (hstatus : s.status = .created) (hdone : s.done = false) :
    runMemoryRecall rt maxAttempts (some client) s = recallLoop rt client maxAttempts 0 s := by
  unfold runMemoryRecall
  rw [if_neg (by simp [hstatus, hdone])]

theorem runMemoryRecall_unprintable (hstatus : s.status = .created) (hdone : s.done = false) {pack : ContextPack}
    {e : PyExc} (hclient : client 0 = .ok pack) (hitems : pack.items ≠ []) (hdegraded : pack.degraded = false)
    (hformat : formatRecallOutput rt pack = .error e) :
    runMemoryRecall rt maxAttempts (some client) s = .error e := by
  obtain ⟨k, ended, hretried, hended, hloop⟩ := recallLoop_ends rt client maxAttempts 0 s
  have hend : TurnEnd rt client maxAttempts k ended := recallTurn_some (Nat.zero_add k ▸ hended)
  obtain rfl := hit_unique (retried_nothing hretried).1 hend (fun i hi => absurd hi (Nat.not_lt_zero i))
    (le_max_left _ _) hclient hitems
  rw [runMemoryRecall_fresh hstatus hdone, hloop]
  cases hend with
  | failed hfailed => exact absurd ⟨pack, hclient, hdegraded⟩ hfailed
  | exhausted hnothing => exact absurd (hnothing.not_hit hclient) hitems
  | hit pack' hclient' _ _ hended =>
    rw [hclient] at hclient'
    cases hclient'
    rcases hended with ⟨e', he', rfl⟩ | ⟨text, s'', hformat', -⟩
    · rw [hformat] at he'
      rw [← Except.error.inj he']
      rfl
    · rw [hformat] at hformat'
      exact absurd hformat' (by simp)

/-- A recall of a fresh state is bounded and honest exactly when its first hit prints. -/
theorem honestRecall_iff (rt : Runtime) (client : Nat → Except PyExc ContextPack) (maxAttempts : Int)
    {s : AgentState μ} (hstatus : s.status = .created) (hdone : s.done = false) :
    (∃ n calls s', runMemoryRecall rt maxAttempts (some client) s = .ok (calls, s') ∧
      HonestRecall client maxAttempts s n calls s') ↔ HitPrints rt client maxAttempts := by
  obtain ⟨k, ended, hretried, hended, hloop⟩ := recallLoop_ends rt client maxAttempts 0 s
  obtain ⟨hbefore, hbound⟩ := retried_nothing hretried
  have hend : TurnEnd rt client maxAttempts k ended := recallTurn_some (Nat.zero_add k ▸ hended)
  rw [runMemoryRecall_fresh hstatus hdone, hloop]
  constructor
  · rintro ⟨n, calls, s', hok, honest⟩ m pack hm hmbound hclient hdegraded hitems
    obtain rfl := hit_unique hbefore hend hm hmbound hclient hitems
    cases hend with
    | failed hfailed => exact absurd ⟨pack, hclient, hdegraded⟩ hfailed
    | exhausted hnothing => exact absurd (hnothing.not_hit hclient) hitems
    | hit pack' hclient' _ _ hended =>
      rw [hclient] at hclient'
      cases hclient'
      rcases hended with ⟨e, -, rfl⟩ | ⟨text, s'', hformat, rfl, -, hanswer⟩
      · exact absurd hok (by simp [Except.map])
      · obtain ⟨rfl, rfl⟩ := Prod.mk.inj (Except.ok.inj hok)
        refine ⟨text, hformat, fun htext => ?_⟩
        have hn : n = m := by
          have hlen := congrArg List.length honest.calls
          rw [paused_length, paused_length] at hlen
          omega
        rw [htext] at hanswer
        exact hitems (((honest.noResult hanswer).1 m (le_of_eq hn.symm)).not_hit hclient)
  · intro hprints
    have hall : Nothing (client k) → ∀ i ≤ k, Nothing (client i) := by
      intro hlast i hi
      rcases Nat.lt_or_eq_of_le hi with hlt | rfl
      · exact hbefore i hlt
      · exact hlast
    cases hend with
    | failed hfailed hended =>
      obtain ⟨s', rfl, hs', hanswer⟩ := hended
      have hnot : s'.status ≠ .completed := by rw [hs']; simp
      refine ⟨k, _, s', rfl, rfl, hbound, hbefore, fun hnothing => ?_, .inr hs', iff_of_false hnot hfailed,
        fun hno => ?_⟩
      · obtain ⟨pack, hpack, hdegraded, -⟩ := hnothing
        exact absurd ⟨pack, hpack, hdegraded⟩ hfailed
      · rw [hanswer] at hno
        exact absurd (Option.some.inj hno) recallFailed_ne
    | hit pack hclient hdegraded hitems hended =>
      obtain ⟨text, hformat, htext⟩ := hprints k pack hbefore hbound hclient hdegraded hitems
      rcases hended with ⟨e, herror, -⟩ | ⟨text', s', hformat', rfl, hs', hanswer⟩
      · rw [hformat] at herror
        exact absurd herror (by simp)
      · refine ⟨k, _, s', rfl, rfl, hbound, hbefore, fun hnothing => absurd (hnothing.not_hit hclient) hitems,
          .inl hs', iff_of_true hs' ⟨pack, hclient, hdegraded⟩, fun hno => ?_⟩
        rw [hformat] at hformat'
        rw [hanswer, ← Except.ok.inj hformat'] at hno
        exact absurd (Option.some.inj hno) htext
    | exhausted hnothing hlast hended =>
      obtain ⟨s', rfl, hs', hanswer⟩ := hended
      obtain ⟨pack, hpack, hdegraded, -⟩ := id hnothing
      exact ⟨k, _, s', rfl, rfl, hbound, hbefore, fun _ => hlast, .inl hs',
        iff_of_true hs' ⟨pack, hpack, hdegraded⟩, fun _ => ⟨hall hnothing, hlast⟩⟩

end

/-! ### a hit after an empty pack, and a hit that cannot be printed -/

def recallState : AgentState Unit := { goal := [103], taskId := [116], workspace := { memory := () } }

def laterClient (n : Nat) : Except PyExc ContextPack :=
  .ok ⟨if n = 0 then [] else [⟨[104], [(.str (py "memory_id"), .str [109])], none⟩], false⟩

theorem formatRecallOutput_later : formatRecallOutput (small 4300)
    ⟨[⟨[104], [(.str (py "memory_id"), .str [109])], none⟩], false⟩ =
      .ok (joinWith (py "\n") [[104], py "Memory ID: " ++ [109]]) := by
  have hid : metadataGet [(.str (py "memory_id"), .str [109])] (py "memory_id") = some (.str [109]) := by
    unfold metadataGet
    rw [List.find?_cons_of_pos (by simp [PyVal.asStr])]
    rfl
  have hother : ∀ key, py "memory_id" ≠ key →
      metadataGet [(.str (py "memory_id"), .str [109])] key = none := by
    intro key hkey
    unfold metadataGet
    rw [List.find?_cons_of_neg (by simpa [PyVal.asStr] using hkey)]
    rfl
  have hblock : recallBlock (small 4300) ⟨[104], [(.str (py "memory_id"), .str [109])], none⟩ =
      .ok (joinWith (py "\n") [[104], py "Memory ID: " ++ [109]]) := by
    unfold recallBlock
    dsimp only
    rw [hid, hother (py "evidence_ref") (by simp), hother (py "source_task_id") (by simp)]
    rfl
  unfold formatRecallOutput recallBlocks
  rw [hblock]
  rfl

/-- Nothing is found at first, and then a hit that prints. -/
theorem honestRecall_later : ∃ n calls s',
    runMemoryRecall (small 4300) 3 (some laterClient) recallState = .ok (calls, s') ∧
      HonestRecall laterClient 3 recallState n calls s' := by
  refine (honestRecall_iff (small 4300) laterClient 3 rfl rfl).mpr fun n pack _ _ hclient _ hitems => ?_
  unfold laterClient at hclient
  rw [← Except.ok.inj hclient] at hitems ⊢
  by_cases hn : n = 0
  · rw [if_pos hn] at hitems
    exact absurd rfl hitems
  · rw [if_neg hn]
    refine ⟨_, formatRecallOutput_later, ?_⟩
    unfold recallNoResult
    rw [py_ofList]
    exact fun h => absurd (List.cons.inj h).1 (by decide)

/-- A hit whose `memory_id` is a number that is too long to be printed. -/
theorem honestRecall_not_total : ∃ n : Int, intFits (small 4300) n = false ∧
    ¬ ∃ k calls s', runMemoryRecall (small 4300) 1
        (some fun _ => .ok ⟨[⟨[104], [(.str (py "memory_id"), .int n)], none⟩], false⟩) recallState =
          .ok (calls, s') ∧
      HonestRecall (fun _ => .ok ⟨[⟨[104], [(.str (py "memory_id"), .int n)], none⟩], false⟩) 1 recallState k
        calls s' := by
  obtain ⟨n, hn⟩ : ∃ n, intFits (small 4300) n = false := ⟨10 ^ 4300, tooLong_intFits 4300 (by omega)⟩
  refine ⟨n, hn, ?_⟩
  have hget : metadataGet [(.str (py "memory_id"), .int n)] (py "memory_id") = some (.int n) := by
    have hkey : (fun kv : PyVal × PyVal => decide (kv.1.asStr = some (py "memory_id")))
        (.str (py "memory_id"), .int n) = true := decide_eq_true rfl
    unfold metadataGet
    exact congrArg (Option.map Prod.snd) (List.find?_cons_of_pos hkey)
  have htrue : truthy (.int n) = true := by
    refine decide_eq_true fun h => ?_
    rw [h, intFits_zero] at hn
    exact absurd hn (by simp)
  have hline : recallLine (small 4300) (py "Memory ID: ") (some (.int n)) = .error (intTooLong (small 4300)) := by
    have hkept : (some (PyVal.int n)).filter truthy = some (.int n) := Option.filter_some_pos htrue
    unfold recallLine
    rw [hkept]
    show (strInt (small 4300) n >>= _) = _
    unfold strInt
    rw [hn]
    rfl
  have hblock : recallBlock (small 4300) ⟨[104], [(.str (py "memory_id"), .int n)], none⟩ =
      .error (intTooLong (small 4300)) := by
    have hkept : ((some (PyVal.int n)).filter truthy).or (Option.map PyVal.str none) = some (.int n) := by
      rw [Option.filter_some_pos htrue]
      rfl
    unfold recallBlock
    dsimp only
    rw [hget, hkept, hline]
    rfl
  have hformat : formatRecallOutput (small 4300) ⟨[⟨[104], [(.str (py "memory_id"), .int n)], none⟩], false⟩ =
      .error (intTooLong (small 4300)) := by
    show ((recallBlock _ _ >>= _) >>= _) = _
    rw [hblock]
    rfl
  rintro ⟨k, calls, s', hrun, -⟩
  rw [runMemoryRecall_unprintable rfl rfl rfl (List.cons_ne_nil _ _) rfl hformat] at hrun
  exact absurd hrun (by simp)

end Tomtit
