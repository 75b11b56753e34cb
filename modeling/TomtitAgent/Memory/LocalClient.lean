import TomtitAgent.Memory.ContextPacks
import TomtitAgent.Memory.Notes

/-!
# `memory/local_client.py`: retrieval under a token budget

* `retrieveLoop`      the greedy loop: it stops at the first record that exceeds what is left;
* `ExactPack`         the longest prefix of what the search ranked that the budget holds;
* `retrieve_exact`    every retrieval returns it.
-/

open Py

namespace Tomtit

structure LocalMemoryClient where
  /-- `search` of the store -/
  search : MemoryQuery → List MemoryRecord
  /-- `count` of the token counter -/
  count : PyStr → Int

/-- `ApproxTokenCounter().count` -/
def approxTokens (text : PyStr) : Int := max 1 (split text).length

/-- `LocalMemoryClient(store)` -/
def LocalMemoryClient.ofStore (rt : MemoryRuntime) (store : InMemoryStore) : LocalMemoryClient where
  search q := store.search rt q
  count := approxTokens

def RetrieveArgs.query (args : RetrieveArgs) : MemoryQuery where
  text := []
  userId := args.userId
  sessionId := args.sessionId
  types := none
  tags := none
  includeDeleted := false
  limit := args.maxItems

def localItem (r : MemoryRecord) (tokens : Int) : RetrievedItem where
  content := r.content
  type := r.type
  score := r.importance.float
  tokens := tokens
  source := .localMemory
  provenance := .fallback
  confidence := .limited
  freshness := .unknown
  metadata := [(.str (py "memory_id"), .str (strip r.id))]
  sourceRef := some (strip r.id)

namespace LocalMemoryClient
variable (client : LocalMemoryClient)

/-- `_to_item` -/
def toItem (r : MemoryRecord) (tokens : Int) : Except PyExc RetrievedItem :=
  if blank r.id then .error (valueError (py "MemoryRecord.id must be a non-blank string"))
  else .ok (localItem r tokens)

/-- The loop after `used` tokens: the items it appends, the tokens used at its end, and whether it broke. -/
def retrieveLoop (tokenBudget : Int) : List MemoryRecord → Int → Except PyExc (List RetrievedItem × Int × Bool)
  | [], used => .ok ([], used, false)
  | r :: rs, used =>
    if used + client.count r.content > tokenBudget then .ok ([], used, true)
    else do
      let item ← toItem r (client.count r.content)
      let (items, used', truncated) ← retrieveLoop tokenBudget rs (used + client.count r.content)
      return (item :: items, used', truncated)

/-- The `ContextPack` of a finished loop. -/
def packOf (args : RetrieveArgs) (result : List RetrievedItem × Int × Bool) : RetrievedPack where
  items := result.1
  totalItems := result.1.length
  tokensUsed := result.2.1
  tokenBudget := args.tokenBudget
  truncated := result.2.2
  degraded := true
  memorySource := .localFallback

def retrieveContextPack (args : RetrieveArgs) : Except PyExc RetrievedPack := do
  let result ← client.retrieveLoop args.tokenBudget (client.search args.query) 0
  return packOf args result

/-- The tokens of the first `n` records. -/
def tokensOf (rs : List MemoryRecord) (n : Nat) : Int := ((rs.take n).map fun r => client.count r.content).sum

/-- The pack holds the longest prefix of the records within the budget, and says so. -/
structure ExactPack (rs : List MemoryRecord) (args : RetrieveArgs) (pack : RetrievedPack) : Prop where
  within_records : pack.items.length ≤ rs.length
  items : pack.items = (rs.take pack.items.length).map fun r => localItem r (client.count r.content)
  used : pack.tokensUsed = client.tokensOf rs pack.items.length
  within_budget : pack.tokensUsed ≤ args.tokenBudget
  longest : ∀ m, pack.items.length < m → m ≤ rs.length → args.tokenBudget < client.tokensOf rs m
  truncated : pack.truncated = true ↔ pack.items.length < rs.length
  total : pack.totalItems = pack.items.length
  budget : pack.tokenBudget = args.tokenBudget
  local_fallback : pack.degraded = true ∧ pack.memorySource = .localFallback

variable {client}

theorem tokensOf_cons (r : MemoryRecord) (rs : List MemoryRecord) (n : Nat) :
    client.tokensOf (r :: rs) (n + 1) = client.count r.content + client.tokensOf rs n := by
  unfold tokensOf
  rw [List.take_succ_cons, List.map_cons, List.sum_cons]

theorem tokensOf_nonneg (hcount : ∀ text, 0 ≤ client.count text) (rs : List MemoryRecord) (n : Nat) :
    0 ≤ client.tokensOf rs n := by
  refine List.sum_nonneg fun t ht => ?_
  obtain ⟨r, _, rfl⟩ := List.mem_map.mp ht
  exact hcount r.content

theorem retrieveLoop_spec (hcount : ∀ text, 0 ≤ client.count text) {tokenBudget : Int} {rs : List MemoryRecord}
    (hids : ∀ r ∈ rs, blank r.id = false) {used : Int} (hused : used ≤ tokenBudget) :
    ∃ n ≤ rs.length,
      client.retrieveLoop tokenBudget rs used = .ok
        ((rs.take n).map fun r => localItem r (client.count r.content), used + client.tokensOf rs n,
          decide (n < rs.length)) ∧
      used + client.tokensOf rs n ≤ tokenBudget ∧
      ∀ m, n < m → m ≤ rs.length → tokenBudget < used + client.tokensOf rs m := by
  induction rs generalizing used with
  | nil =>
    refine ⟨0, le_refl 0, ?_, ?_, fun m hm hle => absurd hle (Nat.not_le.mpr hm)⟩
    · show _ = Except.ok ([], used + 0, _)
      rw [add_zero]
      rfl
    · show used + 0 ≤ tokenBudget
      rw [add_zero]
      exact hused
  | cons r rs ih =>
    rw [retrieveLoop]
    by_cases hover : used + client.count r.content > tokenBudget
    · -- the first record exceeds what is left, and every longer prefix with it
      rw [if_pos hover]
      refine ⟨0, Nat.zero_le _, ?_, ?_, fun m hm _ => ?_⟩
      · show _ = Except.ok ([], used + 0, decide (0 < (r :: rs).length))
        have hlonger : 0 < (r :: rs).length := Nat.succ_pos rs.length
        rw [add_zero, decide_eq_true hlonger]
      · show used + 0 ≤ tokenBudget
        rw [add_zero]
        exact hused
      · obtain ⟨k, rfl⟩ := Nat.exists_eq_succ_of_ne_zero (Nat.ne_zero_of_lt hm)
        have hrest := tokensOf_nonneg hcount rs k
        rw [tokensOf_cons]
        omega
    · rw [if_neg hover]
      obtain ⟨n, hn, hloop, hwithin, hlongest⟩ :=
        ih (fun q hq => hids q (List.mem_cons_of_mem r hq)) (Int.not_lt.mp hover)
      have hitem : toItem r (client.count r.content) = .ok (localItem r (client.count r.content)) := by
        unfold toItem
        rw [hids r List.mem_cons_self]
        rfl
      refine ⟨n + 1, Nat.succ_le_succ hn, ?_, ?_, fun m hm hle => ?_⟩
      · rw [hitem, hloop, tokensOf_cons, List.take_succ_cons, List.map_cons, ← add_assoc]
        have hflag : decide (n < rs.length) = decide (n + 1 < (r :: rs).length) :=
          decide_eq_decide.mpr (Nat.succ_lt_succ_iff.symm)
        rw [← hflag]
        rfl
      · rw [tokensOf_cons, ← add_assoc]
        exact hwithin
      · obtain ⟨k, rfl⟩ := Nat.exists_eq_succ_of_ne_zero (Nat.ne_zero_of_lt hm)
        rw [tokensOf_cons, ← add_assoc]
        exact hlongest k (Nat.lt_of_succ_lt_succ hm) (Nat.le_of_succ_le_succ hle)

/-- A retrieval over records with ids is exact under its budget. -/
theorem retrieve_exact (client : LocalMemoryClient) (args : RetrieveArgs)
    (hcount : ∀ text, 0 ≤ client.count text) (hbudget : 0 ≤ args.tokenBudget)
    (hids : ∀ r ∈ client.search args.query, blank r.id = false) :
    ∃ pack, client.retrieveContextPack args = .ok pack ∧
      client.ExactPack (client.search args.query) args pack := by
  obtain ⟨n, hn, hloop, hwithin, hlongest⟩ := retrieveLoop_spec hcount hids hbudget
  rw [zero_add] at hloop hwithin
  generalize hr : (((client.search args.query).take n).map fun r => localItem r (client.count r.content),
    client.tokensOf (client.search args.query) n, decide (n < (client.search args.query).length)) = result at hloop
  have hitems : (packOf args result).items =
      ((client.search args.query).take n).map fun r => localItem r (client.count r.content) := by rw [← hr]; rfl
  have hlen : (packOf args result).items.length = n := by
    rw [hitems, List.length_map, List.length_take, Nat.min_eq_left hn]
  have hused : (packOf args result).tokensUsed = client.tokensOf (client.search args.query) n := by
    rw [← hr]
    rfl
  refine ⟨packOf args result, congrArg (· >>= fun result => pure (packOf args result)) hloop, ?_⟩
  constructor
  · rw [hlen]
    exact hn
  · rw [hlen, hitems]
  · rw [hlen, hused]
  · rw [hused]
    exact hwithin
  · intro m hm hle
    rw [hlen] at hm
    have hlong := hlongest m hm hle
    rwa [zero_add] at hlong
  · rw [hlen, ← hr]
    exact decide_eq_true_iff
  · rfl
  · rfl
  · exact ⟨rfl, rfl⟩

end LocalMemoryClient

theorem approxTokens_nonneg (text : PyStr) : 0 ≤ approxTokens text :=
  le_trans Int.one_nonneg (le_max_left _ _)

def noteB (id : PyStr) : MemoryRecord := newNote ⟨fun _ => 0, id⟩ [98] [98, space, 98]

def twoNotes : InMemoryStore := (InMemoryStore.empty.file (noteB [49])).file (noteB [50])

/-- Two notes of two words, and room for three tokens: the second one is left out. -/
theorem retrieve_exact_twoNotes :
    let client := LocalMemoryClient.ofStore plainEnv.toMemoryRuntime twoNotes
    let args : RetrieveArgs := { goal := [103], tokenBudget := 3 }
    ∃ pack, client.retrieveContextPack args = .ok pack ∧ client.ExactPack (client.search args.query) args pack ∧
      pack.items.length = 1 := by
  intro client args
  have hsearch : client.search args.query = [noteB [49], noteB [50]] := rfl
  have hnamed : ∀ r ∈ client.search args.query, blank r.id = false := by
    rw [hsearch]
    exact List.forall_mem_cons.mpr ⟨rfl, List.forall_mem_singleton.mpr rfl⟩
  obtain ⟨pack, hpack, hexact⟩ := LocalMemoryClient.retrieve_exact client args approxTokens_nonneg (by decide) hnamed
  refine ⟨pack, hpack, hexact, ?_⟩
  have htwo : client.tokensOf (client.search args.query) 2 = 4 := rfl
  have hone : client.tokensOf (client.search args.query) 1 = 2 := rfl
  have hle : pack.items.length ≤ 2 := hexact.within_records
  have hnotTwo : pack.items.length ≠ 2 := by
    intro h
    have hbudget := hexact.within_budget
    rw [hexact.used, h, htwo] at hbudget
    exact absurd hbudget (by decide)
  have hnotNone : pack.items.length ≠ 0 := by
    intro h
    have hlong := hexact.longest 1 (by rw [h]; exact Nat.one_pos) (by decide)
    rw [hone] at hlong
    exact absurd hlong (by decide)
  omega

end Tomtit
