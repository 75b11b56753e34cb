import TomtitAgent.BuildHarness.State

/-!
# The runs of a task

The event sequences that the state machine accepts, stated without its table: a task starts with its
contract, goes through any number of rounds that are sent back, and ends with one delivery; it may be
blocked on the way.

* `FixRound`, `sentBack`, `upTo`   the rounds, and the events up to a step of the delivery;
* `Trail`                        the sequences that lead from DRAFT to a state;
* `taskRuns`                        they are the accepted ones, and every state but BLOCKED leads to DONE.
-/

open Py

namespace Tomtit

/-- A round that is sent back, by the verifier or by the gate. -/
inductive FixRound
  | byVerifier
  | byGate

def FixRound.events : FixRound → List TaskEvent
  | .byVerifier => .implementationStarted :: deliveryEvents.take 2 ++ [.verificationFailed]
  | .byGate => .implementationStarted :: deliveryEvents.take 3 ++ [.changegateFailed]

/-- The contract, and the rounds that were sent back. -/
def sentBack (rounds : List FixRound) : List TaskEvent := .contractValidated :: rounds.flatMap FixRound.events

/-- The rounds that were sent back, and the first `n` steps of the delivery. -/
def upTo (rounds : List FixRound) (n : Nat) : List TaskEvent :=
  sentBack rounds ++ .implementationStarted :: deliveryEvents.take n

/-- The sequences that lead from DRAFT to a state. -/
inductive Trail : TaskState → List TaskEvent → Prop
  | draft : Trail .draft []
  | contract : Trail .readyForImplementation (sentBack [])
  | fix (rounds : List FixRound) (h : rounds ≠ []) : Trail .needsFix (sentBack rounds)
  | delivery (s : TaskState) (n : Nat) (rounds : List FixRound) (h : deliveryStep s = some n) :
      Trail s (upTo rounds n)
  | blocked (s : TaskState) (past : List TaskEvent) (times : Nat) (h : Trail s past) (hs : s ≠ .done) :
      Trail .blocked (past ++ List.replicate (times + 1) .blocked)

def remaining : TaskState → List TaskEvent
  | .draft => upTo [] 6
  | .readyForImplementation => .implementationStarted :: deliveryEvents
  | .needsFix => .implementationStarted :: deliveryEvents
  | .readyForMerge => [.merged]
  | .blocked => []
  | s => deliveryEvents.drop ((deliveryStep s).getD 6)

structure TaskRuns (rt : Runtime) : Prop where
  accepts : ∀ events s, runEvents rt .draft events = .ok s ↔ Trail s events
  finishes : ∀ s, s ≠ .blocked → runEvents rt s (remaining s) = .ok .done

/-! ### from the machine to the sequences -/

section
variable {s s' : TaskState} {e : TaskEvent} {events : List TaskEvent}

theorem Trail.ne_readyForMerge (h : Trail s events) : s ≠ .readyForMerge := by
  rintro rfl
  cases h with
  | delivery _ _ _ h => exact absurd h (by simp [deliveryStep])

theorem Trail.upTo {n : Nat} (h : Trail s events) (hn : deliveryStep s = some n) :
    ∃ rounds, events = upTo rounds n := by
  cases h with
  | delivery _ m rounds hm =>
    rw [hm] at hn
    exact ⟨rounds, by rw [Option.some.inj hn]⟩
  | _ => exact absurd hn (by simp [deliveryStep])

/-- Before an implementation there are the contract and the rounds that were sent back. -/
theorem Trail.sentBack (h : Trail s events) (hs : s = .readyForImplementation ∨ s = .needsFix) :
    ∃ rounds, events = sentBack rounds := by
  cases h with
  | contract => exact ⟨[], rfl⟩
  | fix rounds _ => exact ⟨rounds, rfl⟩
  | delivery _ n _ hn =>
    rcases hs with rfl | rfl
    · exact absurd hn (by simp [deliveryStep])
    · exact absurd hn (by simp [deliveryStep])
  | _ => exact absurd hs (by simp)

theorem sentBack_append (rounds : List FixRound) (r : FixRound) :
    sentBack (rounds ++ [r]) = sentBack rounds ++ r.events := by
  unfold sentBack
  rw [List.flatMap_append, List.flatMap_singleton, List.cons_append]

theorem trail_succ (rounds : List FixRound) {n : Nat}
    (h : deliveryEvents.take (n + 1) = deliveryEvents.take n ++ [e]) :
    upTo rounds (n + 1) = upTo rounds n ++ [e] := by
  unfold upTo
  rw [h, List.append_assoc, List.cons_append]

theorem transitionTable_kinds (h : ((s, e), s') ∈ transitionTable) :
    s = .readyForMerge ∨ (s = .draft ∧ e = .contractValidated ∧ s' = .readyForImplementation) ∨
      ((s = .readyForImplementation ∨ s = .needsFix) ∧ e = .implementationStarted ∧ s' = .implementing) ∨
      (s' = .needsFix ∧ ∃ r : FixRound, ∃ n, deliveryStep s = some n ∧
        r.events = .implementationStarted :: deliveryEvents.take n ++ [e]) ∨
      ∃ n, deliveryStep s = some n ∧ deliveryStep s' = some (n + 1) ∧
        deliveryEvents.take (n + 1) = deliveryEvents.take n ++ [e] := by
  unfold transitionTable at h
  simp only [List.mem_cons, Prod.mk.injEq, List.not_mem_nil, or_false] at h
  rcases h with ⟨⟨rfl, rfl⟩, rfl⟩ | ⟨⟨rfl, rfl⟩, rfl⟩ | ⟨⟨rfl, rfl⟩, rfl⟩ | ⟨⟨rfl, rfl⟩, rfl⟩ | ⟨⟨rfl, rfl⟩, rfl⟩ |
    ⟨⟨rfl, rfl⟩, rfl⟩ | ⟨⟨rfl, rfl⟩, rfl⟩ | ⟨⟨rfl, rfl⟩, rfl⟩ | ⟨⟨rfl, rfl⟩, rfl⟩ | ⟨⟨rfl, rfl⟩, rfl⟩ |
    ⟨⟨rfl, rfl⟩, rfl⟩ | ⟨⟨rfl, rfl⟩, rfl⟩ | ⟨⟨rfl, rfl⟩, rfl⟩
  · exact .inr (.inl ⟨rfl, rfl, rfl⟩)
  · exact .inr (.inr (.inl ⟨.inl rfl, rfl, rfl⟩))
  · exact .inr (.inr (.inr (.inr ⟨0, rfl, rfl, rfl⟩)))
  · exact .inr (.inr (.inr (.inr ⟨1, rfl, rfl, rfl⟩)))
  · exact .inr (.inr (.inr (.inr ⟨2, rfl, rfl, rfl⟩)))
  · exact .inr (.inr (.inr (.inl ⟨rfl, .byVerifier, 2, rfl, rfl⟩)))
  · exact .inr (.inr (.inl ⟨.inr rfl, rfl, rfl⟩))
  · exact .inr (.inr (.inr (.inr ⟨3, rfl, rfl, rfl⟩)))
  · exact .inr (.inr (.inr (.inl ⟨rfl, .byGate, 3, rfl, rfl⟩)))
  · exact .inr (.inr (.inr (.inr ⟨4, rfl, rfl, rfl⟩)))
  · exact .inr (.inr (.inr (.inr ⟨5, rfl, rfl, rfl⟩)))
  · exact .inl rfl
  · exact .inl rfl

theorem Trail.step {rt : Runtime} (h : Trail s events) (hstep : transition rt s e = .ok s') :
    Trail s' (events ++ [e]) := by
  rcases transition_cases rt hstep with ⟨rfl, rfl⟩ | hrow
  · have hdone : s ≠ .done := by
      rintro rfl
      exact absurd hstep (by simp [transition])
    exact .blocked s events 0 h hdone
  rcases transitionTable_kinds hrow with hmerge | ⟨rfl, rfl, rfl⟩ | ⟨hs, rfl, rfl⟩ |
    ⟨rfl, r, n, hn, hround⟩ | ⟨n, hn, hn', htake⟩
  · exact absurd hmerge h.ne_readyForMerge
  · cases h with
    | draft => exact .contract
    | delivery _ _ _ h => exact absurd h (by simp [deliveryStep])
  · obtain ⟨rounds, rfl⟩ := h.sentBack hs
    exact .delivery _ 0 rounds rfl
  · obtain ⟨rounds, rfl⟩ := h.upTo hn
    have hback : Tomtit.upTo rounds n ++ [e] = Tomtit.sentBack (rounds ++ [r]) := by
      rw [sentBack_append, hround]
      unfold Tomtit.upTo
      rw [List.append_assoc]
    rw [hback]
    refine .fix _ fun hnil => ?_
    exact absurd (List.append_eq_nil_iff.mp hnil).2 (List.cons_ne_nil _ _)
  · obtain ⟨rounds, rfl⟩ := h.upTo hn
    rw [← trail_succ rounds htake]
    exact .delivery _ _ rounds hn'

theorem Trail.run {rt : Runtime} {more : List TaskEvent} (h : Trail s events)
    (hrun : runEvents rt s more = .ok s') : Trail s' (events ++ more) := by
  induction more generalizing s events with
  | nil =>
    rw [List.append_nil, ← Except.ok.inj hrun]
    exact h
  | cons e more ih =>
    obtain ⟨next, hnext, hrest⟩ := bind_eq_ok.mp hrun
    have hgoal := ih (h.step hnext) hrest
    rw [List.append_assoc] at hgoal
    exact hgoal

end

/-! ### from the sequences to the machine -/

section
variable (rt : Runtime)

theorem run_events (r : FixRound) : runEvents rt .needsFix r.events = .ok .needsFix ∧
    runEvents rt .readyForImplementation r.events = .ok .needsFix := by
  cases r with
  | byVerifier => exact ⟨rfl, rfl⟩
  | byGate => exact ⟨rfl, rfl⟩

theorem run_rounds (rounds : List FixRound) :
    runEvents rt .needsFix (rounds.flatMap FixRound.events) = .ok .needsFix := by
  induction rounds with
  | nil => rfl
  | cons r rounds ih =>
    rw [List.flatMap_cons, runEvents_append, (run_events rt r).1]
    exact ih

theorem run_sentBack (rounds : List FixRound) :
    runEvents rt .draft (sentBack rounds) = .ok (if rounds.isEmpty then .readyForImplementation else .needsFix) := by
  show runEvents rt .readyForImplementation (rounds.flatMap FixRound.events) = _
  cases rounds with
  | nil => rfl
  | cons r rounds =>
    rw [List.flatMap_cons, runEvents_append, (run_events rt r).2]
    exact run_rounds rt rounds

theorem run_delivery {s : TaskState} {n : Nat} (h : deliveryStep s = some n) :
    runEvents rt .readyForImplementation (.implementationStarted :: deliveryEvents.take n) = .ok s ∧
      runEvents rt .needsFix (.implementationStarted :: deliveryEvents.take n) = .ok s := by
  cases s with
  | implementing | implemented | readyForVerification | verifiedPass | readyForHumanApproval | approved | done =>
    obtain rfl := Option.some.inj h
    exact ⟨rfl, rfl⟩
  | _ => exact absurd h (by simp [deliveryStep])

theorem run_trail {s : TaskState} {n : Nat} (h : deliveryStep s = some n) (rounds : List FixRound) :
    runEvents rt .draft (upTo rounds n) = .ok s := by
  unfold upTo
  rw [runEvents_append, run_sentBack]
  show runEvents rt (if rounds.isEmpty then .readyForImplementation else .needsFix) _ = _
  split_ifs
  · exact (run_delivery rt h).1
  · exact (run_delivery rt h).2

theorem run_replicate {s : TaskState} (hs : s ≠ .done) (times : Nat) :
    runEvents rt s (List.replicate (times + 1) .blocked) = .ok .blocked := by
  have hblock : ∀ s : TaskState, s ≠ .done → transition rt s .blocked = .ok .blocked := by
    intro s hs
    unfold transition
    rw [if_pos rfl, if_neg hs]
  induction times generalizing s with
  | zero =>
    show (transition rt s .blocked >>= fun next => runEvents rt next []) = _
    rw [hblock s hs]
    rfl
  | succ times ih =>
    show (transition rt s .blocked >>= fun next => runEvents rt next (List.replicate (times + 1) .blocked)) = _
    rw [hblock s hs]
    exact @ih .blocked (by simp)

theorem run_accepted {s : TaskState} {events : List TaskEvent} (h : Trail s events) :
    runEvents rt .draft events = .ok s := by
  induction h with
  | draft => rfl
  | contract => exact run_sentBack rt []
  | fix rounds hne =>
    rw [run_sentBack, if_neg]
    rw [List.isEmpty_iff]
    exact hne
  | delivery s n rounds hn => exact run_trail rt hn rounds
  | blocked s past times _ hs ih =>
    rw [runEvents_append, ih]
    exact run_replicate rt hs times

/-- **The accepted runs of a task**, of any length, and no state but BLOCKED is a dead end. -/
theorem taskRuns : TaskRuns rt where
  accepts events s := ⟨fun h => Trail.draft.run h, fun h => run_accepted rt h⟩
  finishes s hs := by
    cases s with
    | blocked => exact absurd rfl hs
    | _ => rfl

end

end Tomtit
