import TomtitAgent.Python.StrEnum
import TomtitAgent.Python.SmallRuntime

/-!
# `state.py`: the task state machine

* `transition`   the table, with `blocked` accepted from every state but DONE;
* `runEvents`    a sequence of events from a state;
* `History`      what the events so far say about the state reached;
* `taskHistory`  a DONE task went through the whole delivery after its last implementation, and no
  sequence leaves BLOCKED.
-/

open Py

namespace Tomtit

inductive TaskState
  | draft
  | readyForImplementation
  | implementing
  | implemented
  | readyForVerification
  | verifiedPass
  | needsFix
  | readyForMerge
  | readyForHumanApproval
  | approved
  | done
  | blocked
deriving DecidableEq

inductive TaskEvent
  | contractValidated
  | implementationStarted
  | implementationReportIngested
  | verificationRequested
  | verificationPassed
  | verificationFailed
  | changegatePassed
  | changegateFailed
  | humanApproved
  | merged
  | blocked
deriving DecidableEq

instance : StrEnum TaskState where
  clsName := py "TaskState"
  members := [.draft, .readyForImplementation, .implementing, .implemented, .readyForVerification,
    .verifiedPass, .needsFix, .readyForMerge, .readyForHumanApproval, .approved, .done, .blocked]
  value
    | .draft => py "DRAFT"
    | .readyForImplementation => py "READY_FOR_IMPLEMENTATION"
    | .implementing => py "IMPLEMENTING"
    | .implemented => py "IMPLEMENTED"
    | .readyForVerification => py "READY_FOR_VERIFICATION"
    | .verifiedPass => py "VERIFIED_PASS"
    | .needsFix => py "NEEDS_FIX"
    | .readyForMerge => py "READY_FOR_MERGE"
    | .readyForHumanApproval => py "READY_FOR_HUMAN_APPROVAL"
    | .approved => py "APPROVED"
    | .done => py "DONE"
    | .blocked => py "BLOCKED"
  mem_members a := by cases a <;> simp
  value_inj a b := by cases a <;> cases b <;> simp
  value_ascii a := by cases a <;> exact ascii_lit _ (by decide)

instance : StrEnum TaskEvent where
  clsName := py "TaskEvent"
  members := [.contractValidated, .implementationStarted, .implementationReportIngested,
    .verificationRequested, .verificationPassed, .verificationFailed, .changegatePassed,
    .changegateFailed, .humanApproved, .merged, .blocked]
  value
    | .contractValidated => py "contract_validated"
    | .implementationStarted => py "implementation_started"
    | .implementationReportIngested => py "implementation_report_ingested"
    | .verificationRequested => py "verification_requested"
    | .verificationPassed => py "verification_passed"
    | .verificationFailed => py "verification_failed"
    | .changegatePassed => py "changegate_passed"
    | .changegateFailed => py "changegate_failed"
    | .humanApproved => py "human_approved"
    | .merged => py "merged"
    | .blocked => py "blocked"
  mem_members a := by cases a <;> simp
  value_inj a b := by cases a <;> cases b <;> simp
  value_ascii a := by cases a <;> exact ascii_lit _ (by decide)

def invalidTransitionError (msg : PyStr) : PyExc := ⟨["InvalidTransitionError", "ValueError"], msg⟩

/-- `_TRANSITIONS` -/
def transitionTable : List ((TaskState × TaskEvent) × TaskState) :=
  [((.draft, .contractValidated), .readyForImplementation),
   ((.readyForImplementation, .implementationStarted), .implementing),
   ((.implementing, .implementationReportIngested), .implemented),
   ((.implemented, .verificationRequested), .readyForVerification),
   ((.readyForVerification, .verificationPassed), .verifiedPass),
   ((.readyForVerification, .verificationFailed), .needsFix),
   ((.needsFix, .implementationStarted), .implementing),
   ((.verifiedPass, .changegatePassed), .readyForHumanApproval),
   ((.verifiedPass, .changegateFailed), .needsFix),
   ((.readyForHumanApproval, .humanApproved), .approved),
   ((.approved, .merged), .done),
   ((.readyForMerge, .humanApproved), .approved),
   ((.readyForMerge, .merged), .done)]

section
variable (rt : Runtime)

def transition (current : TaskState) (event : TaskEvent) : Except PyExc TaskState :=
  if event = .blocked then
    if current = .done then .error (invalidTransitionError (py "cannot block a DONE task"))
    else .ok .blocked
  else match assoc transitionTable (current, event) with
    | none => .error (invalidTransitionError (py "no transition defined for state=" ++
        reprStr rt (StrEnum.value current) ++ py " event=" ++ reprStr rt (StrEnum.value event)))
    | some next => .ok next

/-- The events in turn, from a state. -/
def runEvents : TaskState → List TaskEvent → Except PyExc TaskState
  | s, [] => .ok s
  | s, event :: events => do
    let next ← transition rt s event
    runEvents next events

theorem runEvents_append (s : TaskState) (past events : List TaskEvent) :
    runEvents rt s (past ++ events) =
      (runEvents rt s past >>= fun s' => runEvents rt s' events) := by
  induction past generalizing s with
  | nil => rfl
  | cons e past ih =>
    show (transition rt s e >>= fun next => runEvents rt next (past ++ events)) =
      ((transition rt s e >>= fun next => runEvents rt next past) >>= _)
    cases transition rt s e with
    | error err => rfl
    | ok next => exact ih next

theorem transition_cases {s s' : TaskState} {e : TaskEvent} (h : transition rt s e = .ok s') :
    (e = .blocked ∧ s' = .blocked) ∨ ((s, e), s') ∈ transitionTable := by
  unfold transition at h
  by_cases he : e = .blocked
  · rw [if_pos he] at h
    by_cases hd : s = .done
    · rw [if_pos hd] at h
      exact absurd h (by simp)
    · rw [if_neg hd] at h
      exact Or.inl ⟨he, (Except.ok.inj h).symm⟩
  · rw [if_neg he] at h
    cases ha : assoc transitionTable (s, e) with
    | none =>
      rw [ha] at h
      exact absurd h (by simp)
    | some next =>
      rw [ha] at h
      rw [← Except.ok.inj h]
      exact Or.inr (assoc_mem ha)

/-! ### the history of a state -/

def deliveryEvents : List TaskEvent :=
  [.implementationReportIngested, .verificationRequested, .verificationPassed, .changegatePassed,
   .humanApproved, .merged]

/-- The number of delivery events behind a state; `none` for a state outside the delivery. -/
def deliveryStep : TaskState → Option Nat
  | .implementing => some 0
  | .implemented => some 1
  | .readyForVerification => some 2
  | .verifiedPass => some 3
  | .readyForHumanApproval => some 4
  | .approved => some 5
  | .done => some 6
  | _ => none

/-- The events since the last implementation are the first steps of the delivery, as many as the
state has behind it.  READY_FOR_MERGE has no history. -/
def History (s : TaskState) (events : List TaskEvent) : Prop :=
  s ≠ .readyForMerge ∧ ∀ n, deliveryStep s = some n →
    ∃ before, events = before ++ .implementationStarted :: deliveryEvents.take n

/-- A row of the table starts an implementation, makes the next step of the delivery, leaves the
delivery, or starts at READY_FOR_MERGE. -/
theorem transitionTable_step {s s' : TaskState} {e : TaskEvent}
    (h : ((s, e), s') ∈ transitionTable) : s = .readyForMerge ∨
    s' ≠ .readyForMerge ∧ (deliveryStep s' = none ∨
      deliveryStep s' = some 0 ∧ e = .implementationStarted ∨
      ∃ n, deliveryStep s = some n ∧ deliveryStep s' = some (n + 1) ∧
        deliveryEvents.take (n + 1) = deliveryEvents.take n ++ [e]) := by
  have hall : ∀ row ∈ transitionTable, row.1.1 = .readyForMerge ∨
      row.2 ≠ .readyForMerge ∧ (deliveryStep row.2 = none ∨
        deliveryStep row.2 = some 0 ∧ row.1.2 = .implementationStarted ∨
        ∃ n < 6, deliveryStep row.1.1 = some n ∧ deliveryStep row.2 = some (n + 1) ∧
          deliveryEvents.take (n + 1) = deliveryEvents.take n ++ [row.1.2]) := by
    decide
  rcases hall _ h with h | ⟨h, h1 | h1 | ⟨n, _, h1⟩⟩
  · exact Or.inl h
  · exact Or.inr ⟨h, Or.inl h1⟩
  · exact Or.inr ⟨h, Or.inr (Or.inl h1)⟩
  · exact Or.inr ⟨h, Or.inr (Or.inr ⟨n, h1⟩)⟩

theorem History.step {s s' : TaskState} {e : TaskEvent} {events : List TaskEvent}
    (hs : History s events) (h : transition rt s e = .ok s') : History s' (events ++ [e]) := by
  obtain ⟨hne, hhist⟩ := hs
  rcases transition_cases rt h with ⟨_, rfl⟩ | hrow
  · refine ⟨by simp, fun n hn => ?_⟩
    exact absurd hn (by simp [deliveryStep])
  · rcases transitionTable_step hrow with hm | ⟨hne', hout | ⟨hstart, rfl⟩ | ⟨n, hn, hn', htake⟩⟩
    · exact absurd hm hne
    · refine ⟨hne', fun m hm => ?_⟩
      rw [hout] at hm
      exact absurd hm (by simp)
    · refine ⟨hne', fun m hm => ?_⟩
      rw [hstart] at hm
      obtain rfl := Option.some.inj hm
      exact ⟨events, rfl⟩
    · refine ⟨hne', fun m hm => ?_⟩
      rw [hn'] at hm
      obtain rfl := Option.some.inj hm
      obtain ⟨before, hbefore⟩ := hhist n hn
      refine ⟨before, ?_⟩
      rw [hbefore, htake, List.append_assoc, List.cons_append]

theorem History.run {s s' : TaskState} {past events : List TaskEvent} (hs : History s past)
    (h : runEvents rt s events = .ok s') : History s' (past ++ events) := by
  induction events generalizing s past with
  | nil =>
    rw [List.append_nil, ← Except.ok.inj h]
    exact hs
  | cons e events ih =>
    obtain ⟨next, hnext, hrest⟩ := bind_eq_ok.mp h
    have hgoal := ih (hs.step rt hnext) hrest
    rw [List.append_assoc] at hgoal
    exact hgoal

theorem History.draft : History .draft [] := by
  refine ⟨by simp, fun n hn => ?_⟩
  exact absurd hn (by simp [deliveryStep])

theorem transition_blocked {e : TaskEvent} {s : TaskState} (h : transition rt .blocked e = .ok s) :
    s = .blocked := by
  rcases transition_cases rt h with ⟨_, hs⟩ | hrow
  · exact hs
  · have hall : ∀ row ∈ transitionTable, row.1.1 ≠ .blocked := by decide
    exact absurd rfl (hall _ hrow)

theorem runEvents_blocked {events : List TaskEvent} {s : TaskState}
    (h : runEvents rt .blocked events = .ok s) : s = .blocked := by
  induction events with
  | nil => exact (Except.ok.inj h).symm
  | cons e events ih =>
    obtain ⟨next, hnext, hrest⟩ := bind_eq_ok.mp h
    rw [transition_blocked rt hnext] at hrest
    exact ih hrest

/-- **The history of a finished task.**  In every accepted sequence from DRAFT to DONE the last
implementation is followed by exactly the delivery events, in order; and what is BLOCKED stays
BLOCKED. -/
theorem taskHistory :
    (∀ events, runEvents rt .draft events = .ok .done →
      ∃ before, events = before ++ .implementationStarted :: deliveryEvents) ∧
    ∀ past events s, runEvents rt .draft past = .ok .blocked →
      runEvents rt .draft (past ++ events) = .ok s → s = .blocked := by
  constructor
  · intro events h
    exact (History.draft.run rt h).2 6 rfl
  · intro past events s hpast h
    rw [runEvents_append, hpast] at h
    exact runEvents_blocked rt h

end

theorem taskHistory_happyPath :
    ∃ before, [.contractValidated, .implementationStarted, .implementationReportIngested,
        .verificationRequested, .verificationFailed, .implementationStarted,
        .implementationReportIngested, .verificationRequested, .verificationPassed,
        .changegatePassed, .humanApproved, .merged] =
      before ++ TaskEvent.implementationStarted :: deliveryEvents :=
  (taskHistory (small 4300)).1 _ rfl

end Tomtit
