import TomtitAgent.Planning.IntentPlanner
import TomtitAgent.State.AgentState

/-!
# The pending note of a session

`conversation/pending_state.py`, and `_try_handle_pending`, `_resume_write_note` and
`_maybe_capture_pending` of `runtime/session_runtime.py`.

* `maybeCapturePending`   what a turn leaves pending when a note has content and no name;
* `tryHandlePending`      the seven rules on a following message, in their order;
* `handle_cases`          what one message can do: an acknowledgement keeps the note pending, anything
                          else ends it;
* `PendingSettles`        one write at most and none after a cancel, an end after a bounded number of
                          messages, and no question whose answer is not taken;
* `pending_settles`       all of it, as long as no acknowledgement comes in the last turn or is lost.
-/

open Py

namespace Tomtit

structure PendingConversationState where
  intent : PyStr
  originalGoal : PyStr
  missingSlots : List PyStr
  collectedSlots : Dict PyStr PyStr
  promptText : PyStr := []
  sourceRoute : PyStr := []
  sessionId : PyStr
  createdAtTurn : Nat
  expiresAfterTurns : Nat := 2

namespace PendingConversationState

/-- `collected_slots.get("content", "")` -/
def content (p : PendingConversationState) : PyStr := (p.collectedSlots.get? (py "content")).getD []

/-- `prompt_text or "…"` -/
def prompt (p : PendingConversationState) : PyStr :=
  if p.promptText = [] then py "Bạn muốn dùng tên ghi chú là gì?" else p.promptText

end PendingConversationState

/-- What the rules read beside the message: the router and the profile queries are any functions of it. -/
structure PendingEnv where
  tb : ReTables
  /-- `_conversation_router.route(state).route in _CONV_DIRECT_ROUTES` -/
  directRoute : PyStr → Bool
  /-- `detect_profile_query(text) is not None` -/
  profileQuery : PyStr → Bool

/-- A message that follows, with the exceptions that saving the session and writing the note raise, if any. -/
structure FollowingMessage where
  text : PyStr
  saveFault : Option PyExc := none
  writeFault : Option PyExc := none

/-- The part of a session that the rules change: `notes` are the notes written for a pending one. -/
structure PendingSession where
  pending : Option PendingConversationState
  turns : Nat
  notes : List (PyStr × PyStr) := []

inductive PendingReply where
  | completed (history errors : List PyStr) (answer : PyStr)
  | fallThrough
  | raised (e : PyExc)

/-! ### capture -/

/-- `_maybe_capture_pending` -/
def maybeCapturePending {μ : Type} (tb : ReTables) (sessionId userMessage : PyStr) (s : AgentState μ)
    (turns : Nat) : Option PendingConversationState :=
  let parsed := SlotValidator.validate (IntentParser.parse tb userMessage)
  if s.status ≠ .completed then none
  else if s.plan.map (·.action) ≠ [.finish] then none
  else if parsed.intent ≠ .writeNote then none
  else if py "note_name" ∉ parsed.missingSlots then none
  else match parsed.content with
    | none => none
    | some [] => none
    | some content => some {
        intent := parsed.intent.value
        originalGoal := userMessage
        missingSlots := [py "note_name"]
        collectedSlots := Dict.ofItems [(py "content", content)]
        promptText := s.finalAnswer.getD []
        sourceRoute := py "RUNTIME_FALLBACK"
        sessionId := sessionId
        createdAtTurn := turns }

/-! ### the rules -/

def pendingCancel : Re := Re.compile (py r"^(?:hủy|bỏ\s+qua|không|thôi|cancel)\s*[.!?]*\s*$")

def pendingAmbiguousAck : Re := Re.compile (py r"^(?:ok|okay|có|ừ|ừm|vâng|được)\s*[.!?]*\s*$")

def clearPendingOnCompleteIntent : List IntentName := [.calculate, .calculateThenSaveNote, .readNote,
  .readNoteThenSummarize, .writeNote, .webSearch, .webSearchThenSaveNote, .projectContextQuery]

namespace PendingEnv
variable (env : PendingEnv)

def cancels (text : PyStr) : Bool := (pendingCancel.matchStart (IntentParser.anyCase env.tb) text).isSome

def acknowledges (text : PyStr) : Bool :=
  (pendingAmbiguousAck.matchStart (IntentParser.anyCase env.tb) text).isSome

def completeCommand (text : PyStr) : Bool :=
  let parsed := SlotValidator.validate (IntentParser.parse env.tb text)
  decide (parsed.intent ∈ clearPendingOnCompleteIntent) && parsed.missingSlots.isEmpty

end PendingEnv

/-- `_record_terminal_state`: the turn counts once the session is saved. -/
def recordTerminalState (m : FollowingMessage) (reply : PendingReply) (s : PendingSession) :
    PendingReply × PendingSession :=
  match m.saveFault with
  | some e => (.raised e, s)
  | none => (reply, { s with turns := s.turns + 1 })

def PendingSession.clear (s : PendingSession) : PendingSession := { s with pending := none }

/-- `type(exc).__name__` -/
def PyExc.typeName (e : PyExc) : PyStr := py (e.mro.headD "")

def stateFinalized : PyStr := py "conv:state_finalized"

/-- `write_note`: the name under which the note is written, or what it or the store raises. -/
def writeNoteOf (name : PyStr) (writeFault : Option PyExc) : Except PyExc PyStr :=
  if strip name = [] then .error (valueError (py "note name cannot be empty"))
  else match writeFault with
    | none => .ok (strip name)
    | some e => .error e

def resumeWriteNote (pending : PendingConversationState) (noteName : PyStr) (m : FollowingMessage)
    (s : PendingSession) : PendingReply × PendingSession :=
  let history := [py "conv:pending_note_name_resolved", stateFinalized]
  match writeNoteOf noteName m.writeFault with
  | .ok name =>
    recordTerminalState m
      (.completed history []
        (py "Đã lưu ghi chú \"" ++ noteName ++ py "\": " ++ pending.content ++ py "."))
      { s.clear with notes := s.notes ++ [(name, pending.content)] }
  | .error e =>
    recordTerminalState m
      (.completed history [py "pending_write_note:" ++ PyExc.typeName e]
        (py "Không thể lưu ghi chú \"" ++ noteName ++ py "\". Vui lòng thử lại."))
      s.clear

def repromptHistory : List PyStr := [py "conv:pending_note_reprompt", stateFinalized]

section
variable (env : PendingEnv)

def tryHandlePending (pending : PendingConversationState) (m : FollowingMessage) (s : PendingSession) :
    PendingReply × PendingSession :=
  let text := strip m.text
  if env.cancels text then
    recordTerminalState m
      (.completed [py "conv:pending_note_cancelled", stateFinalized] []
        (py "Đã hủy yêu cầu ghi chú. Tôi chưa lưu gì cả.")) s.clear
  else if env.acknowledges text then
    recordTerminalState m (.completed repromptHistory [] pending.prompt) s
  else if env.directRoute m.text then (.fallThrough, s.clear)
  else if env.completeCommand text then (.fallThrough, s.clear)
  else if env.profileQuery text then (.fallThrough, s.clear)
  else if (s.turns : Int) - pending.createdAtTurn ≥ pending.expiresAfterTurns then (.fallThrough, s.clear)
  else resumeWriteNote pending text m s

/-- A message that comes while a note is pending; the others are not handled here. -/
def PendingSession.handle (s : PendingSession) (m : FollowingMessage) : PendingReply × PendingSession :=
  match s.pending with
  | none => (.fallThrough, s)
  | some pending => tryHandlePending env pending m s

def runPending (s : PendingSession) (ms : List FollowingMessage) : PendingSession :=
  ms.foldl (fun s m => (s.handle env m).2) s

/-! ### what is asked of it -/

/-- The message is an acknowledgement: it does not cancel, and it names nothing. -/
def PendingEnv.Acknowledges (m : FollowingMessage) : Prop :=
  env.cancels (strip m.text) = false ∧ env.acknowledges (strip m.text) = true

/-- A text that is not blank and that none of the first five rules takes: it can only be the name of the note. -/
structure PlainName (name : PyStr) : Prop where
  named : strip name ≠ []
  cancel : env.cancels (strip name) = false
  ack : env.acknowledges (strip name) = false
  direct : env.directRoute name = false
  command : env.completeCommand (strip name) = false
  query : env.profileQuery (strip name) = false

/-- A plain name that comes now is taken as the name of the note. -/
def TakesName (p : PendingConversationState) (s : PendingSession) : Prop :=
  ∀ name, PlainName env name →
    (s.handle env { text := name }).2.notes = s.notes ++ [(strip name, p.content)]

/-- What a pending note must do on any sequence of messages. -/
structure PendingSettles (p : PendingConversationState) (s : PendingSession) (ms : List FollowingMessage) : Prop where
  once : (runPending env s ms).notes = s.notes ∨
    ∃ name, (runPending env s ms).notes = s.notes ++ [(name, p.content)]
  cancelled : ∀ before m after, ms = before ++ m :: after → (runPending env s before).pending ≠ none →
    env.cancels (strip m.text) = true → (runPending env s ms).notes = s.notes
  expires : p.expiresAfterTurns + 1 ≤ ms.length → (runPending env s ms).pending = none
  honest : ∀ before m after, ms = before ++ m :: after →
    (∃ errors answer, ((runPending env s before).handle env m).1 = .completed repromptHistory errors answer) →
    TakesName env p (runPending env s (before ++ [m]))

/-- Every acknowledgement is recorded, and leaves a turn in which the name is still taken. -/
def AcknowledgedInTime (p : PendingConversationState) (s : PendingSession) (ms : List FollowingMessage) : Prop :=
  ∀ before m after, ms = before ++ m :: after → (runPending env s before).pending ≠ none →
    env.Acknowledges m →
    m.saveFault = none ∧ (runPending env s before).turns + 1 < p.createdAtTurn + p.expiresAfterTurns

/-! ### one message -/

variable {env} {s : PendingSession} {p : PendingConversationState} {m : FollowingMessage}

theorem handle_none (h : s.pending = none) (m : FollowingMessage) : s.handle env m = (.fallThrough, s) := by
  unfold PendingSession.handle
  rw [h]

theorem recordTerminalState_kept (m : FollowingMessage) (reply : PendingReply) (s : PendingSession) :
    (recordTerminalState m reply s).2.pending = s.pending ∧ (recordTerminalState m reply s).2.notes = s.notes ∧
      ∀ history errors answer, (recordTerminalState m reply s).1 = .completed history errors answer →
        reply = .completed history errors answer := by
  unfold recordTerminalState
  cases m.saveFault with
  | some e => exact ⟨rfl, rfl, fun _ _ _ h => absurd h (by simp)⟩
  | none => exact ⟨rfl, rfl, fun _ _ _ h => h⟩

/-- A message ends the pending note and writes it or not, without asking again. -/
structure EndsPending (p : PendingConversationState) (s : PendingSession) (m : FollowingMessage)
    (out : PendingReply × PendingSession) : Prop where
  pending : out.2.pending = none
  notes : out.2.notes = s.notes ∨ out.2.notes = s.notes ++ [(strip m.text, p.content)]
  reply : ∀ errors answer, out.1 ≠ .completed repromptHistory errors answer

theorem repromptHistory_ne {marker : String} (h : marker ≠ "conv:pending_note_reprompt") (errors errors' : List PyStr)
    (answer answer' : PyStr) :
    PendingReply.completed [py marker, stateFinalized] errors answer ≠ .completed repromptHistory errors' answer' := by
  intro heq
  obtain ⟨hhistory, -, -⟩ := PendingReply.completed.inj heq
  exact h (py_inj.mp (List.cons.inj hhistory).1)

theorem resumeWriteNote_ends (p : PendingConversationState) (m : FollowingMessage) (s : PendingSession) :
    EndsPending p s m (resumeWriteNote p (strip m.text) m s) := by
  unfold resumeWriteNote
  dsimp only
  cases hwritten : writeNoteOf (strip m.text) m.writeFault with
  | ok name =>
    obtain rfl : strip m.text = name := by
      unfold writeNoteOf at hwritten
      rw [strip_strip] at hwritten
      split_ifs at hwritten
      split at hwritten
      · exact Except.ok.inj hwritten
      · exact nomatch hwritten
    obtain ⟨hpending, hnotes, hreply⟩ := recordTerminalState_kept m
      (.completed [py "conv:pending_note_name_resolved", stateFinalized] []
        (py "Đã lưu ghi chú \"" ++ strip m.text ++ py "\": " ++ p.content ++ py "."))
      { s.clear with notes := s.notes ++ [(strip m.text, p.content)] }
    exact ⟨hpending, .inr hnotes, fun _ _ h => repromptHistory_ne (by decide) _ _ _ _ (hreply _ _ _ h)⟩
  | error e =>
    obtain ⟨hpending, hnotes, hreply⟩ := recordTerminalState_kept m
      (.completed [py "conv:pending_note_name_resolved", stateFinalized]
        [py "pending_write_note:" ++ PyExc.typeName e]
        (py "Không thể lưu ghi chú \"" ++ strip m.text ++ py "\". Vui lòng thử lại."))
      s.clear
    exact ⟨hpending, .inl hnotes, fun _ _ h => repromptHistory_ne (by decide) _ _ _ _ (hreply _ _ _ h)⟩

theorem clear_ends (p : PendingConversationState) (m : FollowingMessage) (s : PendingSession) :
    EndsPending p s m (.fallThrough, s.clear) := ⟨rfl, .inl rfl, fun _ _ h => absurd h (by simp)⟩

/-- What a message does while a note is pending: an acknowledgement keeps it, anything else ends it,
and a cancel ends it without a write. -/
theorem handle_cases (hp : s.pending = some p) (m : FollowingMessage) :
    (env.Acknowledges m ∧
      s.handle env m = recordTerminalState m (.completed repromptHistory [] p.prompt) s) ∨
    (¬ env.Acknowledges m ∧ EndsPending p s m (s.handle env m) ∧
      (env.cancels (strip m.text) = true → (s.handle env m).2.notes = s.notes)) := by
  have hrun : s.handle env m = tryHandlePending env p m s := by
    unfold PendingSession.handle
    rw [hp]
  rw [hrun]
  unfold tryHandlePending
  dsimp only
  by_cases hcancel : env.cancels (strip m.text) = true
  · rw [if_pos hcancel]
    obtain ⟨hpending, hnotes, hreply⟩ := recordTerminalState_kept m
      (.completed [py "conv:pending_note_cancelled", stateFinalized] []
        (py "Đã hủy yêu cầu ghi chú. Tôi chưa lưu gì cả.")) s.clear
    refine .inr ⟨fun h => ?_, ⟨hpending, .inl hnotes, fun _ _ h => ?_⟩, fun _ => hnotes⟩
    · exact absurd (hcancel.symm.trans h.1) (by simp)
    · exact repromptHistory_ne (by decide) _ _ _ _ (hreply _ _ _ h)
  rw [if_neg hcancel]
  have hno : env.cancels (strip m.text) = true →
      ∀ out : PendingReply × PendingSession, out.2.notes = s.notes := fun h => absurd h hcancel
  by_cases hack : env.acknowledges (strip m.text) = true
  · rw [if_pos hack]
    exact .inl ⟨⟨eq_false_of_ne_true hcancel, hack⟩, rfl⟩
  rw [if_neg hack]
  refine .inr ⟨fun h => hack h.2, ?_, fun h => hno h _⟩
  split_ifs
  · exact clear_ends p m s
  · exact clear_ends p m s
  · exact clear_ends p m s
  · exact clear_ends p m s
  · exact resumeWriteNote_ends p m s

theorem takesName_of_inTime (hp : s.pending = some p) (hturns : s.turns < p.createdAtTurn + p.expiresAfterTurns) :
    TakesName env p s := by
  intro name hname
  unfold PendingSession.handle
  rw [hp]
  dsimp only
  have hintime : ¬ (s.turns : Int) - p.createdAtTurn ≥ p.expiresAfterTurns := by omega
  unfold tryHandlePending
  dsimp only
  rw [hname.cancel, hname.ack, hname.direct, hname.command, hname.query, if_neg Bool.false_ne_true,
    if_neg Bool.false_ne_true, if_neg Bool.false_ne_true, if_neg Bool.false_ne_true, if_neg Bool.false_ne_true,
    if_neg hintime]
  unfold resumeWriteNote writeNoteOf
  dsimp only
  rw [strip_strip, if_neg hname.named]
  rfl

/-! ### a run -/

theorem runPending_append (s : PendingSession) (before after : List FollowingMessage) :
    runPending env s (before ++ after) = runPending env (runPending env s before) after := List.foldl_append

theorem runPending_concat (s : PendingSession) (before : List FollowingMessage) (m : FollowingMessage) :
    runPending env s (before ++ [m]) = ((runPending env s before).handle env m).2 := runPending_append s before [m]

theorem runPending_none (h : s.pending = none) (ms : List FollowingMessage) : runPending env s ms = s := by
  induction ms with
  | nil => rfl
  | cons m ms ih =>
    show runPending env (s.handle env m).2 ms = s
    rw [handle_none h]
    exact ih

/-- The note is pending after acknowledgements only, or it has ended. -/
inductive RunEnd (p : PendingConversationState) (s : PendingSession) (ms : List FollowingMessage) (s' : PendingSession) :
    Prop where
  | waits (hpending : s'.pending = some p) (hnotes : s'.notes = s.notes) (hturns : s'.turns = s.turns + ms.length)
      (htime : ms ≠ [] → s'.turns < p.createdAtTurn + p.expiresAfterTurns)
  | ended (hpending : s'.pending = none)
      (hnotes : s'.notes = s.notes ∨ ∃ name, s'.notes = s.notes ++ [(name, p.content)])

theorem AcknowledgedInTime.init {before after : List FollowingMessage}
    (h : AcknowledgedInTime env p s (before ++ after)) : AcknowledgedInTime env p s before := by
  intro b m a hsplit
  refine h b m (a ++ after) ?_
  rw [hsplit, List.append_assoc, List.cons_append]

theorem runPending_end (hp : s.pending = some p) {ms : List FollowingMessage}
    (htime : AcknowledgedInTime env p s ms) : RunEnd p s ms (runPending env s ms) := by
  induction ms using List.reverseRecOn with
  | nil => exact .waits hp rfl rfl fun h => absurd rfl h
  | append_singleton ms m ih =>
    rw [runPending_concat]
    cases ih htime.init with
    | ended hpending hnotes =>
      rw [handle_none hpending]
      exact .ended hpending hnotes
    | waits hpending hnotes hturns hbefore =>
      rcases @handle_cases env _ _ hpending m with ⟨hack, hrun⟩ | ⟨-, hends, -⟩
      · obtain ⟨hsaved, hleft⟩ := htime ms m [] rfl (by rw [hpending]; exact Option.some_ne_none p) hack
        rw [hrun]
        unfold recordTerminalState
        rw [hsaved]
        refine .waits hpending hnotes ?_ fun _ => hleft
        show (runPending env s ms).turns + 1 = _
        rw [hturns, List.length_append, List.length_singleton, Nat.add_assoc]
      · refine .ended hends.pending ?_
        rcases hends.notes with h | h
        · exact .inl (h.trans hnotes)
        · exact .inr ⟨strip m.text, by rw [h, hnotes]⟩

/-- From a captured note, every run whose acknowledgements come in time settles. -/
theorem pending_settles (env : PendingEnv) (p : PendingConversationState) (s : PendingSession)
    (hp : s.pending = some p) (hcreated : p.createdAtTurn = s.turns) (ms : List FollowingMessage)
    (htime : AcknowledgedInTime env p s ms) : PendingSettles env p s ms := by
  have hend := runPending_end hp htime
  constructor
  · cases hend with
    | waits _ hnotes => exact .inl hnotes
    | ended _ hnotes => exact hnotes
  · intro before m after hms hactive hcancel
    rw [hms] at htime
    cases runPending_end hp htime.init with
    | ended hpending => exact absurd hpending hactive
    | waits hpending hnotes =>
      rcases @handle_cases env _ _ hpending m with ⟨hack, -⟩ | ⟨-, hends, hquiet⟩
      · exact absurd (hcancel.symm.trans hack.1) (by simp)
      · have hrest : runPending env s ms = ((runPending env s before).handle env m).2 := by
          rw [hms, runPending_append]
          exact runPending_none hends.pending after
        rw [hrest, hquiet hcancel, hnotes]
  · intro hlong
    cases hend with
    | ended hpending => exact hpending
    | waits _ _ hturns hleft =>
      have hne : ms ≠ [] := fun h => by
        rw [h] at hlong
        exact absurd hlong (Nat.not_succ_le_zero _)
      have := hleft hne
      omega
  · intro before m after hms ⟨errors, answer, hasked⟩
    rw [hms] at htime
    have htime' : AcknowledgedInTime env p s (before ++ [m]) := by
      have hsplit : before ++ m :: after = (before ++ [m]) ++ after := by rw [List.append_assoc]; rfl
      rw [hsplit] at htime
      exact htime.init
    cases runPending_end hp htime.init with
    | ended hpending =>
      rw [handle_none hpending] at hasked
      exact absurd hasked (by simp)
    | waits hpending =>
      rcases @handle_cases env _ _ hpending m with ⟨hack, hrun⟩ | ⟨-, hends, -⟩
      · -- the question was asked: the note is still pending, and in time
        have hkept := (recordTerminalState_kept m (.completed repromptHistory [] p.prompt)
          (runPending env s before)).1
        cases runPending_end hp htime' with
        | ended hpending' =>
          rw [runPending_concat, hrun, hkept, hpending] at hpending'
          exact absurd hpending' (Option.some_ne_none p)
        | waits hpending' _ _ hleft =>
          exact takesName_of_inTime hpending' (hleft (List.append_ne_nil_of_right_ne_nil before (List.cons_ne_nil m [])))
      · exact absurd hasked (hends.reply errors answer)

end

/-! ### acknowledgements -/

def quietEnv : PendingEnv := ⟨IntentParser.plainTables, fun _ => false, fun _ => false⟩

/-- A note with the content `c`, captured before the first turn. -/
def capturedNote : PendingConversationState where
  intent := py "write_note"
  originalGoal := [103]
  missingSlots := [py "note_name"]
  collectedSlots := Dict.ofItems [(py "content", [99])]
  sessionId := [115]
  createdAtTurn := 0

def capturedSession : PendingSession := { pending := some capturedNote, turns := 0 }

/-- `ok` -/
def okMessage : FollowingMessage := { text := [111, 107] }

theorem okMessage_acknowledges : quietEnv.Acknowledges okMessage := by
  have h : quietEnv.cancels (strip okMessage.text) = false ∧ quietEnv.acknowledges (strip okMessage.text) = true := by
    unfold PendingEnv.cancels PendingEnv.acknowledges pendingCancel pendingAmbiguousAck
    repeat rw [py_ofList]
    decide
  exact h

theorem okMessage_inTime : AcknowledgedInTime quietEnv capturedNote capturedSession [okMessage] := by
  intro before m after hsplit _ _
  cases before with
  | nil =>
    have hm : okMessage = m := (List.cons.inj hsplit).1
    rw [← hm]
    exact ⟨rfl, Nat.lt_succ_self 1⟩
  | cons b before =>
    have htail := (List.cons.inj hsplit).2
    exact absurd htail.symm (List.append_ne_nil_of_right_ne_nil before (List.cons_ne_nil m after))

/-- One acknowledgement. -/
theorem pending_settles_ok : PendingSettles quietEnv capturedNote capturedSession [okMessage] :=
  pending_settles quietEnv capturedNote capturedSession rfl rfl [okMessage] okMessage_inTime

/-- After three acknowledgements the note is still pending. -/
theorem not_pending_settles : ¬ PendingSettles quietEnv capturedNote capturedSession
    [okMessage, okMessage, okMessage] := by
  intro h
  have hstep : ∀ s : PendingSession, s.pending = some capturedNote →
      (s.handle quietEnv okMessage).2.pending = some capturedNote := by
    intro s hs
    rcases @handle_cases quietEnv _ _ hs okMessage with ⟨-, hrun⟩ | ⟨hnot, -⟩
    · rw [hrun]
      exact hs
    · exact absurd okMessage_acknowledges hnot
  have h1 := hstep capturedSession rfl
  have h2 := hstep _ h1
  have h3 := hstep _ h2
  have hnone := h.expires (Nat.le_refl 3)
  have hrun : (runPending quietEnv capturedSession [okMessage, okMessage, okMessage]).pending = some capturedNote := by
    unfold runPending
    rw [List.foldl_cons, List.foldl_cons, List.foldl_cons, List.foldl_nil]
    exact h3
  exact absurd (hnone.symm.trans hrun) (by simp)

end Tomtit
