import TomtitAgent.Conversation.ProfileMemory
import TomtitAgent.Planning.IntentParser
import TomtitAgent.SessionPersistence.LiveSession

/-!
# The deletion of all memory

`_handle_delete_all_pending`, `_maybe_handle_delete_all_request` and `_maybe_handle_stray_delete_confirmation`
of `runtime/session_runtime.py`, where `_handle_turn_impl` calls them.  The handlers around them are any
functions: none of them reads or writes `_pending_delete_all`, and none calls `delete_all_profile_memory`.

* `turn`              one turn: what it answers or raises, whether it deletes, and what it leaves;
* `Prompted`          the transcript ends with the prompt and the answers to memory queries;
* `DeletesConfirmed`  what is asked of a run;
* `deletesConfirmed_of_run`   it holds as long as every prompt is recorded.

The request is armed before its prompt is recorded, so a session that cannot be saved leaves a deletion
armed that the user never saw.
-/

open Py

namespace Tomtit

/-! ### the texts -/

/-- `_XOA` -/
def xoa : PyStr := py r"x[oó][áa]"

def reDeleteAllMemory : Re := Re.compile
  (py r"(?:" ++ xoa ++ py r"|quên)\s+" ++
    py r"(?:(?:hết|toàn\s+bộ|sạch)\s*(?:ký\s+ức|thông\s+tin|memory|trí\s+nhớ|mọi\s+thứ)?" ++
    py r"|(?:ký\s+ức|thông\s+tin|memory))" ++
    py r".*?(?:về|của)\s+(?:tôi|mình)" ++
    py r"|(?:" ++ xoa ++ py r"|quên)\s+(?:hết|toàn\s+bộ|sạch)\s+(?:trí\s+nhớ|ký\s+ức|memory|thông\s+tin)\b" ++
    py r"|đừng\s+nhớ\s+gì\s+(?:về\s+)?(?:tôi|mình)\s+nữa" ++
    py r"|clear\s+memory|forget\s+me")

def reDeleteConfirm : Re := Re.compile
  (py r"^(?:" ++
    py r"xác\s+nhận\s+" ++ xoa ++ py r"(?:\s+ký\s+ức)?" ++
    py r"|đồng\s+ý\s+" ++ xoa ++ py r"(?:\s+(?:đi|ký\s+ức))?" ++
    py r"|(?:ok|okay|đồng\s+ý|ừ|ừm|vâng)\s+" ++ xoa ++ py r"\s+đi" ++
    py r"|" ++ xoa ++ py r"\s+đi" ++
    py r"|yes\s+delete|confirm\s+delete" ++
    py r")\s*[.!]*\s*$")

def reDeleteConfirmPending : Re := Re.compile
  (py r"^(?:" ++
    py r"ok|okay|oke|okie" ++
    py r"|yes|y|confirm" ++
    py r"|đồng\s+ý" ++
    py r"|xác\s+nhận(?:\s+" ++ xoa ++ py r"(?:\s+ký\s+ức)?)?" ++
    py r"|" ++ xoa ++ py r"\s+(?:đi|luôn|ngay)" ++
    py r")\s*[.!]*\s*$")

def reDeleteCancel : Re := Re.compile
  (py r"^(?:không|khong|ko|hủy|huỷ|thôi|bỏ\s+qua|cancel|no)\s*[.!?]*\s*$")

section
variable (tb : ReTables)

def detectDeleteAllMemoryRequest (text : PyStr) : Bool :=
  (reDeleteAllMemory.search (IntentParser.anyCase tb) (strip text)).isSome

def detectDeleteAllConfirmation (text : PyStr) : Bool :=
  (reDeleteConfirm.matchStart (IntentParser.anyCase tb) (strip text)).isSome

def detectDeleteAllConfirmationPending (text : PyStr) : Bool :=
  (reDeleteConfirm.matchStart (IntentParser.anyCase tb) (strip text)).isSome ||
    (reDeleteConfirmPending.matchStart (IntentParser.anyCase tb) (strip text)).isSome

/-- `_RE_DELETE_CANCEL.match(text)` -/
def cancelsDeletion (text : PyStr) : Bool :=
  (reDeleteCancel.matchStart (IntentParser.anyCase tb) text).isSome

end

/-- `build_delete_all_confirmation_prompt()` -/
def deleteAllConfirmationPrompt : PyStr :=
  py "Bạn chắc muốn xoá toàn bộ thông tin mình đang nhớ về bạn không? " ++
    py "Hãy trả lời \"xác nhận xoá ký ức\" để mình xoá."

/-- `build_delete_all_done()` -/
def deleteAllDone : PyStr := py "Đã xoá toàn bộ thông tin mình nhớ về bạn."

/-- What follows the answer to a memory query while a deletion is pending. -/
def stillPendingNote : PyStr := py " (Nếu vẫn muốn xoá, hãy trả lời \"xác nhận xoá ký ức\".)"

/-! ### one turn -/

/-- What the handlers of a turn share, apart from the pending deletion. -/
structure SessionParts (ρ : Type) where
  turns : List TurnRecord
  memory : World
  confirmedProfileFactCount : Nat
  lastMemoryWriteKind : Option PyStr
  rest : ρ

structure DeletingSession (ρ : Type) where
  pendingDeleteAll : Bool
  parts : SessionParts ρ

/-- A message with what its turn reads from outside, and the exception that saving the session raises, if any. -/
structure DeletingTurn where
  text : PyStr
  taskId : PyStr
  now : Datetime
  saveFault : Option PyExc := none

inductive TurnEnding where
  | answered (text : PyStr)
  | raised (e : PyExc)

/-- A turn that ended, whether it deleted all memory, and the session after it. -/
structure TurnDone (ρ : Type) where
  ending : TurnEnding
  wiped : Bool
  session : DeletingSession ρ

/-- The other handlers: a memory query, those in front of the request and those behind it. -/
structure TurnHandlers (ρ : Type) where
  tb : ReTables
  memoryEnv : MemoryEnv
  answerSingleMemoryQuery : PyStr → World → Except PyExc (Option PyStr)
  earlier : DeletingTurn → SessionParts ρ → Option TurnEnding × SessionParts ρ
  later : DeletingTurn → SessionParts ρ → TurnEnding × SessionParts ρ

section
variable {ρ : Type}

def DeletingTurn.record (t : DeletingTurn) (answer : PyStr) : TurnRecord :=
  (AgentState.complete answer { goal := t.text, taskId := t.taskId, workspace := { memory := () } }).turnRecord t.now

/-- `_complete_conv` -/
def completeConv (t : DeletingTurn) (answer : PyStr) (s : SessionParts ρ) : TurnEnding × SessionParts ρ :=
  match t.saveFault with
  | some e => (.raised e, s)
  | none => (.answered answer, { s with turns := s.turns ++ [t.record answer] })

/-- A turn that ends with an answer, and leaves the deletion pending or not. -/
def concludes (t : DeletingTurn) (answer : PyStr) (wiped pending : Bool) (s : SessionParts ρ) : TurnDone ρ :=
  ⟨(completeConv t answer s).1, wiped, pending, (completeConv t answer s).2⟩

variable (h : TurnHandlers ρ)

/-- `delete_all_profile_memory`, and the two fields that are set with it. -/
def wipeMemory (s : SessionParts ρ) : SessionParts ρ :=
  { s with
    memory := (deleteAllProfileMemory h.memoryEnv s.memory).2
    confirmedProfileFactCount := 0
    lastMemoryWriteKind := none }

/-- `_handle_delete_all_pending`; `none` drops the request. -/
def handleDeleteAllPending (t : DeletingTurn) (s : SessionParts ρ) : Option (TurnDone ρ) :=
  let text := strip t.text
  if detectDeleteAllConfirmationPending h.tb text then
    some (concludes t deleteAllDone true false (wipeMemory h s))
  else if cancelsDeletion h.tb text then
    some (concludes t (py "Đã huỷ yêu cầu xoá ký ức. Mình vẫn giữ thông tin về bạn.") false false s)
  else match h.answerSingleMemoryQuery text s.memory with
    | .error e => some ⟨.raised e, false, true, s⟩
    | .ok (some answer) => some (concludes t (answer ++ stillPendingNote) false true s)
    | .ok none => none

def dispatch (t : DeletingTurn) (s : SessionParts ρ) : TurnDone ρ :=
  match h.earlier t s with
  | (some ending, s) => ⟨ending, false, false, s⟩
  | (none, s) =>
    if detectDeleteAllMemoryRequest h.tb (strip t.text) then
      concludes t deleteAllConfirmationPrompt false true s
    else if detectDeleteAllConfirmation h.tb (strip t.text) then
      concludes t (py "Hiện không có yêu cầu xoá ký ức nào đang chờ xác nhận.") false false s
    else ⟨(h.later t s).1, false, false, (h.later t s).2⟩

def pendingDone (t : DeletingTurn) (k : DeletingSession ρ) : Option (TurnDone ρ) :=
  if k.pendingDeleteAll then handleDeleteAllPending h t k.parts else none

/-- `_handle_turn_impl` -/
def turn (t : DeletingTurn) (k : DeletingSession ρ) : TurnDone ρ :=
  match pendingDone h t k with
  | some done => done
  | none => dispatch h t k.parts

def runTurns (k : DeletingSession ρ) (ts : List DeletingTurn) : DeletingSession ρ :=
  ts.foldl (fun k t => (turn h t k).session) k

/-! ### what is asked of a run -/

def IsPrompt (r : TurnRecord) : Prop :=
  ∃ text, r.goal = .str text ∧ detectDeleteAllMemoryRequest h.tb (strip text) = true ∧
    r.finalAnswer = .str deleteAllConfirmationPrompt

/-- The answer to a memory query while a deletion is pending. -/
def IsQueryAnswer (r : TurnRecord) : Prop :=
  ∃ text memory answer, r.goal = .str text ∧
    h.answerSingleMemoryQuery (strip text) memory = .ok (some answer) ∧
    r.finalAnswer = .str (answer ++ stillPendingNote)

/-- The prompt was shown, and since then only memory queries were answered. -/
def Prompted (turns : List TurnRecord) : Prop :=
  ∃ before prompt answers, turns = before ++ prompt :: answers ∧ IsPrompt h prompt ∧
    ∀ r ∈ answers, IsQueryAnswer h r

/-- What one turn must be: a deletion is confirmed and was asked for, a turn that keeps a request pending is
a request or a memory query, and a turn that raises arms nothing: a deletion that it leaves pending was pending
before, and its message is a memory query. -/
structure TurnConfirmed (t : DeletingTurn) (k : DeletingSession ρ) : Prop where
  wipes : (turn h t k).wiped = true → detectDeleteAllConfirmationPending h.tb (strip t.text) = true ∧
    k.pendingDeleteAll = true ∧ Prompted h k.parts.turns
  drops : cancelsDeletion h.tb (strip t.text) = true → k.pendingDeleteAll = true →
    (turn h t k).session.pendingDeleteAll = false
  keeps : (turn h t k).session.pendingDeleteAll = true →
    detectDeleteAllMemoryRequest h.tb (strip t.text) = true ∨
      k.pendingDeleteAll = true ∧ h.answerSingleMemoryQuery (strip t.text) k.parts.memory ≠ .ok none
  raises : ∀ e, (turn h t k).ending = .raised e → (turn h t k).session.pendingDeleteAll = true →
    k.pendingDeleteAll = true ∧ h.answerSingleMemoryQuery (strip t.text) k.parts.memory ≠ .ok none

def DeletesConfirmed (k : DeletingSession ρ) (ts : List DeletingTurn) : Prop :=
  ∀ before t after, ts = before ++ t :: after → TurnConfirmed h t (runTurns h k before)

def Asks (t : DeletingTurn) (k : DeletingSession ρ) : Prop :=
  (pendingDone h t k).isNone = true ∧ (h.earlier t k.parts).1.isNone = true ∧
    detectDeleteAllMemoryRequest h.tb (strip t.text) = true

def PromptsRecorded (k : DeletingSession ρ) (ts : List DeletingTurn) : Prop :=
  ∀ before t after, ts = before ++ t :: after → Asks h t (runTurns h k before) → t.saveFault = none

end

/-! ### one turn keeps the transcript of a request -/

section
variable {ρ : Type} {h : TurnHandlers ρ} {t : DeletingTurn} {k : DeletingSession ρ}

variable (h) in
def Armed (k : DeletingSession ρ) : Prop := k.pendingDeleteAll = true → Prompted h k.parts.turns

theorem prompted_prompt {r : TurnRecord} (hr : IsPrompt h r) (turns : List TurnRecord) :
    Prompted h (turns ++ [r]) :=
  ⟨turns, r, [], rfl, hr, fun _ hmem => absurd hmem List.not_mem_nil⟩

theorem Prompted.answer {turns : List TurnRecord} (hp : Prompted h turns) {r : TurnRecord}
    (hr : IsQueryAnswer h r) : Prompted h (turns ++ [r]) := by
  obtain ⟨before, prompt, answers, rfl, hprompt, hanswers⟩ := hp
  refine ⟨before, prompt, answers ++ [r], by rw [List.append_assoc, List.cons_append], hprompt, ?_⟩
  intro r' hr'
  rcases List.mem_append.mp hr' with hmem | hmem
  · exact hanswers r' hmem
  · rw [List.mem_singleton.mp hmem]
    exact hr

theorem record_goal (t : DeletingTurn) (answer : PyStr) : (t.record answer).goal = .str t.text := rfl
theorem record_finalAnswer (t : DeletingTurn) (answer : PyStr) : (t.record answer).finalAnswer = .str answer := rfl

theorem completeConv_turns (t : DeletingTurn) (answer : PyStr) (s : SessionParts ρ) :
    (completeConv t answer s).2.turns = s.turns ∨
      (completeConv t answer s).2.turns = s.turns ++ [t.record answer] := by
  unfold completeConv
  cases t.saveFault with
  | some e => exact .inl rfl
  | none => exact .inr rfl

theorem completeConv_saved (hsaved : t.saveFault = none) (answer : PyStr) (s : SessionParts ρ) :
    completeConv t answer s = (.answered answer, { s with turns := s.turns ++ [t.record answer] }) := by
  unfold completeConv
  rw [hsaved]

theorem concludes_wiped (answer : PyStr) (wiped pending : Bool) (s : SessionParts ρ) :
    (concludes t answer wiped pending s).wiped = wiped := rfl

theorem concludes_lost {e : PyExc} (hlost : t.saveFault = some e) (answer : PyStr) (wiped pending : Bool)
    (s : SessionParts ρ) : (concludes t answer wiped pending s).session = ⟨pending, s⟩ := by
  unfold concludes completeConv
  rw [hlost]

structure Dispatched (h : TurnHandlers ρ) (t : DeletingTurn) (s : SessionParts ρ) (done : TurnDone ρ) :
    Prop where
  wiped : done.wiped = false
  armed : done.session.pendingDeleteAll = true → (h.earlier t s).1.isNone = true ∧
    detectDeleteAllMemoryRequest h.tb (strip t.text) = true ∧
    done = concludes t deleteAllConfirmationPrompt false true (h.earlier t s).2

theorem dispatch_spec (t : DeletingTurn) (s : SessionParts ρ) : Dispatched h t s (dispatch h t s) := by
  unfold dispatch
  rcases hearlier : h.earlier t s with ⟨ending, s'⟩
  cases ending with
  | some ending => exact ⟨rfl, fun hpend => absurd hpend Bool.false_ne_true⟩
  | none =>
    dsimp only
    split_ifs with hrequest hstray
    · refine ⟨rfl, fun _ => ⟨by rw [hearlier]; rfl, hrequest, ?_⟩⟩
      rw [hearlier]
    · exact ⟨rfl, fun hpend => absurd hpend Bool.false_ne_true⟩
    · exact ⟨rfl, fun hpend => absurd hpend Bool.false_ne_true⟩

theorem pendingDone_cancel (hcancel : cancelsDeletion h.tb (strip t.text) = true)
    (hpend : k.pendingDeleteAll = true) :
    ∃ done, pendingDone h t k = some done ∧ done.session.pendingDeleteAll = false := by
  unfold pendingDone handleDeleteAllPending
  rw [if_pos hpend]
  dsimp only
  by_cases hconfirm : detectDeleteAllConfirmationPending h.tb (strip t.text) = true
  · rw [if_pos hconfirm]
    exact ⟨_, rfl, rfl⟩
  · rw [if_neg hconfirm, if_pos hcancel]
    exact ⟨_, rfl, rfl⟩

theorem turn_asks {s : SessionParts ρ} (hk : k.pendingDeleteAll = false) (hearlier : h.earlier t k.parts = (none, s))
    (hrequest : detectDeleteAllMemoryRequest h.tb (strip t.text) = true) :
    turn h t k = concludes t deleteAllConfirmationPrompt false true s := by
  unfold turn pendingDone
  rw [hk, if_neg Bool.false_ne_true]
  dsimp only
  unfold dispatch
  rw [hearlier]
  dsimp only
  rw [if_pos hrequest]

theorem turn_confirms (hk : k.pendingDeleteAll = true)
    (hconfirm : detectDeleteAllConfirmationPending h.tb (strip t.text) = true) :
    turn h t k = concludes t deleteAllDone true false (wipeMemory h k.parts) := by
  have hdone : pendingDone h t k = some (concludes t deleteAllDone true false (wipeMemory h k.parts)) := by
    unfold pendingDone handleDeleteAllPending
    rw [if_pos hk]
    exact if_pos hconfirm
  unfold turn
  rw [hdone]

theorem turn_dispatch (hnone : pendingDone h t k = none) (hrec : Asks h t k → t.saveFault = none) :
    TurnConfirmed h t k ∧ Armed h (turn h t k).session := by
  have hturn : turn h t k = dispatch h t k.parts := by
    unfold turn
    rw [hnone]
  obtain ⟨hwiped, harmed⟩ := @dispatch_spec ρ h t k.parts
  rw [← hturn] at hwiped harmed
  have hsaved : (turn h t k).session.pendingDeleteAll = true → t.saveFault = none := by
    intro hpend
    obtain ⟨hearlier, hrequest, -⟩ := harmed hpend
    exact hrec ⟨by rw [hnone]; rfl, hearlier, hrequest⟩
  refine ⟨⟨fun hw => ?_, fun hcancel hpend => ?_, fun hpend => ?_, fun e he hpend => ?_⟩, fun hpend => ?_⟩
  · rw [hwiped] at hw
    exact absurd hw Bool.false_ne_true
  · obtain ⟨done, hdone, -⟩ := pendingDone_cancel hcancel hpend
    rw [hnone] at hdone
    exact absurd hdone (by simp)
  · exact .inl (harmed hpend).2.1
  · have hdone := (harmed hpend).2.2
    unfold concludes at hdone
    rw [completeConv_saved (hsaved hpend)] at hdone
    rw [hdone] at he
    exact absurd he (by simp)
  · obtain ⟨-, hrequest, hdone⟩ := harmed hpend
    unfold concludes at hdone
    rw [completeConv_saved (hsaved hpend)] at hdone
    rw [hdone]
    show Prompted h ((h.earlier t k.parts).2.turns ++ [t.record deleteAllConfirmationPrompt])
    exact prompted_prompt ⟨_, record_goal t _, hrequest, record_finalAnswer t _⟩ _

theorem turn_pending {done : TurnDone ρ} (hk : Armed h k) (hdone : pendingDone h t k = some done) :
    TurnConfirmed h t k ∧ Armed h (turn h t k).session := by
  have hturn : turn h t k = done := by
    unfold turn
    rw [hdone]
  have hpend : k.pendingDeleteAll = true := by
    by_contra hno
    unfold pendingDone at hdone
    rw [if_neg hno] at hdone
    exact absurd hdone (by simp)
  have hprompted := hk hpend
  -- what is left is what the handler of a pending deletion returned
  suffices hall : (done.wiped = true → detectDeleteAllConfirmationPending h.tb (strip t.text) = true) ∧
      (done.session.pendingDeleteAll = true →
        h.answerSingleMemoryQuery (strip t.text) k.parts.memory ≠ .ok none ∧ Prompted h done.session.parts.turns) by
    obtain ⟨hwipes, hkeeps⟩ := hall
    refine ⟨⟨fun hw => ⟨hwipes (hturn ▸ hw), hpend, hprompted⟩, fun hcancel hp => ?_, fun hp => ?_,
      fun _ _ hp => ⟨hpend, (hkeeps (hturn ▸ hp)).1⟩⟩, fun hp => ?_⟩
    · obtain ⟨done', hdone', hfalse⟩ := pendingDone_cancel hcancel hp
      rw [hdone] at hdone'
      rw [hturn, Option.some.inj hdone']
      exact hfalse
    · exact .inr ⟨hpend, (hkeeps (hturn ▸ hp)).1⟩
    · rw [hturn]
      exact (hkeeps (hturn ▸ hp)).2
  unfold pendingDone handleDeleteAllPending at hdone
  rw [if_pos hpend] at hdone
  dsimp only at hdone
  split_ifs at hdone with hconfirm hcancel
  · rw [← Option.some.inj hdone]
    exact ⟨fun _ => hconfirm, fun hp => absurd hp Bool.false_ne_true⟩
  · rw [← Option.some.inj hdone]
    exact ⟨fun hw => absurd hw Bool.false_ne_true, fun hp => absurd hp Bool.false_ne_true⟩
  · cases hquery : h.answerSingleMemoryQuery (strip t.text) k.parts.memory with
    | error e =>
      rw [hquery] at hdone
      rw [← Option.some.inj hdone]
      exact ⟨fun hw => absurd hw Bool.false_ne_true, fun _ => ⟨by simp, hprompted⟩⟩
    | ok answer =>
      rw [hquery] at hdone
      cases answer with
      | none => exact absurd hdone (by simp)
      | some answer =>
        rw [← Option.some.inj hdone]
        refine ⟨fun hw => absurd hw Bool.false_ne_true, fun _ => ⟨by simp, ?_⟩⟩
        rcases completeConv_turns t (answer ++ stillPendingNote) k.parts with hsame | hmore
        · exact hsame ▸ hprompted
        · show Prompted h (completeConv t (answer ++ stillPendingNote) k.parts).2.turns
          rw [hmore]
          exact hprompted.answer ⟨_, k.parts.memory, answer, record_goal t _, hquery, record_finalAnswer t _⟩

theorem turn_spec (hk : Armed h k) (hrec : Asks h t k → t.saveFault = none) :
    TurnConfirmed h t k ∧ Armed h (turn h t k).session := by
  cases hdone : pendingDone h t k with
  | none => exact turn_dispatch hdone hrec
  | some done => exact turn_pending hk hdone

/-! ### a run -/

theorem runTurns_single (k : DeletingSession ρ) (t : DeletingTurn) : runTurns h k [t] = (turn h t k).session := rfl

theorem runTurns_concat (k : DeletingSession ρ) (before : List DeletingTurn) (t : DeletingTurn) :
    runTurns h k (before ++ [t]) = (turn h t (runTurns h k before)).session := List.foldl_append

theorem PromptsRecorded.init {before after : List DeletingTurn} (hrec : PromptsRecorded h k (before ++ after)) :
    PromptsRecorded h k before := by
  intro b t a hsplit
  refine hrec b t (a ++ after) ?_
  rw [hsplit, List.append_assoc, List.cons_append]

theorem armed_of_run (hk : Armed h k) {ts : List DeletingTurn} (hrec : PromptsRecorded h k ts) :
    Armed h (runTurns h k ts) := by
  induction ts using List.reverseRecOn with
  | nil => exact hk
  | append_singleton ts t ih =>
    rw [runTurns_concat]
    exact (turn_spec (ih hrec.init) (hrec ts t [] rfl)).2

end

/-! ### a prompt that is lost -/

theorem requests_clearMemory :
    detectDeleteAllMemoryRequest IntentParser.plainTables (strip (py "clear memory")) = true := by
  unfold detectDeleteAllMemoryRequest reDeleteAllMemory xoa
  repeat rw [py_ofList]
  decide +kernel

theorem confirms_ok : detectDeleteAllConfirmationPending IntentParser.plainTables (strip (py "ok")) = true := by
  unfold detectDeleteAllConfirmationPending reDeleteConfirm reDeleteConfirmPending xoa
  repeat rw [py_ofList]
  decide +kernel

/-- No handler takes a turn, and there is nothing to query. -/
def plainHandlers (env : MemoryEnv) : TurnHandlers Unit where
  tb := IntentParser.plainTables
  memoryEnv := env
  answerSingleMemoryQuery _ _ := .ok none
  earlier _ s := (none, s)
  later _ s := (.answered [], s)

def plainTurn (text : PyStr) (saveFault : Option PyExc) : DeletingTurn where
  text := text
  taskId := py "t"
  now := ⟨0, some (.fixed 0)⟩
  saveFault := saveFault

def newSession : DeletingSession Unit := ⟨false, ⟨[], World.empty, 0, none, ()⟩⟩

def lostPrompt : List DeletingTurn := [plainTurn (py "clear memory") (some osError), plainTurn (py "ok") none]

def shownPrompt : List DeletingTurn := [plainTurn (py "clear memory") none, plainTurn (py "ok") none]

end Tomtit
