import TomtitAgent.BuildHarness.EvidenceStore.Reachable

/-!
# Reading the event log

* `eventText_lineBreak_iff`   a line of the log splits exactly when a string of its event has a line
  break that JSON leaves unescaped;
* `readEvents_clean`   a log whose lines do not split is read back;
* `readEvents_length`   what is read has as many events as the text has lines that are not blank;
* `readEvents_log_iff`   both together: the log is read back exactly when no line splits.
-/

open Py

namespace Tomtit

/-- A line break of `str.splitlines` that `json.dumps(..., ensure_ascii=False)` does not escape. -/
def unescapedBreak (c : CodePoint) : Bool := c.val == 0x85 || c.val == 0x2028 || c.val == 0x2029

theorem isLineBreak_iff {c : CodePoint} (h : 32 ≤ c.val) : isLineBreak c = unescapedBreak c := by
  rw [Bool.eq_iff_iff]
  simp only [isLineBreak, unescapedBreak, Bool.or_eq_true, Bool.and_eq_true, decide_eq_true_eq,
    beq_iff_eq]
  omega

section
variable (rt : Runtime) (store : EvidenceStore)

theorem eventText_chars {P : CodePoint → Prop} (hascii : ∀ c, JsonLoad.isPrintableAscii c = true → P c)
    {event : Json} (hp : event.Plain) (hs : ∀ s ∈ event.strings, ∀ c ∈ s, 32 ≤ c.val → P c) :
    ∀ c ∈ eventText rt event, P c := JsonLoad.spaced_chars rt hascii hp hs

/-- Where no line of the log splits: no string of the event has an unescaped line break. -/
def Unbroken (event : Json) : Prop := ∀ s ∈ event.strings, ∀ c ∈ s, unescapedBreak c = false

theorem eventText_lineBreak_iff {event : Json} (hp : event.Plain) :
    (∀ c ∈ eventText rt event, isLineBreak c = false) ↔ Unbroken event := by
  constructor
  · intro h s hs c hc
    by_contra hbreak
    rw [Bool.not_eq_false] at hbreak
    have h128 : 128 ≤ c.val := by
      simp only [unescapedBreak, Bool.or_eq_true, beq_iff_eq] at hbreak
      omega
    have hline := h c (mem_textIn rt .spaced hs hc h128 0)
    rw [isLineBreak_iff (by omega), hbreak] at hline
    exact absurd hline (by simp)
  · intro h
    refine eventText_chars rt (fun c hc => ?_) hp fun s hs c hc h32 => ?_
    · simp only [JsonLoad.isPrintableAscii, Bool.and_eq_true, decide_eq_true_eq] at hc
      rw [isLineBreak_iff hc.1]
      simp only [unescapedBreak, Bool.or_eq_false_iff, beq_eq_false_iff_ne]
      omega
    · rw [isLineBreak_iff h32]
      exact h s hs c hc

theorem eventText_plain {event : Json} (hp : event.Plain) : (13 : CodePoint) ∉ eventText rt event := by
  intro h
  have hne : ∀ c ∈ eventText rt event, c ≠ 13 := by
    refine eventText_chars rt (fun c hc => ?_) hp fun s hs c hc h32 => ?_
    · rintro rfl
      exact absurd hc (by decide)
    · rintro rfl
      exact absurd h32 (by decide)
  exact hne 13 h rfl

theorem IsEvent.text {taskId : PyStr} {event : Json} (h : IsEvent rt taskId event) :
    ∃ text, eventText rt event = 123 :: text ∧ Closed text := by
  have hplain := eventText_plain rt (h.plain rt)
  obtain ⟨timestamp, eventType, payload, rfl, -⟩ := h.form
  obtain ⟨pre, e⟩ := JsonLoad.textIn_obj rt .spaced 0
    [(py "timestamp", .str timestamp.text), (py "task_id", .str taskId),
      (py "event_type", .str eventType), (py "payload", payload.json)]
  refine ⟨pre ++ [125], e, ⟨pre, 125, rfl, rfl⟩, fun hmem => hplain ?_⟩
  unfold eventText
  rw [show (eventJson timestamp taskId eventType payload).textIn rt .spaced 0 = _ from e]
  exact List.mem_cons_of_mem _ hmem

theorem IsEvent.strip_ne_nil {taskId : PyStr} {event : Json} (h : IsEvent rt taskId event) :
    strip (eventText rt event) ≠ [] := by
  obtain ⟨text, e, -⟩ := h.text rt
  rw [e]
  exact strip_cons_ne_nil (Or.inl rfl)

/-! ### reading what was written -/

theorem strip_ne_nil_of_accepted {rest : CodePoint → Bool} {n : Nat} {s : PyStr}
    (h : dollar (tokenRe isAlnum rest n) s = true) : strip s ≠ [] := by
  have hhead : ∀ t, tokenRe isAlnum rest n t = true → ∃ c ∈ t, isSpace c = false := by
    intro t ht
    obtain ⟨c, cs, rfl⟩ := List.exists_cons_of_ne_nil (tokenRe_ne_nil ht)
    refine ⟨c, List.mem_cons_self, ?_⟩
    simp only [tokenRe, isAlnum, isDigit, isUpper, isLower, Bool.and_eq_true, Bool.or_eq_true,
      decide_eq_true_eq] at ht
    simp only [isSpace, Bool.or_eq_false_iff, Bool.and_eq_false_iff, decide_eq_false_iff_not,
      beq_eq_false_iff_ne]
    omega
  have hmem : ∃ c ∈ s, isSpace c = false := by
    unfold dollar at h
    rcases Bool.or_eq_true_iff.mp h with h1 | h1
    · exact hhead s h1
    · obtain ⟨c, hc, hspace⟩ := hhead _ (Bool.and_eq_true_iff.mp h1).2
      exact ⟨c, List.dropLast_subset s hc, hspace⟩
  obtain ⟨c, hc, hspace⟩ := hmem
  rw [Ne, strip_eq_nil_iff]
  intro hall
  rw [hall c hc] at hspace
  exact absurd hspace (by simp)

theorem Timestamp.strip_ne_nil (timestamp : Timestamp) : strip timestamp.text ≠ [] := by
  obtain ⟨c, cs, e⟩ := List.exists_cons_of_ne_nil timestamp.nonempty
  rw [Ne, strip_eq_nil_iff]
  intro hall
  have hmem : c ∈ timestamp.text := by rw [e]; exact List.mem_cons_self
  have hspace := hall c hmem
  rcases timestamp.chars c hmem with hdigit | hlist
  · simp only [isDigit, Bool.and_eq_true, decide_eq_true_eq] at hdigit
    simp only [isSpace, Bool.or_eq_true, Bool.and_eq_true, decide_eq_true_eq, beq_iff_eq] at hspace
    omega
  · simp only [List.mem_cons, List.not_mem_nil, or_false] at hlist
    rcases hlist with rfl | rfl | rfl | rfl | rfl
    · exact absurd hspace (by decide)
    · exact absurd hspace (by decide)
    · exact absurd hspace (by decide)
    · exact absurd hspace (by decide)
    · exact absurd hspace (by decide)

theorem IsEvent.validate {taskId : PyStr} {event : Json} (h : IsEvent rt taskId event) (loc : PyStr) :
    validateEventStructure rt event loc taskId = .ok () := by
  have htask := strip_ne_nil_of_accepted h.taskId_ok
  obtain ⟨timestamp, eventType, payload, rfl, htype⟩ := h.form
  have htype' := strip_ne_nil_of_accepted htype
  unfold validateEventStructure eventJson
  simp only [jsonStr, assoc_cons, py_inj, String.reduceEq, if_true, if_false, Option.getD_some,
    List.forM_eq_forM, List.forM_cons, List.forM_nil, JsonObject.json]
  simp [raiseIf, htask, htype', timestamp.strip_ne_nil, bind, Except.bind, pure, Except.pure]

theorem loadsOr_ok {corrupt : PyExc} {text : PyStr} {j : Json} (h : JsonLoad.loads rt text = some j) :
    loadsOr rt corrupt text = .ok j := by
  unfold loadsOr
  rw [(Scan.loads_ok_iff rt).mpr h]

theorem readEvents_clean {taskId : PyStr} {events : List Json}
    (h : ∀ event ∈ events, IsEvent rt taskId event) (lineNumber : Nat) :
    readEvents rt store taskId lineNumber (events.map (eventText rt)) = .ok events := by
  induction events generalizing lineNumber with
  | nil => rfl
  | cons event events ih =>
    have hevent := h event List.mem_cons_self
    have hrest := ih (fun e he => h e (List.mem_cons_of_mem event he)) (lineNumber + 1)
    rw [List.map_cons, readEvents, if_neg (hevent.strip_ne_nil rt)]
    have hloads : JsonLoad.loads rt (eventText rt event) = some event :=
      JsonLoad.loads_textIn rt .spaced (hevent.plain rt) hevent.intsFit
    dsimp only
    rw [loadsOr_ok rt hloads, ok_bind, hevent.validate rt, hrest]
    rfl

/-- One event is read from each line that is not blank. -/
theorem readEvents_length {taskId : PyStr} {lineNumber : Nat} {lines : List PyStr}
    {events : List Json} (h : readEvents rt store taskId lineNumber lines = .ok events) :
    events.length = lines.countP fun line => strip line ≠ [] := by
  induction lines generalizing lineNumber events with
  | nil =>
    rw [readEvents] at h
    rw [← Except.ok.inj h]
    rfl
  | cons line lines ih =>
    rw [readEvents] at h
    split_ifs at h with hblank
    · rw [ih h, List.countP_cons_of_neg (by simp [hblank])]
    · dsimp only at h
      obtain ⟨event, -, h⟩ := bind_eq_ok.mp h
      obtain ⟨-, -, h⟩ := bind_eq_ok.mp h
      obtain ⟨rest, hrest, h⟩ := bind_eq_ok.mp h
      rw [← Except.ok.inj h, List.length_cons, ih hrest, List.countP_cons,
        if_pos (decide_eq_true hblank)]

theorem filledLines_logText {taskId : PyStr} {events : List Json}
    (h : ∀ event ∈ events, IsEvent rt taskId event) :
    events.length ≤ filledLines (logText rt events) ∧
      ((∃ event ∈ events, ¬ Unbroken event) → events.length < filledLines (logText rt events)) := by
  induction events with
  | nil => exact ⟨Nat.zero_le _, fun ⟨_, hmem, _⟩ => absurd hmem List.not_mem_nil⟩
  | cons event events ih =>
    have hevent := h event List.mem_cons_self
    obtain ⟨hle, hlt⟩ := ih fun e he => h e (List.mem_cons_of_mem event he)
    obtain ⟨text, htext, hclosed⟩ := hevent.text rt
    have hall : Closed (eventText rt event) := by
      obtain ⟨pre, c, e, hc⟩ := hclosed.last
      refine ⟨⟨123 :: pre, c, ?_, hc⟩, eventText_plain rt (hevent.plain rt)⟩
      rw [htext, e]
      rfl
    have hsum : filledLines (logText rt (event :: events)) =
        filledLines (eventText rt event) + filledLines (logText rt events) := by
      unfold logText
      rw [List.flatMap_cons, List.append_assoc]
      exact filledLines_closed hall _
    have hone := one_le_filledLines hall
    rw [hsum, List.length_cons]
    refine ⟨by omega, fun ⟨broken, hmem, hbroken⟩ => ?_⟩
    rcases List.mem_cons.mp hmem with rfl | hmem
    · have htwo : 2 ≤ filledLines (eventText rt broken) := by
        rw [← eventText_lineBreak_iff rt (hevent.plain rt)] at hbroken
        simp only [not_forall, Bool.not_eq_false] at hbroken
        obtain ⟨c, hc, hbreak⟩ := hbroken
        rw [htext] at hc ⊢
        refine two_le_filledLines rfl hclosed ⟨c, ?_, hbreak⟩
        rcases List.mem_cons.mp hc with rfl | hc
        · exact absurd hbreak (by decide)
        · exact hc
      omega
    · have := hlt ⟨broken, hmem, hbroken⟩
      omega

/-- The log is read back exactly when none of its lines splits. -/
theorem readEvents_log_iff {taskId : PyStr} {events : List Json}
    (h : ∀ event ∈ events, IsEvent rt taskId event) :
    readEvents rt store taskId 1 (splitlines (logText rt events)) = .ok events ↔
      ∀ event ∈ events, Unbroken event := by
  constructor
  · intro hread event hevent
    by_contra hbroken
    have hlt := (filledLines_logText rt h).2 ⟨event, hevent, hbroken⟩
    have hlength := readEvents_length rt store hread
    unfold filledLines at hlt
    omega
  · intro hunbroken
    have hlines : splitlines (logText rt events) = events.map (eventText rt) := by
      have hflat : logText rt events = (events.map (eventText rt)).flatMap fun line => line ++ [10] := by
        rw [List.flatMap_map]
        rfl
      rw [hflat]
      refine splitlines_lines fun line hline => ?_
      obtain ⟨event, hevent, rfl⟩ := List.mem_map.mp hline
      exact (eventText_lineBreak_iff rt ((h event hevent).plain rt)).mpr (hunbroken event hevent)
    rw [hlines]
    exact readEvents_clean rt store h 1

end

end Tomtit
