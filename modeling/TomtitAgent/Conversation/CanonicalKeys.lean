import TomtitAgent.Conversation.ProfileValues
import TomtitAgent.Python.Collapse
import TomtitAgent.Planning.IntentParser

/-!
# The two keys of a memory value

`canonicalize_memory_value` and `_norm_cmp` fold case and white space alike; the first also takes the
characters `.!?？,` off the end, once.  Both keys of `v` begin with the words of `v` without these
characters (`canonicalize_prefix`), and what the second adds is what was taken off.  So they coincide
exactly where nothing is to be taken off (`keys_eq_iff`), and the first is idempotent exactly where one
time is enough (`canonicalize_idem_iff`).

`cleanOpValue` takes the same characters off, and then a tail and a particle, which can uncover more
of them.
-/

open Py

namespace Tomtit

section
variable (u : Unicode) (tb : ReTables)

/-! ### `_clean_op_value` -/

def terminalDiscourseMarkers : List PyStr := [py "mà", py "đó", py "nhé", py "nha"]

def stripTerminalDiscourseMarker (value : PyStr) : PyStr :=
  let tokens := split value
  if 2 ≤ tokens.length ∧ ∃ last, tokens.getLast? = some last ∧ u.lower last ∈ terminalDiscourseMarkers then
    strip (joinWith [space] tokens.dropLast)
  else value

/-- `_RE_GOAL_DIRTY_REMINDER_TAIL` -/
def reGoalDirtyReminderTail : Re := Re.compile (py r"\s+(?:bạn\s+)?không\s+nhớ\s+(?:à|a)\s*$")

def ignoringCase (tb : ReTables) : Mode where
  tables := tb
  ignoreCase := true

def cleanOpValue (raw : PyStr) : PyStr :=
  let value := strip (collapse (rstripOf edgePunctuation (strip raw)))
  let value := strip (reGoalDirtyReminderTail.removeAll (ignoringCase tb) value)
  stripTerminalDiscourseMarker u value

/-! ### the keys -/

/-- The last character is one of `.!?？,`. -/
def endsInPunctuation (s : PyStr) : Bool := s.getLast?.any (· ∈ edgePunctuation)

/-- Punctuation has no case: it is lowered to itself, and nothing else is lowered to it. -/
structure PunctuationCase : Prop where
  lower_concat : ∀ s, ∀ c ∈ edgePunctuation, u.lower (s ++ [c]) = u.lower s ++ [c]
  lower_ends : ∀ s c, c ∈ edgePunctuation → (u.lower s).getLast? = some c → s.getLast? = some c

/-- The keys of `v` coincide, and each is its own key. -/
structure OneKey (raw v : PyStr) : Prop where
  same : canonicalizeMemoryValue u v = normCmp u v
  canonicalize : canonicalizeMemoryValue u (canonicalizeMemoryValue u raw) = canonicalizeMemoryValue u raw
  norm : normCmp u (normCmp u raw) = normCmp u raw

variable {u}

theorem edgePunctuation_visible : ∀ c ∈ edgePunctuation, isSpace c = false := by
  have h : (edgePunctuation.all fun c => !isSpace c) = true := by
    unfold edgePunctuation
    rw [py_ofList]
    rfl
  intro c hc
  simpa using List.all_eq_true.mp h c hc

theorem canonicalize_eq (v : PyStr) :
    canonicalizeMemoryValue u v = normCmp u (rstripOf edgePunctuation (strip v)) := by
  unfold canonicalizeMemoryValue
  rw [strip_collapse, u.lower_joinWith (split_words _), normCmp_eq]

/-- The text without what `rstrip` and the second `strip` take off it. -/
def core (v : PyStr) : PyStr := strip (rstripOf edgePunctuation (strip v))

/-- `q` has only characters of `.!?？,` and white space, and does not end in white space. -/
structure Trimmed (q : PyStr) : Prop where
  chars : ∀ c ∈ q, c ∈ edgePunctuation ∨ isSpace c = true
  last : ∀ c, q.getLast? = some c → c ∈ edgePunctuation

/-- What is taken off a stripped text, which is nothing unless it ends in one of the characters. -/
theorem strip_eq_core (v : PyStr) :
    ∃ q, strip v = core v ++ q ∧ Trimmed q ∧ (q = [] ↔ endsInPunctuation (strip v) = false) := by
  obtain ⟨p, hp, hchars, hlast⟩ := rstripOf_spec edgePunctuation (strip v)
  obtain ⟨a, b, hab, ha, hb, -⟩ := strip_spec (rstripOf edgePunctuation (strip v))
  have hvisible := Unicode.strip_edges v
  -- nothing is taken off in front
  have hfront : a = [] := by
    cases a with
    | nil => rfl
    | cons c a =>
      have hhead : (strip v).head? = some c := by
        rw [hp, hab]
        rfl
      have hc := hvisible.1
      rw [hhead] at hc
      exact absurd ((ha c List.mem_cons_self).symm.trans hc) (by simp)
  rw [hfront, List.nil_append] at hab
  have hsplit : strip v = core v ++ (b ++ p) := by
    rw [← List.append_assoc]
    exact hp.trans (congrArg (· ++ p) hab)
  refine ⟨b ++ p, hsplit, ⟨fun c hc => ?_, fun c hc => ?_⟩, fun h => ?_, fun h => ?_⟩
  · rcases List.mem_append.mp hc with h | h
    · exact .inr (hb c h)
    · exact .inl (hchars c h)
  · have hend : (strip v).getLast? = some c := by
      rw [hsplit, List.getLast?_append, hc]
      rfl
    cases p with
    | nil =>
      rw [List.append_nil] at hc
      have hs := hvisible.2
      rw [hend] at hs
      exact absurd ((hb c (List.mem_of_getLast? hc)).symm.trans hs) (by simp)
    | cons d p =>
      rw [List.getLast?_append_of_ne_nil _ (List.cons_ne_nil d p)] at hc
      exact hchars c (List.mem_of_getLast? hc)
  · obtain ⟨-, hpnil⟩ := List.append_eq_nil_iff.mp h
    rw [hpnil, List.append_nil] at hp
    unfold endsInPunctuation
    rw [hp]
    cases hl : (rstripOf edgePunctuation (strip v)).getLast? with
    | none => rfl
    | some c => exact decide_eq_false (hlast c hl)
  · by_contra hne
    obtain ⟨c, hc⟩ : ∃ c, (b ++ p).getLast? = some c := by
      rw [List.getLast?_eq_some_getLast hne]
      exact ⟨_, rfl⟩
    have hend : (strip v).getLast? = some c := by
      rw [hsplit, List.getLast?_append, hc]
      rfl
    have hmem : c ∈ edgePunctuation := by
      cases p with
      | nil =>
        rw [List.append_nil] at hc
        have hs := hvisible.2
        rw [hend] at hs
        exact absurd ((hb c (List.mem_of_getLast? hc)).symm.trans hs) (by simp)
      | cons d p =>
        rw [List.getLast?_append_of_ne_nil _ (List.cons_ne_nil d p)] at hc
        exact hchars c (List.mem_of_getLast? hc)
    unfold endsInPunctuation at h
    rw [hend] at h
    exact absurd (decide_eq_true hmem) (by simpa using h)

theorem lower_trimmed (hu : PunctuationCase u) (s : PyStr) {q : PyStr}
    (hq : ∀ c ∈ q, c ∈ edgePunctuation ∨ isSpace c = true) : u.lower (s ++ q) = u.lower s ++ q := by
  induction q using List.reverseRecOn with
  | nil => rw [List.append_nil, List.append_nil]
  | append_singleton q c ih =>
    have ih := ih fun d hd => hq d (List.mem_append_left _ hd)
    rw [← List.append_assoc, ← List.append_assoc, ← ih]
    rcases hq c (List.mem_append_right q List.mem_cons_self) with h | h
    · exact hu.lower_concat _ c h
    · rw [u.lower_space _ c [] h, u.lower_nil]

/-- The key of `_norm_cmp` is the other key and what was taken off, collapsed. -/
theorem canonicalize_prefix (hu : PunctuationCase u) (v : PyStr) :
    ∃ rest, normCmp u v = canonicalizeMemoryValue u v ++ rest ∧
      (rest = [] ↔ endsInPunctuation (strip v) = false) := by
  obtain ⟨q, hv, hq, hnil⟩ := strip_eq_core v
  obtain ⟨j, hj⟩ := collapseFrom_append false (u.lower (core v)) q
  have hnorm : normCmp u v = collapse (u.lower (core v) ++ q) := by
    unfold normCmp
    rw [hv, lower_trimmed hu _ hq.chars]
  have hkey : canonicalizeMemoryValue u v = collapse (u.lower (core v)) := canonicalize_eq v
  refine ⟨collapseFrom j q, ?_, ?_⟩
  · rw [hnorm, hkey]
    exact hj
  · rw [← hnil]
    constructor
    · intro h
      by_contra hne
      obtain ⟨init, c, rfl⟩ := (List.eq_nil_or_concat' q).resolve_left hne
      have hc := edgePunctuation_visible c (hq.last c List.getLast?_concat)
      rw [collapseFrom_concat hc] at h
      exact absurd (List.append_eq_nil_iff.mp h).2 (List.cons_ne_nil c [])
    · rintro rfl
      rfl

/-- The keys of a value coincide exactly when it does not end in one of the characters. -/
theorem keys_eq_iff (hu : PunctuationCase u) (v : PyStr) :
    canonicalizeMemoryValue u v = normCmp u v ↔ endsInPunctuation (strip v) = false := by
  obtain ⟨rest, hrest, hnil⟩ := canonicalize_prefix hu v
  rw [← hnil, hrest]
  exact ⟨fun h => List.append_cancel_left (h.symm.trans (List.append_nil _).symm),
    fun h => by rw [h, List.append_nil]⟩

theorem strip_normCmp (v : PyStr) : strip (normCmp u v) = normCmp u v := by
  rw [normCmp_eq]
  exact strip_joinWith (map_lower_words u v)

theorem endsInPunctuation_concat (s : PyStr) (c : CodePoint) :
    endsInPunctuation (s ++ [c]) = decide (c ∈ edgePunctuation) := by
  unfold endsInPunctuation
  rw [List.getLast?_concat]
  rfl

theorem endsInPunctuation_normCmp (hu : PunctuationCase u) (v : PyStr) :
    endsInPunctuation (normCmp u v) = endsInPunctuation (strip v) := by
  have hedges := Unicode.strip_edges v
  have hlower := u.lower_edges (strip v)
  unfold normCmp
  rcases List.eq_nil_or_concat' (strip v) with hs | ⟨s, c, hs⟩
  · rw [hs, u.lower_nil]
    rfl
  rcases List.eq_nil_or_concat' (u.lower (strip v)) with hl | ⟨l, d, hl⟩
  · refine absurd hl (u.lower_ne_nil ?_)
    rw [hs]
    exact List.append_ne_nil_of_right_ne_nil s (List.cons_ne_nil c [])
  have hd : isSpace d = false := by
    have h := hlower.2.trans hedges.2
    rw [hl, List.getLast?_concat] at h
    exact h
  rw [hl]
  unfold collapse
  rw [collapseFrom_concat hd, endsInPunctuation_concat, hs, endsInPunctuation_concat, decide_eq_decide]
  have hlast : (u.lower (strip v)).getLast? = some d := by rw [hl, List.getLast?_concat]
  constructor
  · intro h
    have he := hu.lower_ends (strip v) d h hlast
    rw [hs, List.getLast?_concat] at he
    rw [Option.some.inj he]
    exact h
  · intro h
    have he := hu.lower_concat s c h
    rw [← hs, hl] at he
    have hcd := List.append_inj_right' he rfl
    rw [(List.cons.inj hcd).1]
    exact h

theorem canonicalize_idem_iff (hu : PunctuationCase u) (raw : PyStr) :
    canonicalizeMemoryValue u (canonicalizeMemoryValue u raw) = canonicalizeMemoryValue u raw ↔
      endsInPunctuation (core raw) = false := by
  have hkey : normCmp u (canonicalizeMemoryValue u raw) = canonicalizeMemoryValue u raw := by
    rw [canonicalize_eq, normCmp_normCmp]
  have h := keys_eq_iff hu (canonicalizeMemoryValue u raw)
  rw [hkey] at h
  rw [h, canonicalize_eq, strip_normCmp, endsInPunctuation_normCmp hu]
  rfl

theorem strip_stripTerminal {value : PyStr} (h : strip value = value) :
    strip (stripTerminalDiscourseMarker u value) = stripTerminalDiscourseMarker u value := by
  unfold stripTerminalDiscourseMarker
  dsimp only
  split_ifs
  · exact strip_strip _
  · exact h

/-- For every raw text the cleaned value has one key, its own, exactly when cleaning leaves none of
the characters at its end, and taking them off the raw text once leaves none either. -/
theorem oneKey_iff (hu : PunctuationCase u) (raw : PyStr) :
    OneKey u raw (cleanOpValue u tb raw) ↔
      endsInPunctuation (cleanOpValue u tb raw) = false ∧ endsInPunctuation (core raw) = false := by
  have hstrip : strip (cleanOpValue u tb raw) = cleanOpValue u tb raw := by
    unfold cleanOpValue
    exact strip_stripTerminal (strip_strip _)
  have hkeys := keys_eq_iff hu (cleanOpValue u tb raw)
  rw [hstrip] at hkeys
  constructor
  · intro h
    exact ⟨hkeys.mp h.same, (canonicalize_idem_iff hu raw).mp h.canonicalize⟩
  · intro ⟨hclean, hcore⟩
    exact ⟨hkeys.mpr hclean, (canonicalize_idem_iff hu raw).mpr hcore, normCmp_normCmp u raw⟩

end

/-! ### a value that is cleaned once -/

theorem punctuationCase_ascii : PunctuationCase asciiUnicode where
  lower_concat s c hc := by
    have hsame : asciiLower c = c := by
      revert c
      have h : (edgePunctuation.all fun c => asciiLower c = c) = true := by
        unfold edgePunctuation
        rw [py_ofList]
        rfl
      exact fun c hc => of_decide_eq_true (List.all_eq_true.mp h c hc)
    show (s ++ [c]).map asciiLower = s.map asciiLower ++ [c]
    rw [List.map_append, List.map_singleton, hsame]
  lower_ends s c hc h := by
    have h : (s.map asciiLower).getLast? = some c := h
    rw [List.getLast?_map] at h
    obtain ⟨d, hd, rfl⟩ := Option.map_eq_some_iff.mp h
    by_cases hup : isUpper d = true
    · -- a capital is lowered to a letter
      obtain ⟨hval, h1, h2⟩ := asciiLower_of_upper hup
      have hletters : (edgePunctuation.all fun c => c.val < 97 || 122 < c.val) = true := by
        unfold edgePunctuation
        rw [py_ofList]
        rfl
      have hrange := List.all_eq_true.mp hletters _ hc
      simp only [Bool.or_eq_true, decide_eq_true_eq] at hrange
      omega
    · rw [hd]
      exact congrArg some (if_neg hup).symm

/-- `a` has one key. -/
theorem oneKey_a : OneKey asciiUnicode [97] (cleanOpValue asciiUnicode IntentParser.plainTables [97]) := by
  refine (oneKey_iff IntentParser.plainTables punctuationCase_ascii [97]).mpr ⟨?_, ?_⟩
  · unfold cleanOpValue reGoalDirtyReminderTail edgePunctuation endsInPunctuation stripTerminalDiscourseMarker
      terminalDiscourseMarkers
    repeat rw [py_ofList]
    decide +kernel
  · unfold core edgePunctuation endsInPunctuation
    repeat rw [py_ofList]
    decide +kernel

/-- `a. ,` is cleaned to `a.`, whose keys are `a` and `a.`. -/
theorem not_oneKey : ¬ OneKey asciiUnicode [97, 46, 32, 44]
    (cleanOpValue asciiUnicode IntentParser.plainTables [97, 46, 32, 44]) := by
  have hkeys : canonicalizeMemoryValue asciiUnicode
      (cleanOpValue asciiUnicode IntentParser.plainTables [97, 46, 32, 44]) ≠
        normCmp asciiUnicode (cleanOpValue asciiUnicode IntentParser.plainTables [97, 46, 32, 44]) := by
    unfold cleanOpValue reGoalDirtyReminderTail stripTerminalDiscourseMarker terminalDiscourseMarkers
      canonicalizeMemoryValue edgePunctuation
    repeat rw [py_ofList]
    decide +kernel
  exact fun h => hkeys h.same

end Tomtit
