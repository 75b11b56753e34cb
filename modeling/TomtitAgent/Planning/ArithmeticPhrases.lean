import TomtitAgent.Planning.ArithmeticExtract

/-!
# Arithmetic requests in the dispatch of `RuleBasedIntentParser`

The cues before a calculation need letters that an arithmetic text and the phrase around it do not have.

* `Phrase`, `Phrase.text`   `e` alone, `Tính e`, `calculate e`, `e bằng mấy`;
* `quiet_conversation`, `quiet_verb`, `quiet_request`   no cue is found;
* `parse_alone`, `parse_tinh`, `parse_calculate`, `parse_bangMay`   what the parser returns.
-/

open Py

namespace Tomtit
namespace Arithmetic
open IntentParser

inductive Phrase where
  | alone | tinh | calculate | bangMay
deriving DecidableEq

/-- The request for the expression `e`. -/
def Phrase.text (e : PyStr) : Phrase → PyStr
  | alone => e
  | tinh => py "Tính " ++ e
  | calculate => py "calculate " ++ e
  | bangMay => e ++ py " bằng mấy"

def tinhWord : PyStr := [84, 237, 110, 104]
def calculateWord : PyStr := [99, 97, 108, 99, 117, 108, 97, 116, 101]
def bangWord : PyStr := [98, 7857, 110, 103]
def mayWord : PyStr := [109, 7845, 121]
def bangMayWord : PyStr := bangWord ++ 32 :: mayWord

/-! ### the letters of a request -/

/-- The classes that arithmetic characters and the given letters are in. -/
def among (pairs : List (CodePoint × CodePoint)) : ClassItem → Bool
  | .char d => arithChar d || pairs.any fun p => d = p.1 || d = p.2
  | _ => true

def tinhPairs : List (CodePoint × CodePoint) := [(116, 84), (237, 205), (110, 78), (104, 72)]
def calculatePairs : List (CodePoint × CodePoint) := [(99, 67), (97, 65), (108, 76), (117, 85), (116, 84), (101, 69)]
def bangMayPairs : List (CodePoint × CodePoint) :=
  [(98, 66), (7857, 7856), (110, 78), (103, 71), (109, 77), (7845, 7844), (121, 89)]
def mayPairs : List (CodePoint × CodePoint) := [(109, 77), (7845, 7844), (121, 89)]

section
variable {tb : ArithTables} {pairs : List (CodePoint × CodePoint)} {s : PyStr}

theorem confined_among (hpairs : ∀ p ∈ pairs, p ∈ letterPairs)
    (hs : ∀ c ∈ s, arithChar c = true ∨ ∃ p ∈ pairs, c = p.1 ∨ c = p.2) :
    Confined (anyCase tb.toReTables) (among pairs) s := by
  intro c hc i hi
  cases i with
  | char d =>
    have hfold : tb.fold c = tb.fold d := by
      unfold ClassItem.accepts anyCase at hi
      exact of_decide_eq_true hi
    show (arithChar d || pairs.any fun p => d = p.1 || d = p.2) = true
    rw [Bool.or_eq_true]
    rcases hs c hc with harith | ⟨p, hp, hletter⟩
    · left
      rw [← tb.fold_symbol c d harith hfold]
      exact harith
    · right
      refine List.any_eq_true.mpr ⟨p, hp, ?_⟩
      rcases tb.fold_letter p (hpairs p hp) c d hletter hfold with h | h
      · rw [decide_eq_true h]
        rfl
      · rw [decide_eq_true h, Bool.or_true]
  | range a b => rfl
  | space => rfl
  | notSpace => rfl
  | word => rfl
  | decimal => rfl

def unspaced : ClassItem → Bool
  | .space => false
  | _ => true

theorem confined_unspaced {m : Mode} (h : ∀ c ∈ s, isSpace c = false) : Confined m unspaced s := by
  intro c hc i hi
  cases i with
  | space =>
    have hspace : isSpace c = true := hi
    rw [h c hc] at hspace
    exact absurd hspace Bool.false_ne_true
  | char d => rfl
  | range a b => rfl
  | notSpace => rfl
  | word => rfl
  | decimal => rfl

/-! ### the cues -/

def conversationCues : List Re := [greetingWords, identityCue, capabilityCue, memoryReadCue, memoryWriteCue]

def verbCues : List Re := [calculateVerb, readNoteVerb, writeNoteVerb, codeReviewCue, webSearchVerb, projectVerb]

def requestCues : List Re := [planningCue, summarizeCue, translateCue, technicalCue, writingCue, clarificationCue]

theorem cues_stop :
    conversationCues.all (fun re => re.stops (among tinhPairs) && re.stops (among calculatePairs) &&
        re.stops (among bangMayPairs)) = true ∧
      verbCues.all (fun re => re.stops (among calculatePairs) && re.stops (among bangMayPairs)) = true ∧
      requestCues.all (fun re => re.stops (among calculatePairs) && re.stops (among bangMayPairs)) = true := by
  unfold conversationCues greetingWords identityCue capabilityCue memoryReadCue memoryWriteCue verbCues
    calculateVerb readNoteVerb writeNoteVerb codeReviewCue webSearchVerb projectVerb requestCues planningCue
    summarizeCue translateCue technicalCue writingCue clarificationCue
  repeat rw [py_ofList]
  decide +kernel

section
variable {possible : ClassItem → Bool} (hs : Confined (anyCase tb.toReTables) possible s)
include hs

theorem quiet_conversation (h : ∀ re ∈ conversationCues, re.stops possible = true) :
    parseConversation tb.toReTables s = none := by
  simp only [conversationCues, List.forall_mem_cons] at h
  obtain ⟨h₁, h₂, h₃, h₄, h₅, -⟩ := h
  unfold parseConversation found
  rw [matchStart_none h₁ hs, search_none h₂ hs, search_none h₃ hs, search_none h₄ hs, search_none h₅ hs]
  simp only [Option.isSome_none, Bool.false_eq_true, ↓reduceIte]

theorem quiet_verb (h : ∀ re ∈ verbCues, re.stops possible = true) : parseVerb tb.toReTables s = none := by
  simp only [verbCues, List.forall_mem_cons] at h
  obtain ⟨h₁, h₂, h₃, h₄, h₅, h₆, -⟩ := h
  unfold parseVerb found
  rw [matchStart_none h₁ hs, matchStart_none h₂ hs, matchStart_none h₃ hs, search_none h₄ hs,
    matchStart_none h₅ hs, matchStart_none h₆ hs]
  simp only [Option.isSome_none, Bool.false_eq_true, ↓reduceIte, false_and]

theorem quiet_request (h : ∀ re ∈ requestCues, re.stops possible = true) : parseRequest tb.toReTables s = none := by
  simp only [requestCues, List.forall_mem_cons] at h
  obtain ⟨h₁, h₂, h₃, h₄, h₅, h₆, -⟩ := h
  unfold parseRequest found
  rw [search_none h₁ hs, search_none h₂ hs, search_none h₃ hs, search_none h₄ hs, search_none h₅ hs,
    search_none h₆ hs]
  simp only [Option.isSome_none, Bool.false_eq_true, ↓reduceIte]

end

theorem calculatePairs_stop : (∀ re ∈ conversationCues, re.stops (among calculatePairs) = true) ∧
    (∀ re ∈ verbCues, re.stops (among calculatePairs) = true) ∧
    ∀ re ∈ requestCues, re.stops (among calculatePairs) = true := by
  refine ⟨fun re hre => ?_, fun re hre => ?_, fun re hre => ?_⟩
  · have h := List.all_eq_true.mp cues_stop.1 re hre
    rw [Bool.and_eq_true, Bool.and_eq_true] at h
    exact h.1.2
  · have h := List.all_eq_true.mp cues_stop.2.1 re hre
    rw [Bool.and_eq_true] at h
    exact h.1
  · have h := List.all_eq_true.mp cues_stop.2.2 re hre
    rw [Bool.and_eq_true] at h
    exact h.1

theorem bangMayPairs_stop : (∀ re ∈ conversationCues, re.stops (among bangMayPairs) = true) ∧
    (∀ re ∈ verbCues, re.stops (among bangMayPairs) = true) ∧
    ∀ re ∈ requestCues, re.stops (among bangMayPairs) = true := by
  refine ⟨fun re hre => ?_, fun re hre => ?_, fun re hre => ?_⟩
  · have h := List.all_eq_true.mp cues_stop.1 re hre
    rw [Bool.and_eq_true] at h
    exact h.2
  · have h := List.all_eq_true.mp cues_stop.2.1 re hre
    rw [Bool.and_eq_true] at h
    exact h.2
  · have h := List.all_eq_true.mp cues_stop.2.2 re hre
    rw [Bool.and_eq_true] at h
    exact h.2

theorem parse_quiet {possible : ClassItem → Bool} {goal : PyStr}
    (hs : Confined (anyCase tb.toReTables) possible (strip goal))
    (h : (∀ re ∈ conversationCues, re.stops possible = true) ∧ (∀ re ∈ verbCues, re.stops possible = true) ∧
      ∀ re ∈ requestCues, re.stops possible = true) :
    parse tb.toReTables goal = parseArithmetic tb.toReTables (strip goal) := by
  unfold parse
  dsimp only
  rw [quiet_conversation hs h.1, quiet_verb hs h.2.1, quiet_request hs h.2.2, Option.getD_none, Option.getD_none,
    Option.getD_none]

/-! ### the phrases around an expression -/

theorem strip_wrapped {a t b : PyStr} (ha : ∀ c ∈ a, isSpace c = true) (hb : ∀ c ∈ b, isSpace c = true)
    (hne : t ≠ []) (hhead : ∀ c, t.head? = some c → isSpace c = false)
    (hlast : ∀ c, t.getLast? = some c → isSpace c = false) : strip (a ++ t ++ b) = t := by
  have hdrop : ∀ (u v : PyStr), u ≠ [] → (∀ c, u.head? = some c → isSpace c = false) →
      (u ++ v).dropWhile isSpace = u ++ v := by
    intro u v hu h
    obtain ⟨c, u, rfl⟩ := List.exists_cons_of_ne_nil hu
    exact List.dropWhile_cons_of_neg (by rw [h c rfl]; exact Bool.false_ne_true)
  have hrev : t.reverse ≠ [] := fun e => hne (List.reverse_eq_nil_iff.mp e)
  have hback := hdrop t.reverse [] hrev fun c hc => hlast c (List.head?_reverse ▸ hc)
  rw [List.append_nil] at hback
  unfold strip
  rw [List.append_assoc, List.dropWhile_append_of_pos ha, hdrop t b hne hhead, List.reverse_append,
    List.dropWhile_append_of_pos fun c hc => hb c (List.mem_reverse.mp hc), hback, List.reverse_reverse]

theorem strip_before {w : PyStr} (e : PyStr) (hne : w ≠ []) (hw : ∀ c ∈ w, isSpace c = false) :
    ∃ gap, (∀ c ∈ gap, isSpace c = true) ∧ (gap = [] ↔ strip e = []) ∧
      strip (w ++ 32 :: e) = w ++ gap ++ strip e := by
  have hhead : ∀ (t : PyStr) c, (w ++ t).head? = some c → isSpace c = false := by
    intro t c hc
    obtain ⟨d, w, rfl⟩ := List.exists_cons_of_ne_nil hne
    exact hw c (Option.some.inj hc ▸ List.mem_cons_self)
  have hblank : isSpace (32 : CodePoint) = true := by decide
  obtain ⟨a, b, he, ha, hb, -, hlast⟩ := strip_spec e
  by_cases ht : strip e = []
  · refine ⟨[], fun c hc => absurd hc List.not_mem_nil, iff_of_true rfl ht, ?_⟩
    have hall := (strip_eq_nil_iff e).mp ht
    rw [ht, List.append_nil, List.append_nil]
    refine @strip_wrapped [] w (32 :: e) (fun c hc => absurd hc List.not_mem_nil) (fun c hc => ?_) hne
      (fun c hc => hhead [] c (by rw [List.append_nil]; exact hc)) fun c hc => hw c (List.mem_of_getLast? hc)
    rcases List.mem_cons.mp hc with rfl | hc
    · exact hblank
    · exact hall c hc
  · refine ⟨32 :: a, fun c hc => ?_, iff_of_false (List.cons_ne_nil _ _) ht, ?_⟩
    · rcases List.mem_cons.mp hc with rfl | hc
      · exact hblank
      · exact ha c hc
    · have hsplit : w ++ 32 :: e = [] ++ (w ++ 32 :: a ++ strip e) ++ b := by
        conv_lhs => rw [he]
        simp only [List.nil_append, List.append_assoc, List.cons_append]
      rw [hsplit]
      refine strip_wrapped (fun c hc => absurd hc List.not_mem_nil) hb (fun h => ht (List.append_eq_nil_iff.mp h).2)
        (fun c hc => ?_) fun c hc => ?_
      · rw [List.append_assoc] at hc
        exact hhead _ c hc
      · rw [List.getLast?_append_of_ne_nil _ ht] at hc
        exact hlast c hc

theorem strip_after {w : PyStr} (e : PyStr) (hne : w ≠ []) (hhead : ∀ c, w.head? = some c → isSpace c = false)
    (hlast : ∀ c, w.getLast? = some c → isSpace c = false) :
    (strip e = [] → strip (e ++ 32 :: w) = w) ∧
    (strip e ≠ [] → ∃ gap, gap ≠ [] ∧ (∀ c ∈ gap, isSpace c = true) ∧
      strip (e ++ 32 :: w) = strip e ++ (gap ++ w)) := by
  have hblank : isSpace (32 : CodePoint) = true := by decide
  have hnone : ∀ c ∈ ([] : PyStr), isSpace c = true := fun c hc => absurd hc List.not_mem_nil
  constructor
  · intro ht
    have hall := (strip_eq_nil_iff e).mp ht
    have h := @strip_wrapped (e ++ [32]) w [] (fun c hc => ?_) hnone hne hhead hlast
    · rw [List.append_nil, List.append_assoc] at h
      exact h
    · rcases List.mem_append.mp hc with hc | hc
      · exact hall c hc
      · rw [List.mem_singleton.mp hc]
        exact hblank
  · intro ht
    obtain ⟨a, b, he, ha, hb, hfirst, -⟩ := strip_spec e
    refine ⟨b ++ [32], fun h => List.cons_ne_nil _ _ (List.append_eq_nil_iff.mp h).2, fun c hc => ?_, ?_⟩
    · rcases List.mem_append.mp hc with hc | hc
      · exact hb c hc
      · rw [List.mem_singleton.mp hc]
        exact hblank
    · have hsplit : e ++ 32 :: w = a ++ (strip e ++ (b ++ [32] ++ w)) ++ [] := by
        conv_lhs => rw [he]
        simp only [List.append_nil, List.append_assoc, List.cons_append, List.nil_append]
      rw [hsplit]
      refine strip_wrapped ha hnone (fun h => ht (List.append_eq_nil_iff.mp h).1) (fun c hc => ?_) fun c hc => ?_
      · obtain ⟨d, t, e'⟩ := List.exists_cons_of_ne_nil ht
        rw [e'] at hc hfirst
        exact hfirst c hc
      · rw [List.getLast?_append_of_ne_nil _ fun h => hne (List.append_eq_nil_iff.mp h).2,
          List.getLast?_append_of_ne_nil _ hne] at hc
        exact hlast c hc

end

end Arithmetic
end Tomtit
