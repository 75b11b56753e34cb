import TomtitAgent.Planning.ArithmeticPhrases

/-!
# What the parser makes of an arithmetic request

* `Outcome`              the parser asks, does not calculate, or takes an expression;
* `outcome_alone`, `outcome_tinh`, `outcome_calculate`, `outcome_bangMay`   one for each phrase.
-/

open Py

namespace Tomtit
namespace Arithmetic
open IntentParser

/-! ### the patterns of the phrases -/

theorem calculateVerb_eq : calculateVerb = .seq .lineStart (.lits tinhWord (.seq .boundary .eps)) := by
  unfold calculateVerb
  rw [py_ofList]
  rfl

theorem calculateHead_eq : calculateHead = .seq .lineStart (.lits tinhWord (.seq (.plus [.space]) .eps)) := by
  unfold calculateHead
  rw [py_ofList]
  rfl

theorem calcPrefix_eq : calcPrefix = .seq .lineStart (.lits [99, 97, 108, 99]
    (.seq (.alt (.lits [117, 108, 97, 116, 101] .eps) .eps) (.seq (.plus [.space]) .eps))) := by
  unfold calcPrefix
  rw [py_ofList]
  rfl

/-- `bao\s+nhiêu` -/
def baoNhieu : Re := .lits [98, 97, 111] (.seq (.plus [.space]) (.lits [110, 104, 105, 234, 117] .eps))

/-- `bằng\s+(?:mấy|bao\s+nhiêu)` -/
def bangMayRe : Re := .lits bangWord (.seq (.plus [.space]) (.seq (.alt (.lits mayWord .eps) baoNhieu) .eps))

/-- `là\s+bao\s+nhiêu` -/
def laBaoNhieu : Re := .lits [108, 224] (.seq (.plus [.space]) baoNhieu)

/-- `\s*\??\s*$` -/
def suffixEnd : Re := .seq (.star true (.one false [.space])) (.seq (.alt (.one false [.char 63]) .eps)
  (.seq (.star true (.one false [.space])) (.seq .lineEnd .eps)))

theorem vietMathSuffix_eq : vietMathSuffix =
    .seq (.plus [.space]) (.seq (.alt bangMayRe laBaoNhieu) suffixEnd) := by
  unfold vietMathSuffix
  rw [py_ofList]
  rfl

def arithItems : List ClassItem := [.range 48 57, .space, .char 46, .char 40, .char 41, .char 43, .char 45, .char 42,
  .char 47, .char 37, .char 61, .char 120, .char 88, .char 215, .char 63]

theorem arithOnly_eq : arithOnly = .seq .lineStart (.seq (.one false [.range 48 57, .char 40])
    (.seq (.star true (.one false arithItems)) (.seq .lineEnd .eps))) := by
  unfold arithOnly
  rw [py_ofList]
  rfl

section
variable {tb : ArithTables} {e : PyStr}

theorem classTest_arith {c : CodePoint} (h : arithChar c = true) :
    classTest (exact tb.toReTables) false arithItems c = true := by
  have hdigit : isDigit c = true ↔ 48 ≤ c.val ∧ c.val ≤ 57 := by
    unfold isDigit
    rw [Bool.and_eq_true, decide_eq_true_eq, decide_eq_true_eq]
  unfold arithChar numeric at h
  unfold classTest arithItems
  simp only [List.any_cons, List.any_nil, Bool.or_false, Bool.bne_false, ClassItem.accepts, exact,
    Bool.false_eq_true, ↓reduceIte, Bool.false_and, Bool.or_eq_true, Bool.and_eq_true, decide_eq_true_eq] at h ⊢
  rcases h with ((((((((h | h) | h) | h) | h) | h) | h) | h) | h) | h
  · exact .inl (hdigit.mp h)
  all_goals simp [h]

theorem classTest_start (c : CodePoint) :
    classTest (exact tb.toReTables) false [.range 48 57, .char 40] c = opens c := by
  unfold classTest opens isDigit
  simp only [List.any_cons, List.any_nil, Bool.or_false, Bool.bne_false, ClassItem.accepts, exact,
    Bool.false_eq_true, ↓reduceIte, Bool.false_and]
  rfl

theorem arithOnly_none {c : CodePoint} {t : PyStr} (hc : opens c = false) :
    arithOnly.matchStart (exact tb.toReTables) (c :: t) = none := by
  have hnil : (Re.one false [.range 48 57, .char 40]).runs (exact tb.toReTables) ⟨[], c :: t, []⟩ = [] :=
    runs_one_nil fun d u e' => by rw [classTest_start, ← (List.cons.inj e').1, hc]
  have hruns : (Re.seq .lineStart (.seq (.one false [.range 48 57, .char 40])
      (.seq (.star true (.one false arithItems)) (.seq .lineEnd .eps)))).runs (exact tb.toReTables)
      ⟨[], c :: t, []⟩ = [] := by
    show (((Re.one false [.range 48 57, .char 40]).runs (exact tb.toReTables) ⟨[], c :: t, []⟩).flatMap _) ++ [] = []
    rw [hnil]
    rfl
  rw [arithOnly_eq]
  unfold Re.matchStart
  rw [hruns]
  rfl

theorem arithOnly_match {s : PyStr} (hs : ArithText s) :
    (arithOnly.matchStart (exact tb.toReTables) s).isSome = s.head?.any opens := by
  rw [arithOnly_eq]
  cases s with
  | nil => rfl
  | cons c t =>
    cases hc : opens c with
    | false =>
      rw [← arithOnly_eq, arithOnly_none hc]
      exact hc.symm
    | true =>
      have hone : Re.First (exact tb.toReTables) (.one false [.range 48 57, .char 40]) ⟨[], c :: t, []⟩ ⟨[c], t, []⟩ :=
        Re.First.one rfl ((classTest_start c).trans hc)
      have hstar := @Re.First.starRun (exact tb.toReTables) arithItems t [] [c] []
        (fun d hd => classTest_arith (hs d (List.mem_cons_of_mem c hd))) fun d u h => absurd h.symm (List.cons_ne_nil d u)
      rw [List.append_nil] at hstar
      have hall := Re.First.lineStart.seq (hone.seq (hstar.seq (Re.First.lineEnd.seq Re.First.eps)))
      rw [hall.matchStart]
      exact hc.symm

/-! ### one phrase after the other -/

theorem arith_strip (he : ArithText e) : ArithText (strip e) := by
  obtain ⟨a, b, hsplit, -⟩ := strip_spec e
  intro c hc
  refine he c ?_
  rw [hsplit]
  exact List.mem_append_left b (List.mem_append_right a hc)

theorem extractExpr_arith (he : ArithText e) : extractExpr tb.toReTables (strip e) = expressionOf e := by
  have hs := arith_strip he
  rw [extractExpr_eq (fun c hc => isDecimal_arith (hs c hc))
    (fun c hc => hs c ((List.dropWhile_suffix _).mem hc)) (strip_strip e), expressionOf_strip]

/-- The parser calculates what `_extract_expr` takes from the expression. -/
def Calculates (tb : ArithTables) (text e : PyStr) : Prop :=
  (parse tb.toReTables text).intent = .calculate ∧ (parse tb.toReTables text).expression = expressionOf e

theorem confined_arith (he : ArithText e) (hpairs : ∀ p ∈ bangMayPairs, p ∈ letterPairs) :
    Confined (anyCase tb.toReTables) (among bangMayPairs) (strip e) :=
  confined_among hpairs fun c hc => .inl (arith_strip he c hc)

theorem letters_of_all {pairs : List (CodePoint × CodePoint)}
    (h : pairs.all (fun p => decide (p ∈ letterPairs)) = true) : ∀ p ∈ pairs, p ∈ letterPairs :=
  fun p hp => of_decide_eq_true (List.all_eq_true.mp h p hp)

theorem bangMayPairs_letters : ∀ p ∈ bangMayPairs, p ∈ letterPairs := letters_of_all rfl
theorem calculatePairs_letters : ∀ p ∈ calculatePairs, p ∈ letterPairs := letters_of_all rfl
theorem tinhPairs_letters : ∀ p ∈ tinhPairs, p ∈ letterPairs := letters_of_all rfl
theorem mayPairs_letters : ∀ p ∈ mayPairs, p ∈ letterPairs := letters_of_all rfl

theorem calcPrefix_stops : calcPrefix.stops (among bangMayPairs) = true := by
  rw [calcPrefix_eq]
  rfl

theorem calcPrefix_unspaced : calcPrefix.stops unspaced = true := by
  rw [calcPrefix_eq]
  rfl

theorem vietMathSuffix_stops : vietMathSuffix.stops (among mayPairs) = true := by
  rw [vietMathSuffix_eq]
  rfl

theorem parseAsCalculate_spec (original exprText : PyStr) :
    (parseAsCalculate tb.toReTables original exprText).intent = .calculate ∧
    (parseAsCalculate tb.toReTables original exprText).expression = extractExpr tb.toReTables exprText := by
  unfold parseAsCalculate rule
  dsimp only
  exact ⟨rfl, rfl⟩

/-- An expression alone is calculated when it opens with a digit or `(`. -/
theorem outcome_alone (he : ArithText e) :
    if (strip e).head?.any opens then Calculates tb e e else (parse tb.toReTables e).intent ≠ .calculate := by
  have hs := arith_strip he
  have hmay : Confined (anyCase tb.toReTables) (among mayPairs) (strip e) :=
    confined_among mayPairs_letters fun c hc => .inl (hs c hc)
  have hparse : parse tb.toReTables e = if (strip e).head?.any opens then
      parseAsCalculate tb.toReTables (strip e) (strip e) else rule .unknown confidence0 (strip e) := by
    rw [parse_quiet (confined_arith he bangMayPairs_letters) bangMayPairs_stop]
    unfold parseArithmetic found
    rw [matchStart_none calcPrefix_stops (confined_arith he bangMayPairs_letters),
      search_none vietMathSuffix_stops hmay, arithOnly_match hs, normalizeArith_eq hs, strip_strip]
    simp only [Option.isSome_none, Bool.false_eq_true, ↓reduceIte]
  split
  · next hopen =>
    unfold Calculates
    rw [hparse, if_pos hopen, (parseAsCalculate_spec _ _).1, (parseAsCalculate_spec _ _).2, extractExpr_arith he]
    exact ⟨rfl, rfl⟩
  · next hopen =>
    rw [hparse, if_neg hopen]
    unfold rule
    exact fun h => IntentName.noConfusion h

theorem saveSuffix_stops : saveSuffix.stops (among tinhPairs) = true := by
  unfold saveSuffix
  rw [py_ofList]
  rfl

theorem calculateHead_unspaced : calculateHead.stops unspaced = true := by
  rw [calculateHead_eq]
  rfl

theorem solid_of_all {w : PyStr} (h : w.all (fun c => !isSpace c) = true) : ∀ c ∈ w, isSpace c = false :=
  fun c hc => (Bool.not_eq_true' _).mp (List.all_eq_true.mp h c hc)

theorem tinhWord_solid : ∀ c ∈ tinhWord, isSpace c = false := solid_of_all rfl
theorem calculateWord_solid : ∀ c ∈ calculateWord, isSpace c = false := solid_of_all rfl

theorem conversation_tinh : ∀ re ∈ conversationCues, re.stops (among tinhPairs) = true := by
  intro re hre
  have h := List.all_eq_true.mp cues_stop.1 re hre
  rw [Bool.and_eq_true, Bool.and_eq_true] at h
  exact h.1.1

theorem mem_phrase {pairs : List (CodePoint × CodePoint)} {w gap t : PyStr}
    (hw : ∀ c ∈ w, ∃ p ∈ pairs, c = p.1 ∨ c = p.2) (hgap : ∀ c ∈ gap, isSpace c = true) (ht : ArithText t) :
    ∀ c ∈ w ++ gap ++ t, arithChar c = true ∨ ∃ p ∈ pairs, c = p.1 ∨ c = p.2 := by
  intro c hc
  rcases List.mem_append.mp hc with hc | hc
  · rcases List.mem_append.mp hc with hc | hc
    · exact .inr (hw c hc)
    · refine .inl ?_
      unfold arithChar
      rw [hgap c hc, Bool.or_true]
  · exact .inl (ht c hc)

theorem word_letters {pairs : List (CodePoint × CodePoint)} {w : PyStr}
    (h : w.all (fun c => pairs.any fun p => c = p.1 || c = p.2) = true) :
    ∀ c ∈ w, ∃ p ∈ pairs, c = p.1 ∨ c = p.2 := by
  intro c hc
  obtain ⟨p, hp, hletter⟩ := List.any_eq_true.mp (List.all_eq_true.mp h c hc)
  rw [Bool.or_eq_true, decide_eq_true_eq, decide_eq_true_eq] at hletter
  exact ⟨p, hp, hletter⟩

theorem tinhWord_letters : ∀ c ∈ tinhWord, ∃ p ∈ tinhPairs, c = p.1 ∨ c = p.2 := word_letters rfl
theorem calculateWord_letters : ∀ c ∈ calculateWord, ∃ p ∈ calculatePairs, c = p.1 ∨ c = p.2 :=
  word_letters rfl
theorem bangMayWord_letters : ∀ c ∈ bangWord ++ mayWord, ∃ p ∈ bangMayPairs, c = p.1 ∨ c = p.2 :=
  word_letters rfl

theorem boundary_before {m : Mode} (hm : m.tables = tb.toReTables) {c : CodePoint} {before rest : PyStr}
    (hc : c.val < 128) (hword : (isAlnum c || c = 95) = true)
    (hrest : ∀ d t, rest = d :: t → isSpace d = true) : At.isBoundary m ⟨c :: before, rest, []⟩ = true := by
  have hleft : m.tables.isWord c = true := by
    rw [hm]
    exact (tb.word_ascii c hc).trans hword
  have hright : rest.head?.any m.tables.isWord = false := by
    cases rest with
    | nil => rfl
    | cons d t =>
      show m.tables.isWord d = false
      rw [hm]
      exact tb.word_space d (hrest d t rfl)
  unfold At.isBoundary
  dsimp only
  rw [hright]
  show (m.tables.isWord c != false) = true
  rw [hleft]
  rfl

theorem head_of_gap {gap t : PyStr} (hgap : ∀ c ∈ gap, isSpace c = true) (h : gap = [] ↔ t = []) :
    ∀ d u, gap ++ t = d :: u → isSpace d = true := by
  intro d u e
  cases gap with
  | nil =>
    rw [h.mp rfl] at e
    exact absurd e.symm (List.cons_ne_nil d u)
  | cons g gap =>
    rw [← (List.cons.inj e).1]
    exact hgap g List.mem_cons_self

theorem removeAll_word {re rest : Re} {w gap t : PyStr} (hre : re = .seq .lineStart rest)
    (hfirst : ∀ before s, (∀ c u, s = c :: u → isSpace c = false) → gap ≠ [] →
      rest.First (anyCase tb.toReTables) ⟨before, w ++ (gap ++ s), []⟩ ⟨(w ++ gap).reverse ++ before, s, []⟩)
    (hw : w ≠ []) (hgap : gap ≠ []) (ht : ∀ c, t.head? = some c → isSpace c = false) :
    re.removeAll (anyCase tb.toReTables) (w ++ gap ++ t) = t := by
  rw [hre]
  refine removeAll_head rfl (fun h => hw (List.append_eq_nil_iff.mp h).1) (Re.First.lineStart.seq ?_)
  have h := hfirst [] t (fun c u e => ht c (by rw [e]; rfl)) hgap
  rw [List.append_nil] at h
  rw [List.append_assoc]
  exact h

theorem spaces_first {gap s before : PyStr} (hgap : ∀ c ∈ gap, isSpace c = true) (hne : gap ≠ [])
    (hs : ∀ c u, s = c :: u → isSpace c = false) : (Re.seq (.plus [.space]) .eps).First (anyCase tb.toReTables)
      ⟨before, gap ++ s, []⟩ ⟨gap.reverse ++ before, s, []⟩ := by
  refine Re.First.seq (Re.First.plus hne (fun c hc => ?_) fun c u e => ?_) Re.First.eps
  · rw [classTest_space]
    exact hgap c hc
  · rw [classTest_space]
    exact hs c u e

theorem tinh_eq (e : PyStr) : Phrase.text e .tinh = tinhWord ++ 32 :: e := by
  unfold Phrase.text
  rw [py_ofList]
  rfl

theorem expressionOf_blank (h : strip e = []) : expressionOf e = none := by
  rw [← expressionOf_strip, h]
  rfl

theorem extractExpr_tinhWord : extractExpr tb.toReTables tinhWord = none := by
  have hdec : ∀ c ∈ tinhWord, tb.isDecimal c = isDigit c := by
    intro c hc
    obtain ⟨p, hp, hletter⟩ := tinhWord_letters c hc
    have hno := tb.decimal_letter p (tinhPairs_letters p hp)
    have hdigit : isDigit c = false := by
      have hall : tinhWord.all (fun c => !isDigit c) = true := rfl
      exact (Bool.not_eq_true' _).mp (List.all_eq_true.mp hall c hc)
    rw [hdigit]
    rcases hletter with rfl | rfl
    · exact hno.1
    · exact hno.2
  have hopened : opened tinhWord = [] := rfl
  rw [extractExpr_eq hdec (by rw [hopened]; exact fun c hc => absurd hc List.not_mem_nil)
    (strip_of_no_space tinhWord_solid)]
  unfold expressionOf calculated
  rw [hopened]
  rfl

/-- After `Tính` every expression is calculated. -/
theorem outcome_tinh (he : ArithText e) : Calculates tb (Phrase.text e .tinh) e := by
  obtain ⟨gap, hgap, hnil, hstrip⟩ := @strip_before tinhWord e (List.cons_ne_nil _ _) tinhWord_solid
  have hchars := mem_phrase tinhWord_letters hgap (arith_strip he)
  have hconf := @confined_among tb tinhPairs _ tinhPairs_letters hchars
  have hverb : (calculateVerb.matchStart (anyCase tb.toReTables) (tinhWord ++ gap ++ strip e)).isSome = true := by
    have hfirst : calculateVerb.First (anyCase tb.toReTables) ⟨[], tinhWord ++ (gap ++ strip e), []⟩
        ⟨tinhWord.reverse ++ [], gap ++ strip e, []⟩ := by
      rw [calculateVerb_eq]
      refine Re.First.lineStart.seq (Re.First.lits tinhWord (Re.First.seq (Re.First.boundary ?_) Re.First.eps))
      exact boundary_before rfl (by decide) (by decide) (head_of_gap hgap hnil)
    rw [List.append_assoc, hfirst.matchStart]
    rfl
  have hparse : parse tb.toReTables (Phrase.text e .tinh) = parseCalculate tb.toReTables (tinhWord ++ gap ++ strip e) := by
    refine parse_of_verb ?_ ?_
    · rw [tinh_eq, hstrip]
      exact quiet_conversation hconf conversation_tinh
    · rw [tinh_eq, hstrip]
      unfold parseVerb
      rw [hverb, if_pos rfl]
  have hrest : extractExpr tb.toReTables (calculateHead.removeAll (anyCase tb.toReTables) (tinhWord ++ gap ++ strip e)) =
      expressionOf e ∧ splitSave tb.toReTables
        (calculateHead.removeAll (anyCase tb.toReTables) (tinhWord ++ gap ++ strip e)) = none := by
    have hsave : ∀ s : PyStr, Confined (anyCase tb.toReTables) (among tinhPairs) s →
        splitSave tb.toReTables s = none := by
      intro s hs
      unfold splitSave
      rw [search_none saveSuffix_stops hs]
      rfl
    by_cases ht : strip e = []
    · rw [hnil.mpr ht, ht, List.append_nil, List.append_nil] at hconf ⊢
      have hkeep : calculateHead.removeAll (anyCase tb.toReTables) tinhWord = tinhWord :=
        removeAll_none fun u v hsplit _ => runs_stops calculateHead_unspaced (confined_unspaced fun c hc =>
          tinhWord_solid c (hsplit ▸ List.mem_append_right u hc))
      rw [hkeep, extractExpr_tinhWord, expressionOf_blank ht]
      exact ⟨rfl, hsave tinhWord hconf⟩
    · have hne : gap ≠ [] := fun h => ht (hnil.mp h)
      obtain ⟨_, _, _, _, _, hhead, _⟩ := strip_spec e
      have hremove : calculateHead.removeAll (anyCase tb.toReTables) (tinhWord ++ gap ++ strip e) = strip e := by
        refine removeAll_word calculateHead_eq (fun before s hs hgne => ?_) (List.cons_ne_nil _ _) hne hhead
        rw [List.reverse_append, List.append_assoc]
        exact Re.First.lits tinhWord (spaces_first hgap hgne hs)
      rw [hremove, extractExpr_arith he]
      exact ⟨rfl, hsave _ hconf.suffix⟩
  unfold Calculates
  rw [hparse]
  unfold parseCalculate
  dsimp only
  rw [hrest.2]
  dsimp only [rule]
  exact ⟨rfl, hrest.1⟩

theorem calculates_of_parse {text original : PyStr} (he : ArithText e)
    (h : parse tb.toReTables text = parseAsCalculate tb.toReTables original (strip e)) : Calculates tb text e := by
  unfold Calculates
  rw [h, (parseAsCalculate_spec _ _).1, (parseAsCalculate_spec _ _).2, extractExpr_arith he]
  exact ⟨rfl, rfl⟩

theorem unknown_not_calculate (text : PyStr) : (rule .unknown confidence0 text).intent ≠ .calculate := by
  unfold rule
  exact fun h => IntentName.noConfusion h

/-! ### `calculate e` -/

theorem calculate_eq (e : PyStr) : Phrase.text e .calculate = calculateWord ++ 32 :: e := by
  unfold Phrase.text
  rw [py_ofList]
  rfl

theorem vietMathSuffix_unspaced : vietMathSuffix.stops unspaced = true := by
  rw [vietMathSuffix_eq]
  rfl

theorem calcPrefix_first {gap s before : PyStr} (hgap : ∀ c ∈ gap, isSpace c = true) (hne : gap ≠ [])
    (hs : ∀ c u, s = c :: u → isSpace c = false) :
    (Re.lits [99, 97, 108, 99] (.seq (.alt (.lits [117, 108, 97, 116, 101] .eps) .eps)
      (.seq (.plus [.space]) .eps))).First (anyCase tb.toReTables) ⟨before, calculateWord ++ (gap ++ s), []⟩
      ⟨(calculateWord ++ gap).reverse ++ before, s, []⟩ := by
  have hlate : (Re.alt (.lits [117, 108, 97, 116, 101] .eps) .eps).First (anyCase tb.toReTables)
      ⟨[99, 108, 97, 99] ++ before, [117, 108, 97, 116, 101] ++ (gap ++ s), []⟩
      ⟨calculateWord.reverse ++ before, gap ++ s, []⟩ :=
    Re.First.altLeft (Re.First.lits [117, 108, 97, 116, 101] Re.First.eps)
  have hspaces := @spaces_first tb gap s (calculateWord.reverse ++ before) hgap hne hs
  rw [List.reverse_append, List.append_assoc]
  exact Re.First.lits [99, 97, 108, 99] (hlate.seq hspaces)

/-- After `calculate` every expression is calculated. -/
theorem outcome_calculate (he : ArithText e) :
    if strip e = [] then (parse tb.toReTables (Phrase.text e .calculate)).intent ≠ .calculate
    else Calculates tb (Phrase.text e .calculate) e := by
  obtain ⟨gap, hgap, hnil, hstrip⟩ := @strip_before calculateWord e (List.cons_ne_nil _ _) calculateWord_solid
  have hs := arith_strip he
  have hconf := @confined_among tb calculatePairs _ calculatePairs_letters
    (mem_phrase calculateWord_letters hgap hs)
  have hparse : parse tb.toReTables (Phrase.text e .calculate) =
      parseArithmetic tb.toReTables (calculateWord ++ gap ++ strip e) := by
    rw [calculate_eq, ← hstrip]
    rw [← hstrip] at hconf
    exact parse_quiet hconf calculatePairs_stop
  split
  · next ht =>
    rw [hparse, hnil.mpr ht, ht, List.append_nil, List.append_nil]
    have hsolid : ∀ {m}, Confined m unspaced calculateWord := confined_unspaced calculateWord_solid
    have hno : arithOnly.matchStart (exact tb.toReTables) calculateWord = none := arithOnly_none rfl
    unfold parseArithmetic found
    rw [matchStart_none calcPrefix_unspaced hsolid, search_none vietMathSuffix_unspaced hsolid, hno]
    simp only [Option.isSome_none, Bool.false_eq_true, ↓reduceIte]
    exact unknown_not_calculate _
  · next ht =>
    have hne : gap ≠ [] := fun h => ht (hnil.mp h)
    obtain ⟨_, _, _, _, _, hhead, _⟩ := strip_spec e
    have hsolid : ∀ c u, strip e = c :: u → isSpace c = false := fun c u h => hhead c (by rw [h]; rfl)
    have hcalc : (calcPrefix.matchStart (anyCase tb.toReTables) (calculateWord ++ gap ++ strip e)).isSome = true := by
      have hfirst := Re.First.lineStart.seq (@calcPrefix_first tb gap (strip e) [] hgap hne hsolid)
      rw [← calcPrefix_eq] at hfirst
      rw [List.append_assoc, hfirst.matchStart]
      rfl
    have hremove : calcPrefix.removeAll (anyCase tb.toReTables) (calculateWord ++ gap ++ strip e) = strip e :=
      removeAll_word calcPrefix_eq (fun before s hs' hgne => calcPrefix_first hgap hgne hs') (List.cons_ne_nil _ _)
        hne hhead
    refine @calculates_of_parse tb e _ (calculateWord ++ gap ++ strip e) he (hparse.trans ?_)
    unfold parseArithmetic
    rw [hcalc, if_pos rfl, hremove, normalizeArith_eq hs, strip_strip]

/-! ### `e bằng mấy` -/

theorem bangMay_eq (e : PyStr) : Phrase.text e .bangMay = e ++ 32 :: bangMayWord := by
  unfold Phrase.text
  rw [py_ofList]
  rfl

theorem mem_of_blanks {u v r s : PyStr} {c : CodePoint} (hu : ∀ d ∈ u, isSpace d = true)
    (hv : ∃ d ∈ v, isSpace d = false) (h : u ++ c :: s = v ++ r) : c ∈ v := by
  induction u generalizing v with
  | nil =>
    obtain ⟨d, hd, -⟩ := hv
    obtain ⟨x, v, rfl⟩ := List.exists_cons_of_ne_nil (List.ne_nil_of_mem hd)
    rw [(List.cons.inj h).1]
    exact List.mem_cons_self
  | cons b u ih =>
    obtain ⟨d, hd, hdspace⟩ := hv
    obtain ⟨x, v, rfl⟩ := List.exists_cons_of_ne_nil (List.ne_nil_of_mem hd)
    obtain ⟨rfl, htail⟩ := List.cons.inj h
    refine List.mem_cons_of_mem b (ih (fun d hd => hu d (List.mem_cons_of_mem b hd)) ⟨d, ?_, hdspace⟩ htail)
    rcases List.mem_cons.mp hd with rfl | hd
    · rw [hu d List.mem_cons_self] at hdspace
      exact Bool.noConfusion hdspace
    · exact hd

theorem vietMathSuffix_inside {before v r : PyStr} (hv : ArithText v) (hlast : ∃ d ∈ v, isSpace d = false) :
    vietMathSuffix.runs (anyCase tb.toReTables) ⟨before, v ++ r, []⟩ = [] := by
  rw [List.eq_nil_iff_forall_not_mem]
  intro q hq
  rw [vietMathSuffix_eq] at hq
  obtain ⟨w, hw, u, w', rfl, hu, x, y, rfl, hx, -⟩ := runs_lang _ _ q hq
  have hblank : ∀ d ∈ u, isSpace d = true := by
    intro d hd
    have h := (plus_lang hu).2 d hd
    rw [List.any_cons, List.any_nil, Bool.or_false] at h
    exact h
  -- the word after the blanks starts with `b` or `l`
  have hfirst : ∃ c z, x = c :: z ∧ arithChar c = false := by
    have hletter : ∀ (p : CodePoint × CodePoint) (next : Re), p ∈ letterPairs → arithChar p.1 = false →
        (Re.seq (.one false [.char p.1]) next).Lang (anyCase tb.toReTables) x →
        ∃ c z, x = c :: z ∧ arithChar c = false := by
      rintro p next hp hno ⟨a, z, rfl, ⟨c, rfl, hc⟩, -⟩
      refine ⟨c, z, rfl, ?_⟩
      rw [List.any_cons, List.any_nil, Bool.or_false, Bool.bne_false] at hc
      have hfold : tb.fold c = tb.fold p.1 := by
        unfold ClassItem.accepts anyCase at hc
        exact of_decide_eq_true hc
      cases harith : arithChar c with
      | false => rfl
      | true =>
        rw [tb.fold_symbol c p.1 harith hfold, hno] at harith
        exact Bool.noConfusion harith
    rcases hx with hx | hx
    · exact hletter (98, 66) _ (bangMayPairs_letters _ List.mem_cons_self) rfl hx
    · exact hletter (108, 76) _ (calculatePairs_letters _ (.tail _ (.tail _ (.head _)))) rfl hx
  obtain ⟨c, z, rfl, hc⟩ := hfirst
  have hsplit : u ++ c :: (z ++ y ++ q.rest) = v ++ r := by
    have h : v ++ r = u ++ (c :: z ++ y) ++ q.rest := hw.1
    rw [h, List.append_assoc, List.append_assoc, List.append_assoc]
    rfl
  have hmem := mem_of_blanks hblank hlast hsplit
  rw [hv c hmem] at hc
  exact Bool.noConfusion hc

theorem vietMathSuffix_first {gap before : PyStr} (hgap : ∀ c ∈ gap, isSpace c = true) (hne : gap ≠ []) :
    ∃ q, vietMathSuffix.First (anyCase tb.toReTables) ⟨before, gap ++ bangMayWord, []⟩ q ∧ q.rest = [] := by
  have hspaces : ∀ {b s u : PyStr}, (∀ c ∈ u, isSpace c = true) → u ≠ [] → (∀ c t, s = c :: t → isSpace c = false) →
      (Re.plus [.space]).First (anyCase tb.toReTables) ⟨b, u ++ s, []⟩ ⟨u.reverse ++ b, s, []⟩ := by
    intro b s u hu hne' hs
    refine Re.First.plus hne' (fun c hc => ?_) fun c t h => ?_
    · rw [classTest_space]
      exact hu c hc
    · rw [classTest_space]
      exact hs c t h
  have hnone : ∀ b : PyStr, (Re.star true (.one false [.space])).First (anyCase tb.toReTables) ⟨b, [], []⟩ ⟨b, [], []⟩ :=
    fun b => Re.First.star _
  have hmark : ∀ b : PyStr, (Re.alt (.one false [.char 63]) .eps).First (anyCase tb.toReTables) ⟨b, [], []⟩ ⟨b, [], []⟩ :=
    fun b => Re.First.altRight rfl Re.First.eps
  have hend : ∀ b : PyStr, suffixEnd.First (anyCase tb.toReTables) ⟨b, [], []⟩ ⟨b, [], []⟩ := fun b =>
    (hnone b).seq ((hmark b).seq ((hnone b).seq (Re.First.lineEnd.seq Re.First.eps)))
  have hmay : ∀ b : PyStr, (Re.seq (.alt (.lits mayWord .eps) baoNhieu) .eps).First (anyCase tb.toReTables)
      ⟨b, mayWord ++ [], []⟩ ⟨mayWord.reverse ++ b, [], []⟩ := fun b =>
    (Re.First.altLeft (Re.First.lits mayWord Re.First.eps)).seq Re.First.eps
  have hone : ∀ b : PyStr, (Re.plus [.space]).First (anyCase tb.toReTables) ⟨b, [32] ++ (mayWord ++ []), []⟩
      ⟨[32].reverse ++ b, mayWord ++ [], []⟩ := by
    refine fun b => hspaces (fun c hc => ?_) (List.cons_ne_nil _ _) fun c t h => ?_
    · rw [List.mem_singleton.mp hc]
      rfl
    · rw [← (List.cons.inj h).1]
      rfl
  have hbang : ∀ b : PyStr, bangMayRe.First (anyCase tb.toReTables) ⟨b, bangWord ++ ([32] ++ (mayWord ++ [])), []⟩
      ⟨mayWord.reverse ++ ([32].reverse ++ (bangWord.reverse ++ b)), [], []⟩ := fun b =>
    Re.First.lits bangWord ((hone _).seq (hmay _))
  have hgapfirst := @hspaces before bangMayWord gap hgap hne fun c t h => by
    rw [← (List.cons.inj h).1]
    rfl
  rw [vietMathSuffix_eq]
  exact ⟨_, hgapfirst.seq ((Re.First.altLeft (hbang _)).seq (hend _)), rfl⟩

theorem confined_bangMay {gap t : PyStr} (hgap : ∀ c ∈ gap, isSpace c = true) (ht : ArithText t) :
    Confined (anyCase tb.toReTables) (among bangMayPairs) (t ++ (gap ++ bangMayWord)) := by
  refine confined_among bangMayPairs_letters fun c hc => ?_
  rcases List.mem_append.mp hc with hc | hc
  · exact .inl (ht c hc)
  · rcases List.mem_append.mp hc with hc | hc
    · refine .inl ?_
      unfold arithChar
      rw [hgap c hc, Bool.or_true]
    · rcases List.mem_append.mp hc with hc | hc
      · exact .inr (bangMayWord_letters c (List.mem_append_left _ hc))
      · rcases List.mem_cons.mp hc with rfl | hc
        · exact .inl rfl
        · exact .inr (bangMayWord_letters c (List.mem_append_right _ hc))

theorem bangWord_solid : ∀ c ∈ bangWord, isSpace c = false := solid_of_all rfl

theorem vietMathSuffix_alone : found (anyCase tb.toReTables) vietMathSuffix bangMayWord = false := by
  have hskip := @searchFrom_skip (anyCase tb.toReTables) vietMathSuffix (32 :: mayWord) bangWord [] fun u v h hv => by
    obtain ⟨c, v, rfl⟩ := List.exists_cons_of_ne_nil hv
    rw [vietMathSuffix_eq]
    refine runs_plus_nil fun d t h' => ?_
    rw [classTest_space, ← (List.cons.inj h').1]
    exact bangWord_solid c (h ▸ List.mem_append_right u List.mem_cons_self)
  have hconf : Confined (anyCase tb.toReTables) (among mayPairs) (32 :: mayWord) := by
    refine confined_among mayPairs_letters fun c hc => ?_
    rcases List.mem_cons.mp hc with rfl | hc
    · exact .inl rfl
    · exact .inr (@word_letters mayPairs mayWord rfl c hc)
  unfold found Re.search bangMayWord
  rw [hskip, searchFrom_none vietMathSuffix_stops hconf]
  rfl

/-- Before `bằng mấy` every expression is calculated. -/
theorem outcome_bangMay (he : ArithText e) :
    if strip e = [] then (parse tb.toReTables (Phrase.text e .bangMay)).intent ≠ .calculate
    else Calculates tb (Phrase.text e .bangMay) e := by
  have hs := arith_strip he
  have hedges : (∀ c, bangMayWord.head? = some c → isSpace c = false) ∧
      ∀ c, bangMayWord.getLast? = some c → isSpace c = false :=
    ⟨fun c hc => Option.some.inj hc ▸ rfl, fun c hc => Option.some.inj hc ▸ rfl⟩
  obtain ⟨hblank, hsome⟩ := @strip_after bangMayWord e (List.cons_ne_nil _ _) hedges.1 hedges.2
  have hparse : ∀ {gap}, (∀ c ∈ gap, isSpace c = true) →
      strip (e ++ 32 :: bangMayWord) = strip e ++ (gap ++ bangMayWord) →
      parse tb.toReTables (Phrase.text e .bangMay) =
        parseArithmetic tb.toReTables (strip e ++ (gap ++ bangMayWord)) := by
    intro gap hgap hstrip
    have hconf := @confined_bangMay tb gap (strip e) hgap hs
    rw [bangMay_eq, ← hstrip]
    rw [← hstrip] at hconf
    exact parse_quiet hconf bangMayPairs_stop
  have hnone : ∀ c ∈ ([] : PyStr), isSpace c = true := fun c hc => absurd hc List.not_mem_nil
  split
  · next ht =>
    have hno : arithOnly.matchStart (exact tb.toReTables) bangMayWord = none := arithOnly_none rfl
    have hconf := @confined_bangMay tb [] [] hnone fun c hc => absurd hc List.not_mem_nil
    rw [hparse hnone (by rw [ht]; exact hblank ht), ht, List.nil_append, List.nil_append]
    rw [List.nil_append, List.nil_append] at hconf
    unfold parseArithmetic
    rw [matchStart_none calcPrefix_stops hconf, vietMathSuffix_alone, hno]
    simp only [Option.isSome_none, Bool.false_eq_true, ↓reduceIte]
    exact unknown_not_calculate _
  · next ht =>
    obtain ⟨gap, hne, hgap, hstrip⟩ := hsome ht
    obtain ⟨_, _, _, _, _, _, hlast⟩ := strip_spec e
    obtain ⟨q, hq, hqrest⟩ := @vietMathSuffix_first tb gap ((strip e).reverse ++ []) hgap hne
    have hinside : ∀ u v, strip e = u ++ v → v ≠ [] →
        vietMathSuffix.runs (anyCase tb.toReTables) ⟨u.reverse ++ [], v ++ (gap ++ bangMayWord), []⟩ = [] := by
      intro u v hsplit hv
      refine vietMathSuffix_inside (fun c hc => hs c (hsplit ▸ List.mem_append_right u hc))
        ⟨v.getLast hv, List.getLast_mem hv, hlast _ ?_⟩
      rw [hsplit, List.getLast?_append_of_ne_nil u hv]
      exact List.getLast?_eq_some_getLast hv
    have hfound : found (anyCase tb.toReTables) vietMathSuffix (strip e ++ (gap ++ bangMayWord)) = true := by
      unfold found Re.search
      rw [searchFrom_skip (strip e) [] hinside, Re.searchFrom.eq_def]
      dsimp only
      rw [show (vietMathSuffix.runs (anyCase tb.toReTables) _).head? = some q from hq]
      rfl
    have hremove : vietMathSuffix.removeAll (anyCase tb.toReTables) (strip e ++ (gap ++ bangMayWord)) = strip e := by
      have hlen : 0 < (gap ++ bangMayWord).length := by
        rw [List.length_append]
        exact Nat.add_pos_left (List.length_pos_iff.mpr hne) _
      obtain ⟨n, hn⟩ : ∃ n, (gap ++ bangMayWord).length = n + 1 := ⟨_, (Nat.succ_pred_eq_of_pos hlen).symm⟩
      unfold Re.removeAll
      rw [List.length_append, removeFrom_skip (strip e) [] _ hinside, hn,
        removeFrom_match hq (by rw [hqrest]; exact hlen), hqrest, removeFrom_nil, List.append_nil]
    refine @calculates_of_parse tb e _ (strip e ++ (gap ++ bangMayWord)) he ((hparse hgap hstrip).trans ?_)
    unfold parseArithmetic
    rw [matchStart_none calcPrefix_stops (confined_bangMay hgap hs), hfound, hremove, strip_strip,
      normalizeArith_eq hs, strip_strip]
    simp only [Option.isSome_none, Bool.false_eq_true, ↓reduceIte]

end

end Arithmetic
end Tomtit
