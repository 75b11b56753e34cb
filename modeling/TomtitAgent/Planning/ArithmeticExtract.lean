import TomtitAgent.Planning.IntentParser
import TomtitAgent.Planning.ArithmeticTokens
import TomtitAgent.Python.RegexSearch
import TomtitAgent.Python.Text

/-!
# What `_extract_expr` takes from an arithmetic text

* `ArithTables`      what the tables of the interpreter say of arithmetic characters and of the letters
                     of the phrases;
* `spaces_removeAll`, `mathExpr_search`   the two patterns of `_extract_expr`;
* `calculated`       the piece it takes: from the first digit or `(` to the next `%`;
* `extractExpr_eq`   the expression is that piece without its blanks, if it has a digit;
* `normalizeArith_eq`   `_normalize_arith` leaves a stripped arithmetic text as it is.
-/

open Py

namespace Tomtit
namespace Arithmetic
open IntentParser

/-- The letters of the phrases before and after an expression, small and capital. -/
def letterPairs : List (CodePoint × CodePoint) := [
  (116, 84), (237, 205), (110, 78), (104, 72), (99, 67), (97, 65), (108, 76), (117, 85), (101, 69),
  (98, 66), (7857, 7856), (103, 71), (109, 77), (7845, 7844), (121, 89)]

/-- The tables of the interpreter: symbols have no second case, these letters two, and none of the letters
or blanks is a digit. -/
structure ArithTables extends ReTables where
  decimal_ascii : ∀ c, c.val < 128 → isDecimal c = isDigit c
  decimal_space : ∀ c, isSpace c = true → isDecimal c = false
  decimal_letter : ∀ p ∈ letterPairs, isDecimal p.1 = false ∧ isDecimal p.2 = false
  word_ascii : ∀ c, c.val < 128 → isWord c = (isAlnum c || c = 95)
  word_space : ∀ c, isSpace c = true → isWord c = false
  fold_symbol : ∀ c d, arithChar c = true → fold c = fold d → c = d
  fold_letter : ∀ p ∈ letterPairs, ∀ c d, c = p.1 ∨ c = p.2 → fold c = fold d → d = p.1 ∨ d = p.2

def opens (c : CodePoint) : Bool := isDigit c || c = 40

theorem arithChar_cases {c : CodePoint} (h : arithChar c = true) : c.val < 128 ∨ isSpace c = true := by
  unfold arithChar numeric isDigit at h
  simp only [Bool.or_eq_true, Bool.and_eq_true, decide_eq_true_eq] at h
  rcases h with ((((((((h | rfl) | rfl) | rfl) | rfl) | rfl) | rfl) | rfl) | rfl) | h
  · exact .inl (by omega)
  · exact .inl (by decide)
  · exact .inl (by decide)
  · exact .inl (by decide)
  · exact .inl (by decide)
  · exact .inl (by decide)
  · exact .inl (by decide)
  · exact .inl (by decide)
  · exact .inl (by decide)
  · exact .inr h

theorem space_not_digit {c : CodePoint} (h : isSpace c = true) : isDigit c = false := by
  cases hd : isDigit c with
  | false => rfl
  | true =>
    have hnum : numeric c = true := by
      unfold numeric
      rw [hd]
      rfl
    rw [numeric_not_space hnum] at h
    exact Bool.noConfusion h

section
variable {tb : ArithTables}

theorem isDecimal_arith {c : CodePoint} (h : arithChar c = true) : tb.isDecimal c = isDigit c := by
  rcases arithChar_cases h with hc | hc
  · exact tb.decimal_ascii c hc
  · rw [tb.decimal_space c hc, space_not_digit hc]

/-! ### the two patterns -/

theorem spaces_eq : spaces = .seq (.plus [.space]) .eps := by
  unfold spaces
  rw [py_ofList]
  rfl

theorem classTest_space (m : Mode) (c : CodePoint) : classTest m false [.space] c = isSpace c := by
  unfold classTest
  rw [List.any_cons, List.any_nil, Bool.or_false, Bool.bne_false]
  rfl

theorem runs_plus_nil {m : Mode} {items : List ClassItem} {next : Re} {p : At}
    (h : ∀ c s, p.rest = c :: s → classTest m false items c = false) :
    (Re.seq (.plus items) next).runs m p = [] := by
  show (((Re.one false items).runs m p).flatMap _).flatMap _ = []
  rw [runs_one_nil h]
  rfl

theorem spaces_removeFrom (m : Mode) (n : Nat) :
    ∀ (before s : PyStr), s.length ≤ n → spaces.removeFrom m n before s = compact s := by
  induction n with
  | zero =>
    intro before s hs
    rw [List.length_eq_zero_iff.mp (Nat.le_zero.mp hs)]
    rfl
  | succ n ih =>
    intro before s hs
    cases s with
    | nil => exact removeFrom_nil _ _
    | cons c s =>
      cases hc : isSpace c with
      | false =>
        have hnil : spaces.runs m ⟨before, c :: s, []⟩ = [] := by
          rw [spaces_eq]
          refine runs_plus_nil fun d t e => ?_
          rw [classTest_space, ← (List.cons.inj e).1]
          exact hc
        rw [removeFrom_cons hnil, ih _ s (Nat.le_of_succ_le_succ hs), compact_cons hc]
      | true =>
        have hrun : ∀ d ∈ c :: s.takeWhile isSpace, isSpace d = true := by
          intro d hd
          rcases List.mem_cons.mp hd with rfl | hd
          · exact hc
          · exact List.mem_takeWhile_imp hd
        have hstop : ∀ d t, s.dropWhile isSpace = d :: t → isSpace d = false := by
          intro d t e
          have h := List.head?_dropWhile_not isSpace s
          rw [e] at h
          simpa using h
        have hfirst : spaces.First m ⟨before, (c :: s.takeWhile isSpace) ++ s.dropWhile isSpace, []⟩
            ⟨(c :: s.takeWhile isSpace).reverse ++ before, s.dropWhile isSpace, []⟩ := by
          rw [spaces_eq]
          refine Re.First.seq (Re.First.plus (List.cons_ne_nil _ _) (fun d hd => ?_) fun d t e => ?_) Re.First.eps
          · rw [classTest_space]
            exact hrun d hd
          · rw [classTest_space]
            exact hstop d t e
        have hsplit : c :: s = (c :: s.takeWhile isSpace) ++ s.dropWhile isSpace := by
          rw [List.cons_append, List.takeWhile_append_dropWhile]
        have hlen : (s.dropWhile isSpace).length ≤ s.length := (List.dropWhile_suffix isSpace).length_le
        rw [hsplit, removeFrom_match hfirst (by rw [← hsplit, List.length_cons]; exact Nat.lt_succ_of_le hlen),
          ih _ _ (hlen.trans (Nat.le_of_succ_le_succ hs)), compact_append]
        have hblank : compact (c :: s.takeWhile isSpace) = [] := by
          refine List.filter_eq_nil_iff.mpr fun d hd => ?_
          rw [hrun d hd]
          exact Bool.false_ne_true
        rw [hblank]
        rfl

theorem spaces_removeAll (m : Mode) (s : PyStr) : spaces.removeAll m s = compact s :=
  spaces_removeFrom m s.length [] s le_rfl

def mathItems : List ClassItem := [.range 48 57, .char 40, .char 41, .space, .char 43, .char 45, .char 42,
  .char 47, .char 46, .char 32]

theorem mathExpr_eq : mathExpr = .seq (.one false [.decimal, .char 40]) (.seq (.star true (.one false mathItems)) .eps) := by
  unfold mathExpr
  rw [py_ofList]
  rfl

theorem classTest_math {c : CodePoint} (h : arithChar c = true) :
    classTest (exact tb.toReTables) false mathItems c = decide (c ≠ 37) := by
  have hspace : isSpace (37 : CodePoint) = false := by decide
  have hdigit : isDigit c = true ↔ 48 ≤ c.val ∧ c.val ≤ 57 := by
    unfold isDigit
    rw [Bool.and_eq_true, decide_eq_true_eq, decide_eq_true_eq]
  rw [Bool.eq_iff_iff, decide_eq_true_eq]
  unfold arithChar numeric at h
  unfold classTest mathItems
  simp only [List.any_cons, List.any_nil, Bool.or_false, Bool.bne_false, ClassItem.accepts, exact,
    Bool.false_eq_true, ↓reduceIte, Bool.false_and, Bool.or_eq_true, Bool.and_eq_true, decide_eq_true_eq] at h ⊢
  constructor
  · rintro h rfl
    revert h
    decide
  · intro hne
    rcases h with ((((((((h | h) | h) | h) | h) | h) | h) | h) | h) | h
    · exact .inl (hdigit.mp h)
    all_goals simp [h] at hne ⊢

theorem classTest_opens {c : CodePoint} (h : tb.isDecimal c = isDigit c) :
    classTest (exact tb.toReTables) false [.decimal, .char 40] c = opens c := by
  unfold classTest opens
  simp only [List.any_cons, List.any_nil, Bool.or_false, Bool.bne_false, ClassItem.accepts, exact,
    Bool.false_eq_true, ↓reduceIte, h]

/-! ### the piece that is calculated -/

/-- From the first digit or `(` on. -/
def opened (s : PyStr) : PyStr := s.dropWhile fun c => !opens c

/-- From the first digit or `(` to the next `%`. -/
def calculated (s : PyStr) : PyStr := (opened s).takeWhile (· ≠ 37)

/-- What `_extract_expr` returns for an arithmetic text. -/
def expressionOf (s : PyStr) : Option PyStr :=
  if (calculated s).any isDigit then some (compact (calculated s)) else none

theorem takeWhile_eq_of_mem {f g : CodePoint → Bool} {s : PyStr} (h : ∀ c ∈ s, f c = g c) :
    s.takeWhile f = s.takeWhile g := by
  induction s with
  | nil => rfl
  | cons c s ih =>
    have htail := ih fun d hd => h d (List.mem_cons_of_mem c hd)
    rw [List.takeWhile_cons, List.takeWhile_cons, h c List.mem_cons_self, htail]

theorem mathExpr_here {before s : PyStr} {c : CodePoint} (hc : tb.isDecimal c = isDigit c) (ho : opens c = true)
    (hs : ∀ d ∈ s, arithChar d = true) : ∃ q, mathExpr.First (exact tb.toReTables) ⟨before, c :: s, []⟩ q ∧
      At.spanned ⟨before, c :: s, []⟩ q = c :: s.takeWhile (· ≠ 37) := by
  have htake : s.takeWhile (classTest (exact tb.toReTables) false mathItems) = s.takeWhile (· ≠ 37) := by
    exact takeWhile_eq_of_mem fun d hd => classTest_math (hs d hd)
  refine ⟨At.skip (classTest (exact tb.toReTables) false mathItems) ⟨c :: before, s, []⟩, ?_, ?_⟩
  · rw [mathExpr_eq]
    refine Re.First.seq (Re.First.one rfl ?_) ((Re.First.star _).seq Re.First.eps)
    exact (classTest_opens hc).trans ho
  · have hreads : Reads (c :: s.takeWhile (· ≠ 37)) ⟨before, c :: s, []⟩
        (At.skip (classTest (exact tb.toReTables) false mathItems) ⟨c :: before, s, []⟩) := by
      unfold At.skip
      dsimp only
      rw [← htake]
      constructor
      · show c :: s = c :: (_ ++ _)
        rw [List.takeWhile_append_dropWhile]
      · rw [List.reverse_cons, List.append_assoc]
        rfl
    exact hreads.spanned

/-- `_MATH_EXPR.search` -/
theorem mathExpr_search {s : PyStr} (hdec : ∀ c ∈ s, tb.isDecimal c = isDigit c)
    (harith : ∀ c ∈ opened s, arithChar c = true) :
    (mathExpr.search (exact tb.toReTables) s).map (fun m => m.1.spanned m.2) =
      if opened s = [] then none else some (calculated s) := by
  have hclosed : ∀ c ∈ s.takeWhile (fun c => !opens c), opens c = false := by
    intro c hc
    have h := @List.mem_takeWhile_imp _ (fun c => !opens c) s c hc
    exact (Bool.not_eq_true' _).mp h
  have hskip := @searchFrom_skip (exact tb.toReTables) mathExpr (opened s) (s.takeWhile fun c => !opens c) []
    fun x v e hv => by
      obtain ⟨c, v, rfl⟩ := List.exists_cons_of_ne_nil hv
      have hmem : c ∈ s.takeWhile fun c => !opens c := by
        rw [e]
        exact List.mem_append_right x List.mem_cons_self
      rw [mathExpr_eq]
      show ((Re.one false [.decimal, .char 40]).runs _ _).flatMap _ = []
      rw [runs_one_nil]
      · rfl
      · intro d t e'
        rw [← (List.cons.inj e').1, classTest_opens (hdec c ((List.takeWhile_prefix _).mem hmem))]
        exact hclosed c hmem
  have hsplit : (s.takeWhile fun c => !opens c) ++ opened s = s := List.takeWhile_append_dropWhile
  unfold Re.search
  rw [← hsplit, hskip, hsplit]
  cases ho : opened s with
  | nil =>
    rw [if_pos rfl, mathExpr_eq]
    rfl
  | cons c t =>
    have hc : opens c = true := by
      have h := List.head?_dropWhile_not (fun c => !opens c) s
      rw [show s.dropWhile (fun c => !opens c) = c :: t from ho] at h
      simpa using h
    have hcmem : c ∈ s := by
      rw [← hsplit, ho]
      exact List.mem_append_right _ List.mem_cons_self
    have hne : c ≠ 37 := by
      rintro rfl
      exact absurd hc (by decide)
    obtain ⟨q, hq, hspan⟩ := @mathExpr_here tb ((s.takeWhile fun c => !opens c).reverse ++ []) t c (hdec c hcmem) hc
      fun d hd => harith d (ho ▸ List.mem_cons_of_mem c hd)
    rw [if_neg (List.cons_ne_nil c t), Re.searchFrom,
      show (mathExpr.runs (exact tb.toReTables) ⟨_, c :: t, []⟩).head? = some q from hq]
    show some (At.spanned _ q) = _
    rw [hspan]
    unfold calculated
    rw [ho, @List.takeWhile_cons_of_pos _ (fun d => decide (d ≠ 37)) c t (decide_eq_true hne)]

theorem compact_blanks {s : PyStr} (h : ∀ c ∈ s, isSpace c = true) : compact s = [] := by
  refine List.filter_eq_nil_iff.mpr fun c hc => ?_
  rw [h c hc]
  exact Bool.false_ne_true

theorem compact_strip (s : PyStr) : compact (strip s) = compact s := by
  obtain ⟨a, b, e, ha, hb, -⟩ := strip_spec s
  conv_rhs => rw [e, compact_append, compact_append, compact_blanks ha, compact_blanks hb, List.append_nil]
  rfl

theorem any_eq_of_mem {f g : CodePoint → Bool} {s : PyStr} (h : ∀ c ∈ s, f c = g c) : s.any f = s.any g := by
  induction s with
  | nil => rfl
  | cons c s ih =>
    rw [List.any_cons, List.any_cons, h c List.mem_cons_self, ih fun d hd => h d (List.mem_cons_of_mem c hd)]

theorem any_digit_compact (s : PyStr) : (compact s).any isDigit = s.any isDigit := by
  rw [Bool.eq_iff_iff, List.any_eq_true, List.any_eq_true]
  constructor
  · rintro ⟨c, hc, hd⟩
    exact ⟨c, (List.mem_filter.mp hc).1, hd⟩
  · rintro ⟨c, hc, hd⟩
    refine ⟨c, List.mem_filter.mpr ⟨hc, ?_⟩, hd⟩
    cases hs : isSpace c with
    | false => rfl
    | true =>
      rw [space_not_digit hs] at hd
      exact absurd hd Bool.false_ne_true

/-- `_extract_expr` -/
theorem extractExpr_eq {s : PyStr} (hdec : ∀ c ∈ s, tb.isDecimal c = isDigit c)
    (harith : ∀ c ∈ opened s, arithChar c = true) (hstrip : strip s = s) :
    extractExpr tb.toReTables s = expressionOf s := by
  have hsearch := mathExpr_search hdec harith
  unfold extractExpr expressionOf
  rw [hstrip]
  cases hm : mathExpr.search (exact tb.toReTables) s with
  | none =>
    rw [hm] at hsearch
    split at hsearch
    · next ho =>
      unfold calculated
      rw [ho]
      rfl
    · exact absurd hsearch.symm (Option.some_ne_none _)
  | some m =>
    obtain ⟨p, q⟩ := m
    rw [hm] at hsearch
    split at hsearch
    · exact absurd hsearch (Option.some_ne_none _)
    · have hspan : p.spanned q = calculated s := Option.some.inj hsearch
      have hdigits : (strip (calculated s)).any tb.isDecimal = (calculated s).any isDigit := by
        rw [← any_digit_compact, ← compact_strip, any_digit_compact]
        have hmem : ∀ c ∈ strip (calculated s), tb.isDecimal c = isDigit c := by
          intro c hc
          obtain ⟨a, b, e, -⟩ := strip_spec (calculated s)
          have hpiece : c ∈ calculated s := by
            rw [e]
            exact List.mem_append_left b (List.mem_append_right a hc)
          exact hdec c ((List.dropWhile_suffix _).mem ((List.takeWhile_prefix _).mem hpiece))
        exact any_eq_of_mem hmem
      show (if (strip (p.spanned q)).any tb.isDecimal then _ else _) = _
      rw [hspan, hdigits, spaces_removeAll, compact_strip]

theorem opens_blank {c : CodePoint} (h : isSpace c = true) : opens c = false := by
  unfold opens
  rw [space_not_digit h, Bool.false_or, decide_eq_false_iff_not]
  rintro rfl
  exact absurd h (by decide)

theorem compact_calculated {a t b : PyStr} (ha : ∀ c ∈ a, isSpace c = true) (hb : ∀ c ∈ b, isSpace c = true) :
    compact (calculated (a ++ t ++ b)) = compact (calculated t) := by
  have hclosed : ∀ c, isSpace c = true → (!opens c) = true := fun c hc => by
    rw [opens_blank hc]
    rfl
  have hfront : opened (a ++ t ++ b) = opened (t ++ b) := by
    unfold opened
    rw [List.append_assoc, List.dropWhile_append_of_pos fun c hc => hclosed c (ha c hc)]
  have hblanks : b.takeWhile (· ≠ 37) = b := by
    refine List.takeWhile_eq_self_iff.mpr fun c hc => decide_eq_true ?_
    rintro rfl
    exact absurd (hb 37 hc) (by decide)
  unfold calculated
  rw [hfront]
  by_cases h : opened t = []
  · have hnil : opened (t ++ b) = [] := by
      refine List.dropWhile_eq_nil_iff.mpr fun c hc => ?_
      rcases List.mem_append.mp hc with hc | hc
      · exact List.dropWhile_eq_nil_iff.mp h c hc
      · exact hclosed c (hb c hc)
    rw [h, hnil]
  · have happend : opened (t ++ b) = opened t ++ b := by
      unfold opened at h ⊢
      rw [List.dropWhile_append, if_neg (by rw [List.isEmpty_iff]; exact h)]
    rw [happend, List.takeWhile_append, hblanks]
    split
    · next hall =>
      rw [compact_append, compact_blanks hb, List.append_nil,
        (List.takeWhile_prefix _).eq_of_length hall]
    · rfl

theorem expressionOf_strip (s : PyStr) : expressionOf (strip s) = expressionOf s := by
  obtain ⟨a, b, e, ha, hb, -⟩ := strip_spec s
  have hcompact : compact (calculated s) = compact (calculated (strip s)) := by
    conv_lhs => rw [e]
    exact compact_calculated ha hb
  unfold expressionOf
  rw [← any_digit_compact, ← any_digit_compact (calculated s), hcompact]

/-! ### `_normalize_arith` -/

def tailItems : List ClassItem := [.char 61, .char 63, .space]

theorem arithTail_eq : arithTail = .seq (.plus tailItems) (.seq .lineEnd .eps) := by
  unfold arithTail
  rw [py_ofList]
  rfl

theorem arithTail_runs {p q : At} (h : q ∈ arithTail.runs (exact tb.toReTables) p) :
    ∃ w, p.rest = w ++ q.rest ∧ w ≠ [] ∧ (∀ c ∈ w, c = 61 ∨ c = 63 ∨ isSpace c = true) ∧
      (q.rest = [] ∨ q.rest = [newline]) := by
  rw [arithTail_eq] at h
  obtain ⟨p₁, hp₁, h⟩ := List.mem_flatMap.mp h
  obtain ⟨p₂, hp₂, h⟩ := List.mem_flatMap.mp h
  obtain ⟨w, hw, hlang⟩ := runs_lang _ p p₁ hp₁
  obtain ⟨hne, hitems⟩ := plus_lang hlang
  have hline : p₁.isLineEnd (exact tb.toReTables) = true ∧ p₂ = p₁ := by
    have h : p₂ ∈ (if p₁.isLineEnd (exact tb.toReTables) then [p₁] else []) := hp₂
    split at h
    · next hl => exact ⟨hl, List.mem_singleton.mp h⟩
    · exact absurd h List.not_mem_nil
  have hq : q = p₁ := (List.mem_singleton.mp h).trans hline.2
  have hend := hline.1
  unfold At.isLineEnd exact at hend
  rw [hq]
  refine ⟨w, hw.1, hne, fun c hc => ?_, by simpa using hend⟩
  simpa [tailItems, ClassItem.accepts, exact] using hitems c hc

theorem arithTail_removeAll {s : PyStr} (hs : ArithText s)
    (hlast : ∀ c, s.getLast? = some c → isSpace c = false) : arithTail.removeAll (exact tb.toReTables) s = s := by
  refine removeAll_none fun u v e hv => List.eq_nil_iff_forall_not_mem.mpr fun q hq => ?_
  obtain ⟨w, hw, hne, htail, hend⟩ := arithTail_runs hq
  have hw' : v = w ++ q.rest := hw
  -- the last character of the text is the last one of the tail, or the line break
  obtain ⟨c, hc⟩ : ∃ c, v.getLast? = some c := ⟨v.getLast hv, List.getLast?_eq_some_getLast hv⟩
  have hcs : s.getLast? = some c := by
    rw [e, List.getLast?_append_of_ne_nil u hv, hc]
  have hspace := hlast c hcs
  have harith : arithChar c = true := hs c (List.mem_of_getLast? hcs)
  rcases hend with hend | hend
  · rw [hend, List.append_nil] at hw'
    have hmem : c ∈ w := hw' ▸ List.mem_of_getLast? hc
    rcases htail c hmem with rfl | rfl | h
    · exact absurd harith (by decide)
    · exact absurd harith (by decide)
    · rw [hspace] at h
      exact Bool.noConfusion h
  · rw [hw', hend, List.getLast?_append_of_ne_nil w (List.cons_ne_nil _ _)] at hc
    rw [← Option.some.inj hc] at hspace
    exact absurd hspace (by decide)

theorem replaceChar_of_not_mem {a b : CodePoint} {s : PyStr} (h : a ∉ s) : replaceChar a b s = s := by
  unfold replaceChar
  have hid : ∀ c ∈ s, (if c = a then b else c) = id c := by
    intro c hc
    rw [if_neg]
    · rfl
    · rintro rfl
      exact h hc
  rw [List.map_congr_left hid, List.map_id]

/-- `_normalize_arith` of an arithmetic text only strips it. -/
theorem normalizeArith_eq {s : PyStr} (hs : ArithText s) : normalizeArith tb.toReTables s = strip s := by
  obtain ⟨a, b, e, -, -, -, hlast⟩ := strip_spec s
  have harith : ArithText (strip s) := fun c hc => hs c (by
    rw [e]
    exact List.mem_append_left b (List.mem_append_right a hc))
  have hnot : ∀ c, arithChar c = false → c ∉ strip s := fun c hc hmem => by
    rw [harith c hmem] at hc
    exact Bool.noConfusion hc
  unfold normalizeArith
  rw [arithTail_removeAll harith hlast, replaceChar_of_not_mem (hnot 215 (by decide)),
    replaceChar_of_not_mem (hnot 120 (by decide)), replaceChar_of_not_mem (hnot 88 (by decide))]

end

end Arithmetic
end Tomtit
