import TomtitAgent.Planning.ArithmeticRequests

/-!
# Arithmetic requests are not altered

* `Unaltered`      a calculated request keeps the tokens of its expression, or has none;
* `Unasked`        every digit comes after a `(` with a `%` behind it: nothing is calculated;
* `Verbatim`       the text opens with a digit or `(`, has no `%`, and its blanks join nothing;
* `kept_iff`       what `_extract_expr` keeps;
* `unaltered_iff`  every phrase leaves the expression as it is exactly then.
-/

open Py

namespace Tomtit
namespace Arithmetic
open IntentParser

/-- If the request is calculated, it has no expression, or one with the tokens of `e`. -/
def Unaltered (tb : ReTables) (text e : PyStr) : Prop :=
  (parse tb text).intent = .calculate →
    (parse tb text).expression = none ∨ ∃ x, (parse tb text).expression = some x ∧ tokens x = tokens e

/-- Every digit comes after a `(` and a `%` behind that. -/
def Unasked (e : PyStr) : Prop :=
  ∀ u c v, e = u ++ c :: v → isDigit c = true → ∃ x y z, u = x ++ 40 :: y ++ 37 :: z

/-- The text opens with a digit or `(`, has no `%`, and its blanks join nothing. -/
def Verbatim (e : PyStr) : Prop := (compact e).head?.any opens = true ∧ 37 ∉ e ∧ joins e = false

section
variable {e : PyStr}

theorem split_opened (e : PyStr) : e = (e.takeWhile fun c => !opens c) ++ opened e :=
  List.takeWhile_append_dropWhile.symm

theorem before_opened {c : CodePoint} (h : c ∈ e.takeWhile fun c => !opens c) : opens c = false :=
  (Bool.not_eq_true' _).mp (@List.mem_takeWhile_imp _ (fun c => !opens c) e c h)

theorem mem_calculated {c : CodePoint} (h : c ∈ calculated e) : c ≠ 37 :=
  of_decide_eq_true (@List.mem_takeWhile_imp _ (fun d => decide (d ≠ 37)) (opened e) c h)

theorem split_calculated (e : PyStr) : opened e = calculated e ++ (opened e).dropWhile (· ≠ 37) :=
  List.takeWhile_append_dropWhile.symm

theorem after_calculated {c : CodePoint} {s : PyStr} (h : (opened e).dropWhile (· ≠ 37) = c :: s) : c = 37 := by
  have hhead := List.head?_dropWhile_not (fun d : CodePoint => decide (d ≠ 37)) (opened e)
  rw [h] at hhead
  simpa using hhead

theorem calculated_head {c : CodePoint} {s : PyStr} (h : calculated e = c :: s) : opens c = true := by
  have hopened : opened e = c :: (s ++ (opened e).dropWhile (· ≠ 37)) := by
    conv_lhs => rw [split_calculated, h]
    rfl
  have hhead := List.head?_dropWhile_not (fun d => !opens d) e
  rw [show e.dropWhile (fun d => !opens d) = _ from hopened] at hhead
  simpa using hhead

theorem digit_opens {c : CodePoint} (h : isDigit c = true) : opens c = true := by
  unfold opens
  rw [h]
  rfl

theorem opens_not_space {c : CodePoint} (h : opens c = true) : isSpace c = false := by
  cases hs : isSpace c with
  | false => rfl
  | true =>
    rw [opens_blank hs] at h
    exact absurd h Bool.false_ne_true

theorem unasked_iff : (calculated e).any isDigit = false ↔ Unasked e := by
  constructor
  · intro hnone u c v he hc
    have hno : ∀ d ∈ calculated e, isDigit d = false := fun d hd => by
      rw [← Bool.not_eq_true]
      exact fun h => Bool.false_ne_true (hnone.symm.trans (List.any_eq_true.mpr ⟨d, hd, h⟩))
    have hsplit : (e.takeWhile fun c => !opens c) ++ calculated e ++ (opened e).dropWhile (· ≠ 37) = u ++ c :: v := by
      rw [List.append_assoc, ← split_calculated, ← split_opened]
      exact he
    -- the digit is behind the piece
    have hbehind : c ∉ (e.takeWhile fun c => !opens c) ++ calculated e := by
      intro hmem
      rcases List.mem_append.mp hmem with h | h
      · have hopen := digit_opens hc
        rw [before_opened h] at hopen
        exact Bool.false_ne_true hopen
      · rw [hno c h] at hc
        exact Bool.false_ne_true hc
    have hne37 : c ≠ 37 := by
      rintro rfl
      exact absurd hc (by decide)
    rcases List.append_eq_append_iff.mp hsplit with ⟨as, hu, hr⟩ | ⟨bs, hu, hr⟩
    · cases as with
      | nil => exact absurd (after_calculated hr) hne37
      | cons a z =>
        have ha : a = 37 := after_calculated hr
        cases hcalc : calculated e with
        | nil =>
          -- without a piece nothing follows
          have hopened : opened e = [] := by
            cases ho : opened e with
            | nil => rfl
            | cons d t =>
              have hd : opens d = true := by
                have hhead := List.head?_dropWhile_not (fun d => !opens d) e
                rw [show e.dropWhile (fun d => !opens d) = _ from ho] at hhead
                simpa using hhead
              have hd37 : d ≠ 37 := by
                rintro rfl
                exact absurd hd (by decide)
              unfold calculated at hcalc
              rw [ho, @List.takeWhile_cons_of_pos _ (fun x => decide (x ≠ 37)) d t (decide_eq_true hd37)] at hcalc
              exact absurd hcalc (List.cons_ne_nil _ _)
          rw [hopened] at hr
          exact absurd hr.symm (List.cons_ne_nil _ _)
        | cons d t =>
          have hd : d = 40 := by
            have ho := calculated_head hcalc
            unfold opens at ho
            rw [hno d (hcalc ▸ List.mem_cons_self), Bool.false_or, decide_eq_true_eq] at ho
            exact ho
          refine ⟨e.takeWhile fun c => !opens c, t, z, ?_⟩
          rw [hu, ha, hcalc, hd]
    · cases bs with
      | nil => exact absurd (after_calculated hr.symm) hne37
      | cons b bs =>
        refine absurd ?_ hbehind
        rw [hu, (List.cons.inj hr).1]
        exact List.mem_append_right _ List.mem_cons_self
  · intro h
    rw [← Bool.not_eq_true, List.any_eq_true]
    rintro ⟨c, hc, hdigit⟩
    obtain ⟨m₁, m₂, hm⟩ := List.append_of_mem hc
    have he : e = ((e.takeWhile fun c => !opens c) ++ m₁) ++ c :: (m₂ ++ (opened e).dropWhile (· ≠ 37)) := by
      conv_lhs => rw [split_opened e, split_calculated e, hm]
      simp only [List.append_assoc, List.cons_append]
    obtain ⟨x, y, z, hu⟩ := h _ c _ he hdigit
    rcases List.append_eq_append_iff.mp hu with ⟨as, hx, hr⟩ | ⟨bs, hx, hr⟩
    · -- the `%` would be in the piece
      have hmem : (37 : CodePoint) ∈ calculated e := by
        rw [hm, hr]
        exact List.mem_append_left _ (List.mem_append_right _ List.mem_cons_self)
      exact mem_calculated hmem rfl
    · -- the `(` would be before the piece
      have hmem : (40 : CodePoint) ∈ e.takeWhile fun c => !opens c := by
        rw [hx]
        exact List.mem_append_left _ (List.mem_append_right _ List.mem_cons_self)
      exact absurd (before_opened hmem) (by decide)

theorem compact_compact (s : PyStr) : compact (compact s) = compact s := by
  unfold compact
  rw [List.filter_filter]
  exact congrArg (List.filter · s) (funext fun c => Bool.and_self _)

theorem compact_calculated_of_verbatim (hopen : (compact e).head?.any opens = true) (h37 : 37 ∉ e) :
    compact (calculated e) = compact e := by
  have hrest : (opened e).dropWhile (· ≠ 37) = [] := by
    cases hd : (opened e).dropWhile (· ≠ 37) with
    | nil => rfl
    | cons c s =>
      refine absurd ?_ h37
      rw [split_opened e, split_calculated e, hd, after_calculated hd]
      exact List.mem_append_right _ (List.mem_append_right _ List.mem_cons_self)
  have hfront : compact (e.takeWhile fun c => !opens c) = [] := by
    cases hf : compact (e.takeWhile fun c => !opens c) with
    | nil => rfl
    | cons c s =>
      have hmem : c ∈ compact (e.takeWhile fun c => !opens c) := hf ▸ List.mem_cons_self
      have hclosed := before_opened (List.mem_filter.mp hmem).1
      rw [split_opened e, compact_append, hf] at hopen
      have hopen' : opens c = true := hopen
      rw [hclosed] at hopen'
      exact absurd hopen' Bool.false_ne_true
  conv_rhs => rw [split_opened e, split_calculated e, compact_append, compact_append, hfront, hrest]
  rw [List.nil_append]
  exact (List.append_nil _).symm

/-- What `_extract_expr` keeps of a text. -/
theorem kept_iff : (expressionOf e = none ∨ ∃ x, expressionOf e = some x ∧ tokens x = tokens e) ↔
    Unasked e ∨ Verbatim e := by
  unfold expressionOf
  cases hdigit : (calculated e).any isDigit with
  | false => exact iff_of_true (.inl rfl) (.inl (unasked_iff.mp hdigit))
  | true =>
    have hasked : ¬ Unasked e := fun h => by
      rw [unasked_iff.mpr h] at hdigit
      exact Bool.false_ne_true hdigit
    rw [if_pos rfl]
    constructor
    · rintro (h | ⟨x, hx, htokens⟩)
      · exact absurd h (Option.some_ne_none _)
      · right
        rw [← Option.some.inj hx] at htokens
        -- the tokens have all the characters of the text
        have hflat : compact (calculated e) = compact e := by
          rw [← compact_compact, ← tokens_flatten (compact (calculated e)), htokens, tokens_flatten]
        have hparts : compact (e.takeWhile fun c => !opens c) = [] ∧
            compact ((opened e).dropWhile (· ≠ 37)) = [] := by
          have hlen : compact e = compact (e.takeWhile fun c => !opens c) ++
              (compact (calculated e) ++ compact ((opened e).dropWhile (· ≠ 37))) := by
            conv_lhs => rw [split_opened e, split_calculated e, compact_append, compact_append]
          have hlength := congrArg List.length hlen
          rw [List.length_append, List.length_append, ← hflat] at hlength
          exact ⟨List.length_eq_zero_iff.mp (by omega), List.length_eq_zero_iff.mp (by omega)⟩
        refine ⟨?_, ?_, ?_⟩
        · obtain ⟨c, hc, -⟩ := List.any_eq_true.mp hdigit
          obtain ⟨d, s, hcalc⟩ := List.exists_cons_of_ne_nil (List.ne_nil_of_mem hc)
          have hopen := calculated_head hcalc
          rw [← hflat, hcalc, compact_cons (opens_not_space hopen)]
          exact hopen
        · intro hmem
          have h37 : (37 : CodePoint) ∈ compact e := List.mem_filter.mpr ⟨hmem, rfl⟩
          rw [← hflat] at h37
          exact mem_calculated (List.mem_filter.mp h37).1 rfl
        · rw [← tokens_compact_iff, ← hflat]
          exact htokens
    · rintro (h | ⟨hopen, h37, hjoins⟩)
      · exact absurd h hasked
      · refine .inr ⟨_, rfl, ?_⟩
        rw [compact_calculated_of_verbatim hopen h37]
        exact (tokens_compact_iff e).mpr hjoins

theorem unaltered_of_calculates {tb : ArithTables} {text : PyStr} (h : Calculates tb text e)
    (hkept : expressionOf e = none ∨ ∃ x, expressionOf e = some x ∧ tokens x = tokens e) :
    Unaltered tb.toReTables text e := by
  intro _
  rw [h.2]
  exact hkept

end

/-- **Arithmetic requests.**  The four phrases leave an arithmetic expression as it is exactly when it has
nothing to calculate, or opens with a digit or `(`, has no `%` and no blanks inside a number or `**`. -/
theorem unaltered_iff (tb : ArithTables) (e : PyStr) (he : ArithText e) :
    (∀ phrase, Unaltered tb.toReTables (Phrase.text e phrase) e) ↔ Unasked e ∨ Verbatim e := by
  rw [← kept_iff]
  constructor
  · intro h
    have htinh := @outcome_tinh tb e he
    rw [← htinh.2]
    exact h .tinh htinh.1
  · intro hkept phrase
    cases phrase with
    | alone =>
      have hcase := @outcome_alone tb e he
      split at hcase
      · exact unaltered_of_calculates hcase hkept
      · exact fun h => absurd h hcase
    | tinh => exact unaltered_of_calculates (outcome_tinh he) hkept
    | calculate =>
      have hcase := @outcome_calculate tb e he
      split at hcase
      · exact fun h => absurd h hcase
      · exact unaltered_of_calculates hcase hkept
    | bangMay =>
      have hcase := @outcome_bangMay tb e he
      split at hcase
      · exact fun h => absurd h hcase
      · exact unaltered_of_calculates hcase hkept

/-! ### two requests -/

def smallOf (c : CodePoint) : CodePoint := ((letterPairs.find? fun p => p.2 = c).map Prod.fst).getD c

theorem smallOf_cases (c : CodePoint) :
    (smallOf c = c ∧ ∀ p ∈ letterPairs, p.2 ≠ c) ∨ ∃ p ∈ letterPairs, p.2 = c ∧ smallOf c = p.1 := by
  unfold smallOf
  cases h : letterPairs.find? fun p => p.2 = c with
  | none =>
    refine .inl ⟨rfl, fun p hp e => ?_⟩
    exact List.find?_eq_none.mp h p hp (decide_eq_true e)
  | some p => exact .inr ⟨p, List.mem_of_find?_eq_some h, of_decide_eq_true (List.find?_some (p := fun q : CodePoint × CodePoint => decide (q.2 = c)) h), rfl⟩

theorem letterPairs_distinct : ∀ p ∈ letterPairs, (∀ q ∈ letterPairs, p.1 ≠ q.2 ∧
    (p.1 = q.1 → p.2 = q.2) ∧ (p.2 = q.2 → p.1 = q.1)) ∧ arithChar p.1 = false ∧ arithChar p.2 = false := by
  have hall : letterPairs.all (fun p => letterPairs.all (fun q => decide (p.1 ≠ q.2 ∧
      (p.1 = q.1 → p.2 = q.2) ∧ (p.2 = q.2 → p.1 = q.1))) && !arithChar p.1 && !arithChar p.2) = true := rfl
  intro p hp
  have h := List.all_eq_true.mp hall p hp
  rw [Bool.and_eq_true, Bool.and_eq_true, Bool.not_eq_true', Bool.not_eq_true'] at h
  exact ⟨fun q hq => of_decide_eq_true (List.all_eq_true.mp h.1.1 q hq), h.1.2, h.2⟩

theorem isDigit_letterPairs : ∀ p ∈ letterPairs, isDigit p.1 = false ∧ isDigit p.2 = false := by
  intro p hp
  have hall : letterPairs.all (fun p => !isDigit p.1 && !isDigit p.2) = true := rfl
  have h := List.all_eq_true.mp hall p hp
  rw [Bool.and_eq_true, Bool.not_eq_true', Bool.not_eq_true'] at h
  exact h

theorem isSpace_not_word : ∀ c, isSpace c = true → (isAlnum c || c = 95) = false := by
  intro c h
  unfold isSpace at h
  unfold isAlnum isDigit isUpper isLower
  simp only [Bool.or_eq_true, Bool.and_eq_true, decide_eq_true_eq, beq_iff_eq] at h
  rw [Bool.or_eq_false_iff]
  constructor
  · simp only [Bool.or_eq_false_iff, Bool.and_eq_false_imp, decide_eq_true_eq, decide_eq_false_iff_not]
    omega
  · rw [decide_eq_false_iff_not]
    rintro rfl
    revert h
    decide

theorem smallOf_symbol : ∀ c d, arithChar c = true → smallOf c = smallOf d → c = d := by
  intro c d hc h
  have hsame : smallOf c = c := by
    rcases smallOf_cases c with ⟨e, -⟩ | ⟨p, hp, rfl, -⟩
    · exact e
    · rw [(letterPairs_distinct p hp).2.2] at hc
      exact absurd hc Bool.false_ne_true
  rcases smallOf_cases d with ⟨e, -⟩ | ⟨p, hp, -, e⟩
  · rw [← hsame, h, e]
  · rw [hsame, e] at h
    rw [h, (letterPairs_distinct p hp).2.1] at hc
    exact absurd hc Bool.false_ne_true

theorem smallOf_letter : ∀ p ∈ letterPairs, ∀ c d, c = p.1 ∨ c = p.2 → smallOf c = smallOf d →
    d = p.1 ∨ d = p.2 := by
  intro p hp c d hc h
  have hsmall : smallOf c = p.1 := by
    rcases smallOf_cases c with ⟨e, hno⟩ | ⟨q, hq, rfl, e⟩
    · rcases hc with rfl | rfl
      · exact e
      · exact absurd rfl (hno p hp)
    · rcases hc with hc | hc
      · exact absurd hc.symm ((letterPairs_distinct p hp).1 q hq).1
      · exact e.trans (((letterPairs_distinct q hq).1 p hp).2.2 hc)
  rw [hsmall] at h
  rcases smallOf_cases d with ⟨e, -⟩ | ⟨q, hq, rfl, e⟩
  · exact .inl (e.symm.trans h.symm)
  · exact .inr ((((letterPairs_distinct p hp).1 q hq).2.1 (h.trans e)).symm)

/-- Tables with the digits and letters of ASCII and the letters of the phrases. -/
def phraseTables : ArithTables where
  isWord c := isAlnum c || c = 95
  isDecimal := isDigit
  fold := smallOf
  decimal_ascii _ _ := rfl
  decimal_space _ := space_not_digit
  decimal_letter := isDigit_letterPairs
  word_ascii _ _ := rfl
  word_space := isSpace_not_word
  fold_symbol := smallOf_symbol
  fold_letter := smallOf_letter

theorem arithText_of_all {s : PyStr} (h : s.all arithChar = true) : ArithText s := List.all_eq_true.mp h

/-- `(1 + 2) * 3` -/
theorem unaltered_sum : ArithText (py "(1 + 2) * 3") ∧ ∀ phrase,
    Unaltered phraseTables.toReTables (Phrase.text (py "(1 + 2) * 3") phrase) (py "(1 + 2) * 3") := by
  have harith : ArithText (py "(1 + 2) * 3") := by
    rw [py_ofList]
    exact arithText_of_all rfl
  refine ⟨harith, (unaltered_iff phraseTables _ harith).mpr (.inr ?_)⟩
  rw [py_ofList]
  refine ⟨rfl, ?_, rfl⟩
  decide +kernel

/-- Of `-5 + 3` the sign goes, and the request is calculated. -/
theorem unaltered_fails : ∃ e x, ArithText e ∧
    (parse phraseTables.toReTables (Phrase.text e .tinh)).intent = .calculate ∧
    (parse phraseTables.toReTables (Phrase.text e .tinh)).expression = some x ∧ x = py "5+3" ∧
    tokens x ≠ tokens e ∧ ¬ ∀ phrase, Unaltered phraseTables.toReTables (Phrase.text e phrase) e := by
  have harith : ArithText (py "-5 + 3") := by
    rw [py_ofList]
    exact arithText_of_all rfl
  have hcalculated := @outcome_tinh phraseTables (py "-5 + 3") harith
  have hexpr : expressionOf (py "-5 + 3") = some (py "5+3") := by
    rw [py_ofList, py_ofList]
    rfl
  have htokens : tokens (py "5+3") ≠ tokens (py "-5 + 3") := by
    rw [py_ofList, py_ofList]
    decide +kernel
  refine ⟨py "-5 + 3", py "5+3", harith, hcalculated.1, hcalculated.2.trans hexpr, rfl, htokens, fun h => ?_⟩
  rcases h .tinh hcalculated.1 with hnone | ⟨x, hx, hsame⟩
  · rw [hcalculated.2, hexpr] at hnone
    exact Option.some_ne_none _ hnone
  · rw [hcalculated.2, hexpr, Option.some.injEq] at hx
    rw [← hx] at hsame
    exact htokens hsame

end Arithmetic
end Tomtit
