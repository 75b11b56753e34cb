import TomtitAgent.Python.Str

/-!
# Arithmetic as it is typed

* `arithChar`     digits, decimal points, operators, parentheses, blanks;
* `tokens`        the numbers, operators and parentheses of a text, in order;
* `compact`       the text without its blanks, which has the same characters in its tokens;
* `joins`         some blanks stand between two pieces that are one token without them;
* `tokens_compact_iff`   the blanks may go exactly when they join nothing.
-/

open Py

namespace Tomtit
namespace Arithmetic

def numeric (c : CodePoint) : Bool := isDigit c || c = 46

def arithChar (c : CodePoint) : Bool :=
  numeric c || c = 43 || c = 45 || c = 42 || c = 47 || c = 37 || c = 40 || c = 41 || isSpace c

def ArithText (s : PyStr) : Prop := ∀ c ∈ s, arithChar c = true

def glue (c : CodePoint) : List PyStr → List PyStr
  | [] => [[c]]
  | token :: rest => (c :: token) :: rest

/-- A number is a run of digits and points, two stars are one operator, and every other character is a
token of its own. -/
def tokens : PyStr → List PyStr
  | [] => []
  | [c] => if isSpace c then [] else [[c]]
  | c :: d :: s =>
    if c = 42 ∧ d = 42 then [c, d] :: tokens s
    else if isSpace c then tokens (d :: s)
    else if numeric c ∧ numeric d then glue c (tokens (d :: s))
    else [c] :: tokens (d :: s)

/-- `re.sub(r"\s+", "", s)` -/
def compact (s : PyStr) : PyStr := s.filter fun c => !isSpace c

def adjoins (c d : CodePoint) : Bool := (numeric c && numeric d) || (c = 42 && d = 42)

/-- Blanks stand between two characters that belong to one token side by side.  The second star of `**`
ends its token. -/
def joins : PyStr → Bool
  | [] => false
  | [_] => false
  | c :: d :: s =>
    if c = 42 ∧ d = 42 then joins s
    else (isSpace d && (compact s).head?.any (adjoins c)) || joins (d :: s)

theorem compact_cons {c : CodePoint} (hc : isSpace c = false) (s : PyStr) : compact (c :: s) = c :: compact s :=
  List.filter_cons_of_pos (by rw [hc]; rfl)

theorem compact_blank {c : CodePoint} (hc : isSpace c = true) (s : PyStr) : compact (c :: s) = compact s :=
  List.filter_cons_of_neg (by rw [hc]; exact Bool.false_ne_true)

theorem compact_append (s t : PyStr) : compact (s ++ t) = compact s ++ compact t := List.filter_append _ _

theorem numeric_not_space {c : CodePoint} (h : numeric c = true) : isSpace c = false := by
  unfold numeric isDigit at h
  unfold isSpace
  simp only [Bool.or_eq_true, Bool.and_eq_true, decide_eq_true_eq] at h
  simp only [Bool.or_eq_false_iff, Bool.and_eq_false_imp, beq_eq_false_iff_ne, decide_eq_false_iff_not,
    decide_eq_true_eq]
  rcases h with h | rfl
  · omega
  · decide

theorem tokens_single {c : CodePoint} {s : PyStr} (hc : isSpace c = false)
    (h : ∀ d t, s = d :: t → adjoins c d = false) : tokens (c :: s) = [c] :: tokens s := by
  cases s with
  | nil =>
    show (if isSpace c then [] else [[c]]) = [[c]]
    rw [hc]
    rfl
  | cons d t =>
    have hd := h d t rfl
    unfold adjoins at hd
    obtain ⟨hnum, hstar⟩ := Bool.or_eq_false_iff.mp hd
    have hstar' : ¬ (c = 42 ∧ d = 42) := fun hs => by
      rw [decide_eq_true hs.1, decide_eq_true hs.2] at hstar
      exact Bool.noConfusion hstar
    have hnum' : ¬ (numeric c = true ∧ numeric d = true) := fun hn => by
      rw [hn.1, hn.2] at hnum
      exact Bool.noConfusion hnum
    rw [tokens, if_neg hstar', hc, if_neg Bool.false_ne_true, if_neg hnum']

theorem tokens_glued {c d : CodePoint} {s : PyStr} (hc : numeric c = true) (hd : numeric d = true) :
    tokens (c :: d :: s) = glue c (tokens (d :: s)) := by
  have hstar : ¬ (c = 42 ∧ d = 42) := fun h => by
    rw [h.1] at hc
    exact absurd hc (by decide)
  rw [tokens, if_neg hstar, numeric_not_space hc, if_neg Bool.false_ne_true, if_pos ⟨hc, hd⟩]

theorem tokens_head {c : CodePoint} (hc : isSpace c = false) (s : PyStr) :
    ∃ token rest, tokens (c :: s) = (c :: token) :: rest := by
  cases s with
  | nil =>
    refine ⟨[], [], ?_⟩
    rw [tokens, hc]
    rfl
  | cons d s =>
    rw [tokens]
    by_cases hstar : c = 42 ∧ d = 42
    · rw [if_pos hstar]
      exact ⟨[d], _, rfl⟩
    · rw [if_neg hstar, hc, if_neg Bool.false_ne_true]
      by_cases hnum : numeric c = true ∧ numeric d = true
      · rw [if_pos hnum]
        cases tokens (d :: s) with
        | nil => exact ⟨[], [], rfl⟩
        | cons token rest => exact ⟨token, rest, rfl⟩
      · rw [if_neg hnum]
        exact ⟨[], _, rfl⟩

theorem tokens_adjoined {c d : CodePoint} (h : adjoins c d = true) (hd : isSpace d = false) (s : PyStr)
    (ts : List PyStr) : tokens (c :: d :: s) ≠ [c] :: ts := by
  intro e
  by_cases hstar : c = 42 ∧ d = 42
  · rw [tokens, if_pos hstar] at e
    exact absurd (List.cons.inj (List.cons.inj e).1).2 (List.cons_ne_nil _ _)
  · have hnum : numeric c = true ∧ numeric d = true := by
      unfold adjoins at h
      rcases (Bool.or_eq_true _ _).mp h with h | h
      · exact (Bool.and_eq_true _ _).mp h
      · obtain ⟨h1, h2⟩ := (Bool.and_eq_true _ _).mp h
        exact absurd ⟨of_decide_eq_true h1, of_decide_eq_true h2⟩ hstar
    rw [tokens_glued hnum.1 hnum.2] at e
    obtain ⟨token, rest, ht⟩ := tokens_head hd s
    rw [ht] at e
    exact absurd (List.cons.inj (List.cons.inj e).1).2 (List.cons_ne_nil _ _)

theorem tokens_flatten (s : PyStr) : (tokens s).flatten = compact s := by
  have hglue : ∀ c ts, (glue c ts).flatten = c :: ts.flatten := by
    intro c ts
    cases ts with
    | nil => rfl
    | cons t ts => rfl
  induction s using tokens.induct with
  | case1 => rfl
  | case2 c hc =>
    rw [tokens, if_pos hc, compact_blank hc]
    rfl
  | case3 c hc =>
    rw [tokens, if_neg hc, compact_cons (Bool.eq_false_of_not_eq_true hc)]
    rfl
  | case4 c d s h ih =>
    have hstar : isSpace 42 = false := by decide
    obtain ⟨rfl, rfl⟩ := h
    rw [tokens, if_pos ⟨rfl, rfl⟩, compact_cons hstar, compact_cons hstar, ← ih]
    rfl
  | case5 c d s h hc ih => rw [tokens, if_neg h, if_pos hc, compact_blank hc, ih]
  | case6 c d s h hc hnum ih =>
    rw [tokens, if_neg h, if_neg hc, if_pos hnum, hglue, ih, compact_cons (Bool.eq_false_of_not_eq_true hc)]
  | case7 c d s h hc hnum ih =>
    rw [tokens, if_neg h, if_neg hc, if_neg hnum, compact_cons (Bool.eq_false_of_not_eq_true hc), ← ih]
    rfl

theorem glue_inj {c : CodePoint} {ts us : List PyStr} (ht : ts ≠ []) (hu : us ≠ []) :
    glue c ts = glue c us ↔ ts = us := by
  obtain ⟨t, ts, rfl⟩ := List.exists_cons_of_ne_nil ht
  obtain ⟨u, us, rfl⟩ := List.exists_cons_of_ne_nil hu
  unfold glue
  simp only [List.cons.injEq, true_and]

/-- **The blanks.**  Without its blanks a text has the same tokens exactly when they join nothing. -/
theorem tokens_compact_iff (s : PyStr) : tokens (compact s) = tokens s ↔ joins s = false := by
  induction s using tokens.induct with
  | case1 => exact ⟨fun _ => rfl, fun _ => rfl⟩
  | case2 c hc =>
    rw [compact_blank hc, tokens, if_pos hc]
    exact ⟨fun _ => rfl, fun _ => rfl⟩
  | case3 c hc =>
    rw [compact_cons (Bool.eq_false_of_not_eq_true hc)]
    exact ⟨fun _ => rfl, fun _ => rfl⟩
  | case4 c d s h ih =>
    have hstar : isSpace 42 = false := by decide
    obtain ⟨rfl, rfl⟩ := h
    rw [compact_cons hstar, compact_cons hstar, tokens, if_pos ⟨rfl, rfl⟩, tokens, if_pos ⟨rfl, rfl⟩, joins,
      if_pos ⟨rfl, rfl⟩, List.cons.injEq, ih]
    exact ⟨fun h => h.2, fun h => ⟨rfl, h⟩⟩
  | case5 c d s h hc ih =>
    have hnone : (compact s).head?.any (adjoins c) = false := by
      have hadjoins : ∀ n, adjoins c n = false := by
        intro n
        have hnum : numeric c = false := by
          cases hn : numeric c with
          | false => rfl
          | true => exact absurd (numeric_not_space hn) (by rw [hc]; exact Bool.noConfusion)
        have hne : c ≠ 42 := by
          rintro rfl
          exact absurd hc (by decide)
        unfold adjoins
        rw [hnum, decide_eq_false hne]
        rfl
      cases (compact s).head? with
      | none => rfl
      | some n => exact hadjoins n
    rw [compact_blank hc, tokens.eq_def (c :: d :: s)]
    dsimp only
    rw [if_neg h, if_pos hc, joins, if_neg h, hnone, Bool.and_false, Bool.false_or]
    exact ih
  | case6 c d s h hc hnum ih =>
    have hd := numeric_not_space hnum.2
    rw [compact_cons (Bool.eq_false_of_not_eq_true hc), compact_cons hd] at *
    rw [tokens_glued hnum.1 hnum.2, tokens_glued hnum.1 hnum.2, joins, if_neg h, hd, Bool.false_and,
      Bool.false_or, ← ih]
    obtain ⟨t, ts, ht⟩ := tokens_head hd (compact s)
    obtain ⟨u, us, hu⟩ := tokens_head hd s
    exact glue_inj (ht ▸ List.cons_ne_nil _ _) (hu ▸ List.cons_ne_nil _ _)
  | case7 c d s h hc hnum ih =>
    have hc' := Bool.eq_false_of_not_eq_true hc
    have htokens : tokens (c :: d :: s) = [c] :: tokens (d :: s) := by
      rw [tokens, if_neg h, if_neg hc, if_neg hnum]
    rw [compact_cons hc', htokens, joins, if_neg h]
    by_cases hjoin : isSpace d = true ∧ (compact s).head?.any (adjoins c) = true
    · -- the first token of the text without blanks goes on
      obtain ⟨hd, hany⟩ := hjoin
      rw [hd, hany, compact_blank hd]
      obtain ⟨n, hn, hadj⟩ := (Option.any_eq_true _ _).mp hany
      obtain ⟨k, hk⟩ := List.head?_eq_some_iff.mp hn
      have hnspace : isSpace n = false := by
        have hmem : n ∈ compact s := hk ▸ List.mem_cons_self
        rw [← Bool.not_eq_true']
        exact (List.mem_filter.mp hmem).2
      rw [hk]
      exact ⟨fun e => absurd e (tokens_adjoined hadj hnspace k _), fun e => Bool.noConfusion e⟩
    · have hsingle : tokens (c :: compact (d :: s)) = [c] :: tokens (compact (d :: s)) := by
        refine tokens_single hc' fun n t e => ?_
        cases hd : isSpace d with
        | true =>
          rw [compact_blank hd] at e
          cases hadj : adjoins c n with
          | false => rfl
          | true =>
            refine absurd ⟨hd, ?_⟩ hjoin
            rw [e]
            exact hadj
        | false =>
          rw [compact_cons hd] at e
          rw [← (List.cons.inj e).1]
          unfold adjoins
          rw [Bool.or_eq_false_iff]
          constructor
          · rw [← Bool.not_eq_true, Bool.and_eq_true]
            exact hnum
          · rw [← Bool.not_eq_true, Bool.and_eq_true, decide_eq_true_eq, decide_eq_true_eq]
            exact h
      have hno : (isSpace d && (compact s).head?.any (adjoins c)) = false := by
        rw [← Bool.not_eq_true, Bool.and_eq_true]
        exact hjoin
      rw [hsingle, hno, Bool.false_or, List.cons.injEq, ← ih]
      exact ⟨fun h => h.2, fun h => ⟨rfl, h⟩⟩

end Arithmetic
end Tomtit
