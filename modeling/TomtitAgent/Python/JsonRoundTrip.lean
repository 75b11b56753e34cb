import TomtitAgent.Python.JsonLayout

/-!
# `json.loads` reads back what `json.dumps` writes

* `string_quoted`, `number_int`, `number_float`   strings and numbers, each before any text that
  does not prolong it;
* `reread`         what the reader makes of the text of a tree: of a repeated key only the last value
  stays, and a float that is no number loses its sign and payload;
* `value_textIn`   a tree with writable integers is read from its text, whatever the layout;
* `loads_textIn`, `loads_text`, `text_inj`   the round trip of the trees with finite floats and distinct
  keys, and with it: the text determines the tree;
* `textIn_chars`   the characters of the text are those of the strings, blanks and printable ASCII.
-/

namespace Py
namespace JsonLoad

/-! ### strings -/

/-- The characters `escape` writes as a `\u` escape. -/
def uEscaped (c : CodePoint) : Bool :=
  c.val < 32 && !(c == 8 || c == 9 || c == 10 || c == 12 || c == 13)

theorem hex4_hexText (n : Nat) (h : n < 32) :
    ∃ a b c d, hexText 4 n = [a, b, c, d] ∧ hex4 a b c d = some (Fin.ofNat 0x110000 n) := by
  have key : ∀ m : Fin 32, hex4 (hexDigit (m.val / 16 / 16 / 16 % 16)) (hexDigit (m.val / 16 / 16 % 16))
      (hexDigit (m.val / 16 % 16)) (hexDigit (m.val % 16)) = some (Fin.ofNat 0x110000 m.val) := by
    decide
  exact ⟨_, _, _, _, rfl, key ⟨n, h⟩⟩

theorem body_close (cs : PyStr) : body (34 :: cs) = some ([], cs) := by
  rw [body.eq_def]
  simp only [if_pos]

theorem body_plain {c : CodePoint} (cs : PyStr) (h34 : c ≠ 34) (hlt : ¬ c.val < 32) (h92 : c ≠ 92) :
    body (c :: cs) = (body cs).map fun r => ((c, false) :: r.1, r.2) := by
  rw [body.eq_def]
  simp only [if_neg h34, if_neg hlt, if_pos h92]

theorem body_letter {e x : CodePoint} (cs : PyStr) (h : unescape e = some x) (he : e ≠ 117) :
    body (92 :: e :: cs) = (body cs).map fun r => ((x, false) :: r.1, r.2) := by
  rw [body.eq_def]
  simp only [if_neg he, h]
  cases body cs <;> rfl

theorem body_unicode {a b d e x : CodePoint} (cs : PyStr) (h : hex4 a b d e = some x) :
    body (92 :: 117 :: a :: b :: d :: e :: cs)
      = (body cs).map fun r => ((x, true) :: r.1, r.2) := by
  rw [body.eq_def]
  simp only [h]
  cases body cs <;> rfl

theorem body_escape (c : CodePoint) (rest : PyStr) :
    body (Json.escape c ++ rest) = (body rest).map fun r => ((c, uEscaped c) :: r.1, r.2) := by
  unfold Json.escape
  split_ifs with h34 h92 h8 h9 h10 h12 h13 hlt
  · subst h34; exact body_letter rest rfl (by decide)
  · subst h92; exact body_letter rest rfl (by decide)
  · subst h8; exact body_letter rest rfl (by decide)
  · subst h9; exact body_letter rest rfl (by decide)
  · subst h10; exact body_letter rest rfl (by decide)
  · subst h12; exact body_letter rest rfl (by decide)
  · subst h13; exact body_letter rest rfl (by decide)
  · have hu : uEscaped c = true := by
      unfold uEscaped
      simp [hlt, h8, h9, h10, h12, h13]
    obtain ⟨a, b, d, e, ht, hx⟩ := hex4_hexText c.val hlt
    have hc : Fin.ofNat 0x110000 c.val = c := Fin.ofNat_val_eq_self c
    rw [ht, hu]
    rw [hc] at hx
    exact body_unicode rest hx
  · have hu : uEscaped c = false := by
      unfold uEscaped
      rw [decide_eq_false hlt, Bool.false_and]
    rw [hu]
    exact body_plain rest h34 hlt h92

theorem body_quoted (s rest : PyStr) :
    body (s.flatMap Json.escape ++ 34 :: rest) = some (s.map fun c => (c, uEscaped c), rest) := by
  induction s with
  | nil => exact body_close rest
  | cons c s ih =>
    rw [List.flatMap_cons, List.append_assoc, body_escape, ih]
    rfl

theorem pairUp_escaped (s : PyStr) : pairUp (s.map fun c => (c, uEscaped c)) = s := by
  induction s with
  | nil => rfl
  | cons c s ih =>
    rw [List.map_cons]
    cases hu : uEscaped c with
    | false => rw [pairUp.eq_2 _ _ _ (by simp), ih]
    | true =>
      have hlt : c.val < 32 := by
        unfold uEscaped at hu
        exact of_decide_eq_true (Bool.and_eq_true_iff.mp hu).1
      cases s with
      | nil => rfl
      | cons d s =>
        rw [List.map_cons] at ih ⊢
        cases hd : uEscaped d with
        | false => rw [hd] at ih; rw [pairUp.eq_2 _ _ _ (by simp), ih]
        | true => rw [hd] at ih; rw [pairUp, if_neg (by omega), ih]

theorem string_quoted (s rest : PyStr) :
    string (s.flatMap Json.escape ++ 34 :: rest) = some (s, rest) := by
  unfold string
  rw [body_quoted, Option.map_some, pairUp_escaped]

/-! ### numbers -/

/-- What can follow a number: nothing that would prolong it. -/
def Stop (s : PyStr) : Prop :=
  ∀ c cs, s = c :: cs → isDigit c = false ∧ c ≠ 46 ∧ c ≠ 101 ∧ c ≠ 69

theorem stop_nil : Stop [] := fun _ _ h => absurd h (by simp)

theorem stop_cons {c : CodePoint} {s : PyStr} (h : isDigit c = false ∧ c ≠ 46 ∧ c ≠ 101 ∧ c ≠ 69) :
    Stop (c :: s) := by
  intro d ds e
  obtain ⟨rfl, rfl⟩ := List.cons.inj e
  exact h

theorem span_digits {ds rest : PyStr} (hd : ∀ c ∈ ds, isDigit c = true)
    (hr : ∀ c cs, rest = c :: cs → isDigit c = false) :
    (ds ++ rest).takeWhile isDigit = ds ∧ (ds ++ rest).dropWhile isDigit = rest := by
  rw [List.takeWhile_append_of_pos hd, List.dropWhile_append_of_pos hd]
  cases rest with
  | nil => exact ⟨List.append_nil ds, rfl⟩
  | cons c cs =>
    have hc := hr c cs rfl
    rw [List.takeWhile_cons_of_neg (by rw [hc]; decide), List.dropWhile_cons_of_neg (by rw [hc]; decide)]
    exact ⟨List.append_nil ds, rfl⟩

theorem natOf_natText (n : Nat) : natOf (natText n) = n := by
  have h := Nat.ofDigitChars_ten_toDigits (n := n)
  rw [Nat.ofDigitChars_eq_foldl] at h
  unfold natOf natText
  rw [List.foldl_map]
  calc (Nat.toDigits 10 n).foldl (fun m c => m * 10 + ((CodePoint.ofChar c).val - 48)) 0
      = (Nat.toDigits 10 n).foldl (fun m c => 10 * m + (c.toNat - '0'.toNat)) 0 := by
        congr 1
        funext m c
        rw [Nat.mul_comm]
        rfl
    _ = n := h

theorem intPart_natText (n : Nat) : IntPart (natText n) := by
  induction n using Nat.strong_induction_on with
  | _ n ih =>
    by_cases h10 : n < 10
    · unfold natText
      rw [Nat.toDigits_of_lt_base h10]
      interval_cases n
      · exact Or.inl rfl
      all_goals exact Or.inr ⟨_, [], rfl, by decide, by decide, by simp⟩
    · have e : natText n = natText (n / 10) ++ [CodePoint.ofChar (Nat.digitChar (n % 10))] := by
        unfold natText
        rw [Nat.toDigits_of_base_le (by norm_num) (by omega), List.map_append]
        rfl
      have hd := natText_digits n
      rw [e] at hd ⊢
      rcases ih (n / 10) (by omega) with h0 | ⟨c, cs, hc, h1, h2, h3⟩
      · have hn : natOf (natText (n / 10)) = 0 := by rw [h0]; rfl
        rw [natOf_natText] at hn
        omega
      · rw [hc] at hd ⊢
        exact Or.inr ⟨c, _, rfl, h1, h2, fun d hd' => hd d (List.mem_cons_of_mem c hd')⟩

theorem intPart_append {ip rest : PyStr} (h : IntPart ip)
    (hr : ∀ c cs, rest = c :: cs → isDigit c = false) : intPart (ip ++ rest) = some (ip, rest) := by
  rcases h with rfl | ⟨c, cs, rfl, h1, h2, h3⟩
  · rfl
  · obtain ⟨ht, hd⟩ := span_digits h3 hr
    rw [List.cons_append, intPart, if_neg h2, if_pos h1, ht, hd]

theorem fraction_stop {s : PyStr} (h : ∀ c cs, s = c :: cs → c ≠ 46) : fraction s = ([], s) := by
  cases s with
  | nil => rfl
  | cons c cs =>
    unfold fraction
    split
    · next r e => exact absurd (List.cons.inj e).1 (h c cs rfl)
    · rfl

theorem fraction_append {ds rest : PyStr} (h : Digits1 ds)
    (hr : ∀ c cs, rest = c :: cs → isDigit c = false) :
    fraction (46 :: (ds ++ rest)) = (46 :: ds, rest) := by
  obtain ⟨ht, hd⟩ := span_digits h.2 hr
  show (if ((ds ++ rest).takeWhile isDigit).isEmpty then _ else _) = _
  rw [ht, hd, if_neg (by rw [List.isEmpty_iff]; exact h.1)]

theorem exponent_stop {s : PyStr} (h : ∀ c cs, s = c :: cs → c ≠ 101 ∧ c ≠ 69) :
    exponent s = ([], s) := by
  cases s with
  | nil => rfl
  | cons c cs =>
    obtain ⟨h1, h2⟩ := h c cs rfl
    show (if c = 101 ∨ c = 69 then _ else _) = _
    rw [if_neg (by rintro (h | h) <;> contradiction)]

theorem exponentSign_append {sg r : PyStr} (hsg : sg = [] ∨ sg = [43] ∨ sg = [45])
    (hr : ∀ c cs, r = c :: cs → isDigit c = true) : exponentSign (sg ++ r) = (sg, r) := by
  rcases hsg with rfl | rfl | rfl
  · cases r with
    | nil => rfl
    | cons c cs =>
      have hc := hr c cs rfl
      show exponentSign (c :: cs) = ([], c :: cs)
      unfold exponentSign
      split
      · next e => rw [(List.cons.inj e).1] at hc; exact absurd hc (by decide)
      · next e => rw [(List.cons.inj e).1] at hc; exact absurd hc (by decide)
      · rfl
  · rfl
  · rfl

theorem exponent_append {e : CodePoint} {sg ds rest : PyStr} (he : e = 101 ∨ e = 69)
    (hsg : sg = [] ∨ sg = [43] ∨ sg = [45]) (h : Digits1 ds)
    (hr : ∀ c cs, rest = c :: cs → isDigit c = false) :
    exponent (e :: (sg ++ (ds ++ rest))) = (e :: (sg ++ ds), rest) := by
  obtain ⟨ht, hd⟩ := span_digits h.2 hr
  have hs : exponentSign (sg ++ (ds ++ rest)) = (sg, ds ++ rest) := by
    refine exponentSign_append hsg fun c cs hc => ?_
    obtain ⟨a, as, rfl⟩ := List.exists_cons_of_ne_nil h.1
    rw [List.cons_append] at hc
    rw [← (List.cons.inj hc).1]
    exact h.2 a List.mem_cons_self
  unfold exponent
  simp only [if_pos he, hs, ht, hd]
  rw [if_neg (by rw [List.isEmpty_iff]; exact h.1)]

theorem numberSign_append {sign r : PyStr} (hs : sign = [] ∨ sign = [45])
    (hr : ∀ c cs, r = c :: cs → c ≠ 45) : numberSign (sign ++ r) = (sign, r) := by
  rcases hs with rfl | rfl
  · cases r with
    | nil => rfl
    | cons c cs =>
      show numberSign (c :: cs) = ([], c :: cs)
      unfold numberSign
      split
      · next e => exact absurd (List.cons.inj e).1 (hr c cs rfl)
      · rfl
  · rfl

theorem intPart_head {ip : PyStr} (h : IntPart ip) :
    ∃ c cs, ip = c :: cs ∧ isDigit c = true := by
  rcases h with rfl | ⟨c, cs, rfl, h1, _, _⟩
  · exact ⟨48, [], rfl, rfl⟩
  · exact ⟨c, cs, rfl, h1⟩

theorem digit_ne {c d : CodePoint} (hc : isDigit c = true) (hd : isDigit d = false) : c ≠ d := by
  rintro rfl
  rw [hc] at hd
  exact absurd hd (by decide)

section
variable (rt : Runtime)

theorem number_int (n : Int) (hn : intFits rt n = true) {rest : PyStr} (hr : Stop rest) :
    number rt (intText n ++ rest) = some (.int n, rest) := by
  have hip := intPart_append (intPart_natText n.natAbs) fun c cs h => (hr c cs h).1
  have hfr := fraction_stop fun c cs h => (hr c cs h).2.1
  have hex := exponent_stop fun c cs h => (hr c cs h).2.2
  obtain ⟨c, cs, hc, hdc⟩ := intPart_head (intPart_natText n.natAbs)
  have hsign : ∃ sign, intText n ++ rest = sign ++ (natText n.natAbs ++ rest) ∧
      (sign = [] ∨ sign = [45]) ∧
      (if sign.isEmpty then (n.natAbs : Int) else -(n.natAbs : Int)) = n := by
    unfold intText
    by_cases hneg : n < 0
    · rw [if_pos hneg]
      refine ⟨[45], rfl, Or.inr rfl, ?_⟩
      show -(n.natAbs : Int) = n
      omega
    · rw [if_neg hneg]
      refine ⟨[], rfl, Or.inl rfl, ?_⟩
      show (n.natAbs : Int) = n
      omega
  obtain ⟨sign, he, hs, hv⟩ := hsign
  have hns := numberSign_append (r := natText n.natAbs ++ rest) hs fun d ds h => by
    rw [hc, List.cons_append] at h
    rw [← (List.cons.inj h).1]
    exact digit_ne hdc (by decide)
  unfold number
  rw [he, hns]
  simp only [hip, hfr, hex, Option.bind_eq_bind, Option.bind_some, natOf_natText, hv, hn]
  rfl

theorem number_float {x : PyFloat} (hx : x.isFinite = true) {rest : PyStr} (hr : Stop rest) :
    number rt (rt.floatRepr x ++ rest) = some (.float x, rest) := by
  obtain ⟨sign, ip, frac, ex, ht, hs, hip, hfrac, hex, hne⟩ := (rt.float_lexeme x hx).parts
  obtain ⟨c, cs, hc, hdc⟩ := intPart_head hip
  have h3 : exponent (ex ++ rest) = (ex, rest) := by
    rcases hex with rfl | ⟨e, sg, ds, he, hsg, hds, rfl⟩
    · exact exponent_stop fun c cs h => (hr c cs h).2.2
    · rw [List.cons_append, List.append_assoc]
      exact exponent_append he hsg hds fun c cs h => (hr c cs h).1
  have hexhead : ∀ c cs, ex ++ rest = c :: cs → isDigit c = false ∧ c ≠ 46 := by
    intro c cs h
    rcases hex with rfl | ⟨e, sg, ds, he, _, _, rfl⟩
    · exact ⟨(hr c cs h).1, (hr c cs h).2.1⟩
    · rw [List.cons_append] at h
      rw [← (List.cons.inj h).1]
      rcases he with rfl | rfl <;> decide
  have h2 : fraction (frac ++ (ex ++ rest)) = (frac, ex ++ rest) := by
    rcases hfrac with rfl | ⟨ds, hds, rfl⟩
    · exact fraction_stop fun c cs h => (hexhead c cs h).2
    · exact fraction_append hds fun c cs h => (hexhead c cs h).1
  have h1 : intPart (ip ++ (frac ++ (ex ++ rest))) = some (ip, frac ++ (ex ++ rest)) := by
    refine intPart_append hip fun c cs h => ?_
    rcases hfrac with rfl | ⟨ds, _, rfl⟩
    · exact (hexhead c cs h).1
    · rw [List.cons_append] at h
      rw [← (List.cons.inj h).1]
      rfl
  have h0 : numberSign (sign ++ (ip ++ (frac ++ (ex ++ rest))))
      = (sign, ip ++ (frac ++ (ex ++ rest))) := by
    refine numberSign_append hs fun d ds h => ?_
    rw [hc, List.cons_append] at h
    rw [← (List.cons.inj h).1]
    exact digit_ne hdc (by decide)
  have hr' : rt.floatOf (sign ++ ip ++ frac ++ ex) = x := by
    rw [← rt.float_roundtrip x hx, ht]
    simp only [List.append_assoc]
  unfold number
  rw [ht]
  simp only [List.append_assoc] at hr' ⊢
  rw [h0]
  simp only [h1, h2, h3, Option.bind_eq_bind, Option.bind_some, List.isEmpty_iff]
  rw [if_neg hne]
  simp only [hr']
  rfl

/-! ### constants -/

def NumberStart (s : PyStr) : Prop :=
  ∃ c cs, isDigit c = true ∧ (s = c :: cs ∨ s = 45 :: c :: cs)

theorem after_none {p : PyStr} {a : CodePoint} {ps : PyStr} (hp : p = a :: ps) {c : CodePoint}
    {cs : PyStr} (h : a ≠ c) : after p (c :: cs) = none := by
  rw [hp, after, if_neg h]

theorem scalar_number {s : PyStr} (h : NumberStart s) : scalar rt s = number rt s := by
  obtain ⟨c, cs, hd, h⟩ := h
  have hinf : py "-Infinity" = 45 :: 73 :: py "nfinity" := by rw [py_ofList, py_ofList]; rfl
  have hc : ∃ d ds, s = d :: ds ∧ d ≠ 110 ∧ d ≠ 116 ∧ d ≠ 102 ∧ d ≠ 78 ∧ d ≠ 73 := by
    rcases h with rfl | rfl
    · exact ⟨c, cs, rfl, digit_ne hd (by decide), digit_ne hd (by decide), digit_ne hd (by decide),
        digit_ne hd (by decide), digit_ne hd (by decide)⟩
    · exact ⟨45, c :: cs, rfl, by decide, by decide, by decide, by decide, by decide⟩
  have hminus : after (py "-Infinity") s = none := by
    rw [hinf]
    rcases h with rfl | rfl
    · exact after_none rfl (digit_ne hd (by decide)).symm
    · rw [after, if_pos rfl, after, if_neg (digit_ne hd (by decide)).symm]
  obtain ⟨d, ds, rfl, h1, h2, h3, h4, h5⟩ := hc
  unfold scalar
  rw [after_none (p := py "null") (by rw [py_ofList]; rfl) h1.symm,
    after_none (p := py "true") (by rw [py_ofList]; rfl) h2.symm,
    after_none (p := py "false") (by rw [py_ofList]; rfl) h3.symm,
    after_none (p := py "NaN") (by rw [py_ofList]; rfl) h4.symm,
    after_none (p := py "Infinity") (by rw [py_ofList]; rfl) h5.symm, hminus]

theorem scalar_null (rest : PyStr) : scalar rt (py "null" ++ rest) = some (.null, rest) := by
  unfold scalar
  rw [after_append]

theorem scalar_bool (b : Bool) (rest : PyStr) :
    scalar rt ((if b then py "true" else py "false") ++ rest) = some (.bool b, rest) := by
  have ht : py "true" = 116 :: py "rue" := by rw [py_ofList, py_ofList]; rfl
  have hf : py "false" = 102 :: py "alse" := by rw [py_ofList, py_ofList]; rfl
  have hn : py "null" = 110 :: py "ull" := by rw [py_ofList, py_ofList]; rfl
  unfold scalar
  cases b with
  | true =>
    rw [if_pos rfl, ht, List.cons_append, after_none hn (by decide), ← List.cons_append, after_append]
  | false =>
    rw [if_neg (by decide), hf, List.cons_append, after_none hn (by decide),
      after_none ht (by decide), ← List.cons_append, after_append]

/-- The float that the reader makes of the text of a float. -/
def rereadFloat (x : PyFloat) : PyFloat :=
  if x.isFinite then x else if x.isNan then nan else if x.negative then negInf else inf

theorem scalar_float {x : PyFloat} (hx : x.isFinite = false) (rest : PyStr) :
    scalar rt (floatText rt x ++ rest) = some (.float (rereadFloat x), rest) := by
  have hnull : py "null" = 110 :: py "ull" := by rw [py_ofList, py_ofList]; rfl
  have htrue : py "true" = 116 :: py "rue" := by rw [py_ofList, py_ofList]; rfl
  have hfalse : py "false" = 102 :: py "alse" := by rw [py_ofList, py_ofList]; rfl
  have hnan : py "NaN" = 78 :: py "aN" := by rw [py_ofList, py_ofList]; rfl
  have hinf : py "Infinity" = 73 :: py "nfinity" := by rw [py_ofList, py_ofList]; rfl
  have hneg : py "-Infinity" = 45 :: py "Infinity" := by rw [py_ofList, py_ofList]; rfl
  unfold floatText rereadFloat
  rw [hx, if_neg Bool.false_ne_true, if_neg Bool.false_ne_true]
  unfold scalar
  split_ifs
  · rw [hnan, List.cons_append, after_none hnull (by decide), after_none htrue (by decide),
      after_none hfalse (by decide), ← List.cons_append, ← hnan, after_append]
  · rw [hneg, List.cons_append, after_none hnull (by decide), after_none htrue (by decide),
      after_none hfalse (by decide), after_none hnan (by decide), after_none hinf (by decide),
      ← List.cons_append, ← hneg, after_append]
  · rw [hinf, List.cons_append, after_none hnull (by decide), after_none htrue (by decide),
      after_none hfalse (by decide), after_none hnan (by decide), ← List.cons_append, ← hinf, after_append]

theorem floatText_start {x : PyFloat} (hx : x.isFinite = false) :
    ∃ c cs, floatText rt x = c :: cs ∧ isBlank c = false ∧ c ≠ 34 ∧ c ≠ 91 ∧ c ≠ 93 ∧ c ≠ 123 := by
  unfold floatText
  rw [hx, if_neg Bool.false_ne_true, py_ofList, py_ofList, py_ofList]
  split_ifs
  · exact ⟨_, _, rfl, by decide⟩
  · exact ⟨_, _, rfl, by decide⟩
  · exact ⟨_, _, rfl, by decide⟩

theorem intText_start (n : Int) (rest : PyStr) : NumberStart (intText n ++ rest) := by
  obtain ⟨c, cs, hc, hd⟩ := intPart_head (intPart_natText n.natAbs)
  unfold intText
  split
  · exact ⟨c, cs ++ rest, hd, Or.inr (by rw [hc]; rfl)⟩
  · exact ⟨c, cs ++ rest, hd, Or.inl (by rw [hc]; rfl)⟩

theorem floatRepr_start {x : PyFloat} (hx : x.isFinite = true) (rest : PyStr) :
    NumberStart (rt.floatRepr x ++ rest) := by
  obtain ⟨sign, ip, frac, ex, ht, hs, hip, _⟩ := (rt.float_lexeme x hx).parts
  obtain ⟨c, cs, hc, hd⟩ := intPart_head hip
  rw [ht, hc]
  rcases hs with rfl | rfl
  · exact ⟨c, cs ++ (frac ++ ex) ++ rest, hd, Or.inl rfl⟩
  · exact ⟨c, cs ++ (frac ++ ex) ++ rest, hd, Or.inr rfl⟩

/-! ### dictionaries of distinct keys -/

theorem dictSet_new {k : PyStr} {v : Json} {d : List (PyStr × Json)} (h : k ∉ d.map Prod.fst) :
    dictSet k v d = d ++ [(k, v)] := by
  induction d with
  | nil => rfl
  | cons kv d ih =>
    rw [List.map_cons, List.mem_cons, not_or] at h
    rw [dictSet, if_neg (Ne.symm h.1), ih h.2, List.cons_append]

theorem dictOf_nodup {kvs : List (PyStr × Json)} (h : (kvs.map Prod.fst).Nodup) :
    dictOf kvs = kvs := by
  have key : ∀ (rest d : List (PyStr × Json)), ((d ++ rest).map Prod.fst).Nodup →
      rest.foldl (fun d kv => dictSet kv.1 kv.2 d) d = d ++ rest := by
    intro rest
    induction rest with
    | nil => intro d _; rw [List.append_nil]; rfl
    | cons kv rest ih =>
      intro d hd
      have hk : kv.1 ∉ d.map Prod.fst := by
        rw [List.map_append, List.map_cons, List.nodup_append] at hd
        exact fun hm => hd.2.2 _ hm _ List.mem_cons_self rfl
      rw [List.foldl_cons, dictSet_new hk, ih _ (by rw [List.append_assoc]; exact hd),
        List.append_assoc]
      rfl
  exact key kvs [] h

/-! ### what is read -/

mutual

def reread : Json → Json
  | .float x => .float (rereadFloat x)
  | .arr xs => .arr (rereadList xs)
  | .obj kvs => .obj (dictOf (rereadItems kvs))
  | j => j

def rereadList : List Json → List Json
  | [] => []
  | x :: xs => reread x :: rereadList xs

def rereadItems : List (PyStr × Json) → List (PyStr × Json)
  | [] => []
  | (k, x) :: kvs => (k, reread x) :: rereadItems kvs

end

theorem rereadList_eq (xs : List Json) : rereadList xs = xs.map reread := by
  induction xs with
  | nil => rfl
  | cons x xs ih => rw [rereadList, ih, List.map_cons]

theorem rereadItems_eq (kvs : List (PyStr × Json)) :
    rereadItems kvs = kvs.map fun kv => (kv.1, reread kv.2) := by
  induction kvs with
  | nil => rfl
  | cons kv kvs ih => rw [rereadItems, ih, List.map_cons]

theorem reread_arr (xs : List Json) : reread (.arr xs) = .arr (xs.map reread) := by
  rw [reread, rereadList_eq]

theorem reread_obj {kvs : List (PyStr × Json)} (h : (kvs.map Prod.fst).Nodup) :
    reread (.obj kvs) = .obj (kvs.map fun kv => (kv.1, reread kv.2)) := by
  rw [reread, rereadItems_eq, dictOf_nodup]
  rw [List.map_map]
  exact h

theorem reread_plain {j : Json} (hp : j.Plain) : reread j = j := by
  induction j using Json.induct with
  | float x =>
    cases hp with
    | float hx => exact congrArg Json.float (if_pos hx)
  | arr xs ih =>
    cases hp with
    | arr hall =>
      rw [reread_arr, List.map_congr_left fun x hx => ih x hx (hall x hx), List.map_id']
  | obj kvs ih =>
    cases hp with
    | obj hk hall =>
      have hsame : ∀ kv ∈ kvs, (kv.1, reread kv.2) = kv := fun kv hkv => by rw [ih kv hkv (hall kv hkv)]
      rw [reread_obj hk, List.map_congr_left hsame, List.map_id']
  | _ => rfl

/-! ### blanks -/

theorem skip_cons {c : CodePoint} {cs : PyStr} (h : isBlank c = false) :
    skip (c :: cs) = c :: cs := by
  unfold skip
  rw [List.dropWhile_cons_of_neg (by rw [h]; decide)]

theorem skip_append {b : PyStr} (h : ∀ c ∈ b, isBlank c = true) (s : PyStr) :
    skip (b ++ s) = skip s := by
  unfold skip
  rw [List.dropWhile_append_of_pos h]

theorem stop_append {b s : PyStr} (h : ∀ c ∈ b, isBlank c = true) (hs : Stop s) : Stop (b ++ s) := by
  cases b with
  | nil => exact hs
  | cons c b =>
    have hc := h c List.mem_cons_self
    simp only [isBlank, Bool.or_eq_true, beq_iff_eq] at hc
    refine stop_cons ?_
    rcases hc with ((rfl | rfl) | rfl) | rfl
    · decide
    · decide
    · decide
    · decide

/-! ### trees -/

section
variable (l : Layout)

theorem floatText_finite {x : PyFloat} (hx : x.isFinite = true) : floatText rt x = rt.floatRepr x := by
  unfold floatText PyFloat.isNan
  rw [hx, if_neg (by simp), if_pos rfl]

theorem textIn_start (j : Json) (d : Nat) :
    ∃ c cs, j.textIn rt l d = c :: cs ∧ isBlank c = false ∧ c ≠ 93 := by
  have number : ∀ s, NumberStart (s ++ []) →
      ∃ c cs, s = c :: cs ∧ isBlank c = false ∧ c ≠ 93 := by
    rintro s ⟨c, cs, hd, h⟩
    rw [List.append_nil] at h
    rcases h with rfl | rfl
    · refine ⟨c, cs, rfl, ?_, digit_ne hd (by decide)⟩
      simp only [isBlank, Bool.or_eq_false_iff, beq_eq_false_iff_ne]
      exact ⟨⟨⟨digit_ne hd (by decide), digit_ne hd (by decide)⟩, digit_ne hd (by decide)⟩,
        digit_ne hd (by decide)⟩
    · exact ⟨45, c :: cs, rfl, by decide, by decide⟩
  cases j with
  | null => exact ⟨110, py "ull", by rw [Json.textIn, py_ofList, py_ofList]; rfl, by decide, by decide⟩
  | bool b =>
    cases b with
    | true =>
      exact ⟨116, py "rue", by rw [Json.textIn, py_ofList, py_ofList]; rfl, by decide, by decide⟩
    | false =>
      refine ⟨102, py "alse", ?_, by decide, by decide⟩
      rw [Json.textIn, py_ofList, py_ofList, py_ofList]
      rfl
  | int n => exact number _ (intText_start n [])
  | float x =>
    rw [Json.textIn]
    cases hx : x.isFinite with
    | true =>
      rw [floatText_finite rt hx]
      exact number _ (floatRepr_start rt hx [])
    | false =>
      obtain ⟨c, cs, hc, hblank, -, -, h93, -⟩ := floatText_start rt hx
      exact ⟨c, cs, hc, hblank, h93⟩
  | str s => exact ⟨34, _, rfl, by decide, by decide⟩
  | arr xs =>
    cases xs with
    | nil => exact ⟨91, _, rfl, by decide, by decide⟩
    | cons x xs => exact ⟨91, _, rfl, by decide, by decide⟩
  | obj kvs =>
    cases kvs with
    | nil => exact ⟨123, _, rfl, by decide, by decide⟩
    | cons kv kvs => exact ⟨123, _, rfl, by decide, by decide⟩

theorem skip_textIn (j : Json) (d : Nat) (rest : PyStr) :
    skip (j.textIn rt l d ++ rest) = j.textIn rt l d ++ rest := by
  obtain ⟨c, cs, hc, hb, _⟩ := textIn_start rt l j d
  rw [hc]
  exact skip_cons hb

theorem elemsIn_stop (d : Nat) (xs : List Json) (rest : PyStr) :
    Stop (Json.elemsIn rt l d xs ++ rest) := by
  cases xs with
  | nil =>
    rw [Json.elemsIn, List.append_assoc]
    exact stop_append (l.closing_blank d) (stop_cons (by decide))
  | cons x xs => exact stop_cons (by decide)

theorem itemsIn_stop (d : Nat) (kvs : List (PyStr × Json)) (rest : PyStr) :
    Stop (Json.itemsIn rt l d kvs ++ rest) := by
  cases kvs with
  | nil =>
    rw [Json.itemsIn, List.append_assoc]
    exact stop_append (l.closing_blank d) (stop_cons (by decide))
  | cons kv kvs => exact stop_cons (by decide)

/-- `value` reads `j` from its text, with fuel for the length of the text. -/
def ReadsBack (j : Json) : Prop :=
  ∀ d n rest, (j.textIn rt l d).length ≤ n → Stop rest →
    value rt n (j.textIn rt l d ++ rest) = some (reread j, rest)

theorem value_scalar {s : PyStr} (n : Nat) {c : CodePoint} {cs : PyStr} (hs : s = c :: cs)
    (h34 : c ≠ 34) (h91 : c ≠ 91) (h123 : c ≠ 123) : value rt (n + 1) s = scalar rt s := by
  subst hs
  rw [value.eq_def]
  split
  · next h => exact absurd h (by simp)
  · next s m hm =>
    obtain rfl := Nat.succ.inj hm
    split
    · next h => exact absurd (List.cons.inj h).1 h34
    · next h => exact absurd (List.cons.inj h).1 h91
    · next h => exact absurd (List.cons.inj h).1 h123
    · rfl

theorem value_number {j : Json} {t : PyStr} {n : Nat} {rest : PyStr} (hn : t.length ≤ n)
    (ht : ∀ r, NumberStart (t ++ r)) (h : number rt (t ++ rest) = some (j, rest)) :
    value rt n (t ++ rest) = some (j, rest) := by
  obtain ⟨c, cs, hd, hs⟩ := ht rest
  have hpos : 0 < n := by
    obtain ⟨c', cs', _, hs'⟩ := ht []
    rw [List.append_nil] at hs'
    rcases hs' with h' | h' <;> rw [h', List.length_cons] at hn <;> omega
  obtain ⟨n, rfl⟩ : ∃ m, n = m + 1 := ⟨n - 1, by omega⟩
  rw [← h, ← scalar_number rt (ht rest)]
  rcases hs with hs | hs
  · exact value_scalar rt n hs (digit_ne hd (by decide)) (digit_ne hd (by decide))
      (digit_ne hd (by decide))
  · exact value_scalar rt n hs (by decide) (by decide) (by decide)

theorem value_bracket (n : Nat) {s : PyStr} {c : CodePoint} {cs : PyStr} (hs : skip s = c :: cs)
    (h93 : c ≠ 93) : value rt (n + 1) (91 :: s) = (do
      let (x, r) ← value rt n (c :: cs)
      let (xs, r') ← elements rt n (skip r)
      return (.arr (x :: xs), r')) := by
  rw [value]
  simp only [hs]
  split
  · next h => exact absurd (List.cons.inj h).1 h93
  · rfl

theorem value_brace (n : Nat) {s cs : PyStr} (hs : skip s = 34 :: cs) :
    value rt (n + 1) (123 :: s) = (do
      let (kv, r) ← item rt n cs
      let (kvs, r') ← items rt n (skip r)
      return (.obj (dictOf (kv :: kvs)), r')) := by
  rw [value]
  simp only [hs]

theorem items_comma (n : Nat) {s cs : PyStr} (hs : skip s = 34 :: cs) :
    items rt (n + 1) (44 :: s) = (do
      let (kv, r) ← item rt n cs
      let (kvs, r') ← items rt n (skip r)
      return (kv :: kvs, r')) := by
  rw [items]
  simp only [hs]

theorem elements_textIn {xs : List Json} (ih : ∀ x ∈ xs, ReadsBack rt l x) (d n : Nat)
    (rest : PyStr) (hn : (Json.elemsIn rt l d xs).length ≤ n) :
    elements rt n (skip (Json.elemsIn rt l d xs ++ rest)) = some (xs.map reread, rest) := by
  induction xs generalizing n with
  | nil =>
    have hs : skip (Json.elemsIn rt l d [] ++ rest) = 93 :: rest := by
      rw [Json.elemsIn, List.append_assoc, skip_append (l.closing_blank d)]
      rfl
    rw [hs]
    rw [Json.elemsIn, List.length_append, List.length_singleton] at hn
    obtain ⟨n, rfl⟩ : ∃ m, n = m + 1 := ⟨n - 1, by omega⟩
    rfl
  | cons x xs ihx =>
    have hx := ih x List.mem_cons_self
    rw [Json.elemsIn, List.length_cons, List.length_append, List.length_append] at hn
    obtain ⟨n, rfl⟩ : ∃ m, n = m + 1 := ⟨n - 1, by omega⟩
    have hv := hx d n (Json.elemsIn rt l d xs ++ rest) (by omega) (elemsIn_stop rt l d xs rest)
    have he := ihx (fun y hy => ih y (List.mem_cons_of_mem x hy)) n (by omega)
    have hs : skip (l.comma d ++ (x.textIn rt l d ++ (Json.elemsIn rt l d xs ++ rest)))
        = x.textIn rt l d ++ (Json.elemsIn rt l d xs ++ rest) := by
      rw [skip_append (l.comma_blank d), skip_textIn rt l x]
    rw [Json.elemsIn, List.cons_append, List.append_assoc, List.append_assoc,
      skip_cons (by decide)]
    show (do
      let (y, r) ← value rt n
        (skip (l.comma d ++ (x.textIn rt l d ++ (Json.elemsIn rt l d xs ++ rest))))
      let (ys, r') ← elements rt n (skip r)
      return (y :: ys, r')) = _
    rw [hs, hv]
    show (do
      let (ys, r') ← elements rt n (skip (Json.elemsIn rt l d xs ++ rest))
      return (reread x :: ys, r')) = _
    rw [he]
    rfl

theorem item_textIn {k : PyStr} {x : Json} (hx : ReadsBack rt l x) {d n : Nat}
    {rest : PyStr} (hn : (x.textIn rt l d).length + 1 ≤ n) (hr : Stop rest) :
    item rt n (k.flatMap Json.escape ++ 34 :: 58 :: (l.colon ++ (x.textIn rt l d ++ rest))) =
      some ((k, reread x), rest) := by
  obtain ⟨n, rfl⟩ : ∃ m, n = m + 1 := ⟨n - 1, by omega⟩
  have hs : skip (l.colon ++ (x.textIn rt l d ++ rest)) = x.textIn rt l d ++ rest := by
    rw [skip_append l.colon_blank, skip_textIn rt l x]
  have hv := hx d n rest (by omega) hr
  rw [item, string_quoted]
  show (do
    let (y, r') ← value rt n (skip (l.colon ++ (x.textIn rt l d ++ rest)))
    return ((k, y), r')) = _
  rw [hs, hv]
  rfl

theorem items_textIn {kvs : List (PyStr × Json)}
    (ih : ∀ kv ∈ kvs, ReadsBack rt l kv.2) (d n : Nat) (rest : PyStr)
    (hn : (Json.itemsIn rt l d kvs).length ≤ n) :
    items rt n (skip (Json.itemsIn rt l d kvs ++ rest)) =
      some (kvs.map fun kv => (kv.1, reread kv.2), rest) := by
  induction kvs generalizing n with
  | nil =>
    have hs : skip (Json.itemsIn rt l d [] ++ rest) = 125 :: rest := by
      rw [Json.itemsIn, List.append_assoc, skip_append (l.closing_blank d)]
      rfl
    rw [hs]
    rw [Json.itemsIn, List.length_append, List.length_singleton] at hn
    obtain ⟨n, rfl⟩ : ∃ m, n = m + 1 := ⟨n - 1, by omega⟩
    rfl
  | cons kv kvs ihk =>
    obtain ⟨k, x⟩ := kv
    have hx : ReadsBack rt l x := ih (k, x) List.mem_cons_self
    simp only [Json.itemsIn, Json.quoted, List.length_cons, List.length_append,
      List.length_nil] at hn
    obtain ⟨n, rfl⟩ : ∃ m, n = m + 1 := ⟨n - 1, by omega⟩
    have hi := @item_textIn rt l k x hx d n _ (by omega) (itemsIn_stop rt l d kvs rest)
    have he := ihk (fun y hy => ih y (List.mem_cons_of_mem _ hy)) n (by omega)
    have ht : Json.itemsIn rt l d ((k, x) :: kvs) ++ rest = 44 :: (l.comma d ++ 34 ::
        (k.flatMap Json.escape ++ 34 :: 58 ::
          (l.colon ++ (x.textIn rt l d ++ (Json.itemsIn rt l d kvs ++ rest))))) := by
      simp only [Json.itemsIn, Json.quoted, List.cons_append, List.append_assoc, List.nil_append]
    have hs : skip (l.comma d ++ 34 :: (k.flatMap Json.escape ++ 34 :: 58 ::
          (l.colon ++ (x.textIn rt l d ++ (Json.itemsIn rt l d kvs ++ rest))))) =
        34 :: (k.flatMap Json.escape ++ 34 :: 58 ::
          (l.colon ++ (x.textIn rt l d ++ (Json.itemsIn rt l d kvs ++ rest)))) := by
      rw [skip_append (l.comma_blank d), skip_cons (by decide)]
    rw [ht, skip_cons (by decide)]
    rw [items_comma rt n hs, hi, Option.bind_eq_bind, Option.bind_some]
    dsimp only
    rw [he]
    rfl

/-- **Round trip of the reader.** -/
theorem value_textIn {j : Json} (hf : j.intsFit rt = true) : ReadsBack rt l j := by
  induction j using Json.induct with
  | null =>
    intro d n rest hn _
    obtain ⟨c, cs, hc, _, _⟩ := textIn_start rt l _ d
    rw [hc, List.length_cons] at hn
    obtain ⟨n, rfl⟩ : ∃ m, n = m + 1 := ⟨n - 1, by omega⟩
    have hs : Json.textIn rt l d .null ++ rest = 110 :: (py "ull" ++ rest) := by
      rw [Json.textIn, py_ofList, py_ofList]
      rfl
    rw [value_scalar rt n hs (by decide) (by decide) (by decide)]
    exact scalar_null rt rest
  | bool b =>
    intro d n rest hn _
    obtain ⟨c, cs, hc, _, _⟩ := textIn_start rt l _ d
    rw [hc, List.length_cons] at hn
    obtain ⟨n, rfl⟩ : ∃ m, n = m + 1 := ⟨n - 1, by omega⟩
    have hs : ∃ e es, Json.textIn rt l d (.bool b) ++ rest = e :: es ∧ e ≠ 34 ∧ e ≠ 91 ∧ e ≠ 123 := by
      cases b with
      | true => exact ⟨116, py "rue" ++ rest, by rw [Json.textIn, py_ofList, py_ofList]; rfl,
          by decide, by decide, by decide⟩
      | false =>
        exact ⟨102, py "alse" ++ rest, by rw [Json.textIn, py_ofList, py_ofList, py_ofList]; rfl,
          by decide, by decide, by decide⟩
    obtain ⟨e, es, he, h1, h2, h3⟩ := hs
    rw [value_scalar rt n he h1 h2 h3, Json.textIn]
    exact scalar_bool rt b rest
  | int i =>
    intro d n rest hn hr
    exact value_number rt hn (intText_start i) (number_int rt i hf hr)
  | float x =>
    intro d n rest hn hr
    rw [Json.textIn] at hn ⊢
    rw [reread]
    cases hx : x.isFinite with
    | true =>
      rw [floatText_finite rt hx] at hn ⊢
      rw [rereadFloat, if_pos hx]
      exact value_number rt hn (floatRepr_start rt hx) (number_float rt hx hr)
    | false =>
      obtain ⟨c, cs, hc, -, h34, h91, -, h123⟩ := floatText_start rt hx
      rw [hc, List.length_cons] at hn
      obtain ⟨n, rfl⟩ : ∃ m, n = m + 1 := ⟨n - 1, by omega⟩
      rw [value_scalar rt n (s := floatText rt x ++ rest) (by rw [hc]; rfl) h34 h91 h123]
      exact scalar_float rt hx rest
  | str s =>
    intro d n rest hn _
    rw [Json.textIn, Json.quoted, List.length_cons] at hn
    obtain ⟨n, rfl⟩ : ∃ m, n = m + 1 := ⟨n - 1, by omega⟩
    rw [Json.textIn, Json.quoted, List.cons_append, List.append_assoc]
    show (string (s.flatMap Json.escape ++ 34 :: rest)).map _ = _
    rw [string_quoted]
    rfl
  | arr xs ih =>
    intro d n rest hn _
    have hfl := (Json.intsFitList_iff rt).mp hf
    have hi : ∀ x ∈ xs, ReadsBack rt l x := fun x hx => ih x hx (hfl x hx)
    rw [reread_arr]
    cases xs with
    | nil =>
      obtain ⟨n, rfl⟩ : ∃ m, n = m + 1 := ⟨n - 1, by simp [Json.textIn] at hn; omega⟩
      rfl
    | cons x xs =>
      rw [Json.textIn, List.length_cons, List.length_append, List.length_append] at hn
      obtain ⟨n, rfl⟩ : ∃ m, n = m + 1 := ⟨n - 1, by omega⟩
      have hx := hi x List.mem_cons_self
      obtain ⟨c, cs, hc, hb, h93⟩ := textIn_start rt l x (d + 1)
      have hv := hx (d + 1) n (Json.elemsIn rt l (d + 1) xs ++ rest) (by omega)
        (elemsIn_stop rt l (d + 1) xs rest)
      have he := elements_textIn rt l (fun y hy => hi y (List.mem_cons_of_mem x hy)) (d + 1) n rest
        (by omega)
      have hs : skip (l.opening (d + 1) ++
          (x.textIn rt l (d + 1) ++ (Json.elemsIn rt l (d + 1) xs ++ rest))) =
          c :: (cs ++ (Json.elemsIn rt l (d + 1) xs ++ rest)) := by
        rw [skip_append (l.opening_blank (d + 1)), skip_textIn rt l x, hc]
        rfl
      rw [Json.textIn, List.cons_append, List.append_assoc, List.append_assoc,
        value_bracket rt n hs h93]
      rw [hc, List.cons_append] at hv
      rw [hv]
      show (do
        let (ys, r') ← elements rt n (skip (Json.elemsIn rt l (d + 1) xs ++ rest))
        return (Json.arr (reread x :: ys), r')) = _
      rw [he]
      rfl
  | obj kvs ih =>
    intro d n rest hn _
    have hfl := (Json.intsFitItems_iff rt).mp hf
    have hi : ∀ kv ∈ kvs, ReadsBack rt l kv.2 := fun kv hkv => ih kv hkv (hfl kv hkv)
    rw [reread, rereadItems_eq]
    cases kvs with
    | nil =>
      obtain ⟨n, rfl⟩ : ∃ m, n = m + 1 := ⟨n - 1, by simp [Json.textIn] at hn; omega⟩
      rfl
    | cons kv kvs =>
      obtain ⟨k, x⟩ := kv
      simp only [Json.textIn, Json.quoted, List.length_cons, List.length_append,
        List.length_nil] at hn
      obtain ⟨n, rfl⟩ : ∃ m, n = m + 1 := ⟨n - 1, by omega⟩
      have hx : ReadsBack rt l x := hi (k, x) List.mem_cons_self
      have hv := @item_textIn rt l k x hx (d + 1) n _ (by omega)
        (itemsIn_stop rt l (d + 1) kvs rest)
      have he := items_textIn rt l (fun y hy => hi y (List.mem_cons_of_mem _ hy)) (d + 1) n rest
        (by omega)
      have ht : Json.textIn rt l d (.obj ((k, x) :: kvs)) ++ rest = 123 :: (l.opening (d + 1) ++
          34 :: (k.flatMap Json.escape ++ 34 :: 58 :: (l.colon ++
            (x.textIn rt l (d + 1) ++ (Json.itemsIn rt l (d + 1) kvs ++ rest))))) := by
        simp only [Json.textIn, Json.quoted, List.cons_append, List.append_assoc, List.nil_append]
      have hs : skip (l.opening (d + 1) ++
          34 :: (k.flatMap Json.escape ++ 34 :: 58 :: (l.colon ++
            (x.textIn rt l (d + 1) ++ (Json.itemsIn rt l (d + 1) kvs ++ rest))))) =
          34 :: (k.flatMap Json.escape ++ 34 :: 58 :: (l.colon ++
            (x.textIn rt l (d + 1) ++ (Json.itemsIn rt l (d + 1) kvs ++ rest)))) := by
        rw [skip_append (l.opening_blank (d + 1)), skip_cons (by decide)]
      rw [ht, value_brace rt n hs, hv]
      show (do
        let (kvs', r') ← items rt n (skip (Json.itemsIn rt l (d + 1) kvs ++ rest))
        return (Json.obj (dictOf ((k, reread x) :: kvs')), r')) = _
      rw [he]
      rfl

theorem loads_textIn_reread {j : Json} (hf : j.intsFit rt = true) {b : PyStr}
    (hb : ∀ c ∈ b, isBlank c = true) : loads rt (j.textIn rt l 0 ++ b) = some (reread j) := by
  have hstop := stop_append hb stop_nil
  rw [List.append_nil] at hstop
  have hv := value_textIn rt l hf 0 ((j.textIn rt l 0 ++ b).length + 1) b
    (by rw [List.length_append]; omega) hstop
  have hrest : skip b = [] := by
    rw [← List.append_nil b, skip_append hb]
    rfl
  unfold loads
  rw [skip_textIn rt l j, hv]
  show (if (skip b).isEmpty = true then some (reread j) else none) = _
  rw [hrest]
  rfl

theorem loads_textIn_append {j : Json} (hp : j.Plain) (hf : j.intsFit rt = true) {b : PyStr}
    (hb : ∀ c ∈ b, isBlank c = true) : loads rt (j.textIn rt l 0 ++ b) = some j := by
  rw [loads_textIn_reread rt l hf hb, reread_plain hp]

theorem loads_textIn {j : Json} (hp : j.Plain) (hf : j.intsFit rt = true) :
    loads rt (j.textIn rt l 0) = some j := by
  have h := @loads_textIn_append rt l j hp hf [] fun c hc => absurd hc List.not_mem_nil
  rw [List.append_nil] at h
  exact h

/-! ### the characters of a text -/

def isPrintableAscii (c : CodePoint) : Bool := 32 ≤ c.val && c.val < 128

theorem escape_chars (c : CodePoint) :
    ∀ x ∈ Json.escape c, isPrintableAscii x = true ∨ x = c ∧ 32 ≤ c.val := by
  intro x hx
  have hhex : x ∈ hexText 4 c.val → isPrintableAscii x = true := by
    intro h
    have hc := hexText_isHex 4 c.val x h
    simp only [isHex, isDigit, Bool.or_eq_true, Bool.and_eq_true, decide_eq_true_eq] at hc
    simp only [isPrintableAscii, Bool.and_eq_true, decide_eq_true_eq]
    omega
  have hlit : ∀ a b : CodePoint, isPrintableAscii a = true → isPrintableAscii b = true →
      x ∈ [a, b] → isPrintableAscii x = true := by
    intro a b ha hb h
    rcases List.mem_cons.mp h with rfl | h
    · exact ha
    · rw [List.mem_singleton.mp h]
      exact hb
  unfold Json.escape at hx
  split_ifs at hx with h34 h92 h8 h9 h10 h12 h13 hlt
  · exact Or.inl (hlit _ _ rfl rfl hx)
  · exact Or.inl (hlit _ _ rfl rfl hx)
  · exact Or.inl (hlit _ _ rfl rfl hx)
  · exact Or.inl (hlit _ _ rfl rfl hx)
  · exact Or.inl (hlit _ _ rfl rfl hx)
  · exact Or.inl (hlit _ _ rfl rfl hx)
  · exact Or.inl (hlit _ _ rfl rfl hx)
  · rcases List.mem_cons.mp hx with rfl | hx
    · exact Or.inl rfl
    · rcases List.mem_cons.mp hx with rfl | hx
      · exact Or.inl rfl
      · exact Or.inl (hhex hx)
  · exact Or.inr ⟨List.mem_singleton.mp hx, by omega⟩

section
variable {P : CodePoint → Prop}

theorem quoted_chars (hascii : ∀ c, isPrintableAscii c = true → P c) {s : PyStr}
    (hs : ∀ c ∈ s, 32 ≤ c.val → P c) : ∀ c ∈ Json.quoted s, P c := by
  intro c hc
  rcases List.mem_cons.mp hc with rfl | hc
  · exact hascii _ rfl
  · rcases List.mem_append.mp hc with hc | hc
    · obtain ⟨e, he, hc⟩ := List.mem_flatMap.mp hc
      rcases escape_chars e c hc with h | ⟨rfl, h⟩
      · exact hascii c h
      · exact hs c he h
    · rw [List.mem_singleton.mp hc]
      exact hascii _ rfl

theorem digits_chars (hascii : ∀ c, isPrintableAscii c = true → P c) {s : PyStr}
    (h : ∀ c ∈ s, isDigit c = true) : ∀ c ∈ s, P c := by
  intro c hc
  have hd := h c hc
  simp only [isDigit, Bool.and_eq_true, decide_eq_true_eq] at hd
  refine hascii c ?_
  simp only [isPrintableAscii, Bool.and_eq_true, decide_eq_true_eq]
  omega

theorem intText_chars (hascii : ∀ c, isPrintableAscii c = true → P c) (n : Int) :
    ∀ c ∈ intText n, P c := by
  have hnat := digits_chars hascii (natText_digits n.natAbs)
  unfold intText
  split
  · intro c hc
    rcases List.mem_cons.mp hc with rfl | hc
    · exact hascii _ rfl
    · exact hnat c hc
  · exact hnat

theorem floatRepr_chars (hascii : ∀ c, isPrintableAscii c = true → P c) {x : PyFloat}
    (hx : x.isFinite = true) : ∀ c ∈ rt.floatRepr x, P c := by
  obtain ⟨sign, ip, frac, ex, ht, hs, hip, hfrac, hex, _⟩ := (rt.float_lexeme x hx).parts
  have hdigit : ∀ c, isDigit c = true → P c := fun c hc =>
    digits_chars hascii (s := [c]) (List.forall_mem_singleton.mpr hc) c (List.mem_singleton_self c)
  rw [ht]
  simp only [List.forall_mem_append]
  refine ⟨?_, ?_, ?_, ?_⟩
  · rcases hs with rfl | rfl
    · exact fun c hc => absurd hc List.not_mem_nil
    · exact List.forall_mem_singleton.mpr (hascii _ rfl)
  · rcases hip with rfl | ⟨c, cs, rfl, h1, _, h3⟩
    · exact List.forall_mem_singleton.mpr (hascii _ rfl)
    · exact List.forall_mem_cons.mpr ⟨hdigit c h1, fun d hd => hdigit d (h3 d hd)⟩
  · rcases hfrac with rfl | ⟨ds, hds, rfl⟩
    · exact fun c hc => absurd hc List.not_mem_nil
    · exact List.forall_mem_cons.mpr ⟨hascii _ rfl, fun d hd => hdigit d (hds.2 d hd)⟩
  · rcases hex with rfl | ⟨e, sg, ds, he, hsg, hds, rfl⟩
    · exact fun c hc => absurd hc List.not_mem_nil
    · rw [List.forall_mem_cons, List.forall_mem_append]
      refine ⟨?_, ?_, fun d hd => hdigit d (hds.2 d hd)⟩
      · rcases he with rfl | rfl
        · exact hascii _ rfl
        · exact hascii _ rfl
      · rcases hsg with rfl | rfl | rfl
        · exact fun c hc => absurd hc List.not_mem_nil
        · exact List.forall_mem_singleton.mpr (hascii _ rfl)
        · exact List.forall_mem_singleton.mpr (hascii _ rfl)

theorem lit_chars (hascii : ∀ c, isPrintableAscii c = true → P c) (cs : List Char)
    (h : cs.all (fun c => 32 ≤ c.toNat && c.toNat < 128) = true) :
    ∀ c ∈ py (String.ofList cs), P c := by
  rw [py_ofList]
  intro c hc
  obtain ⟨d, hd, rfl⟩ := List.mem_map.mp hc
  exact hascii _ (List.all_eq_true.mp h d hd)

/-- The characters of a text are printable ASCII, blanks of the layout, and characters of the
strings that are not escaped. -/
theorem textIn_chars (hascii : ∀ c, isPrintableAscii c = true → P c)
    (hcolon : ∀ c ∈ l.colon, P c) (hopening : ∀ d, ∀ c ∈ l.opening d, P c)
    (hcomma : ∀ d, ∀ c ∈ l.comma d, P c) (hclosing : ∀ d, ∀ c ∈ l.closing d, P c) {j : Json}
    (hp : j.Plain) (hs : ∀ s ∈ j.strings, ∀ c ∈ s, 32 ≤ c.val → P c) (d : Nat) :
    ∀ c ∈ j.textIn rt l d, P c := by
  induction j using Json.induct generalizing d with
  | null => exact lit_chars hascii _ (by decide)
  | bool b =>
    cases b with
    | true => exact lit_chars hascii _ (by decide)
    | false => exact lit_chars hascii _ (by decide)
  | int n => exact intText_chars hascii n
  | float x =>
    cases hp with
    | float hx =>
      rw [Json.textIn, floatText_finite rt hx]
      exact floatRepr_chars rt hascii hx
  | str s => exact quoted_chars hascii (hs s (List.mem_singleton_self s))
  | arr xs ih =>
    cases hp with
    | arr hall =>
      rw [Json.strings] at hs
      have helems : ∀ (ys : List Json) (d : Nat), (∀ y ∈ ys, ∀ d, ∀ c ∈ y.textIn rt l d, P c) →
          ∀ c ∈ Json.elemsIn rt l d ys, P c := by
        intro ys d
        induction ys with
        | nil =>
          intro _
          rw [Json.elemsIn, List.forall_mem_append]
          exact ⟨hclosing d, List.forall_mem_singleton.mpr (hascii _ rfl)⟩
        | cons y ys ihy =>
          intro h
          rw [Json.elemsIn, List.forall_mem_cons, List.forall_mem_append, List.forall_mem_append]
          exact ⟨hascii _ rfl, hcomma d, h y List.mem_cons_self d,
            ihy fun z hz => h z (List.mem_cons_of_mem y hz)⟩
      have hmem : ∀ y ∈ xs, ∀ s ∈ y.strings, s ∈ Json.stringsList xs := by
        clear ih hall hs
        induction xs with
        | nil => exact fun y hy => absurd hy List.not_mem_nil
        | cons x xs ihx =>
          intro y hy s h
          rw [Json.stringsList, List.mem_append]
          rcases List.mem_cons.mp hy with rfl | hy
          · exact Or.inl h
          · exact Or.inr (ihx y hy s h)
      have hchars : ∀ y ∈ xs, ∀ d, ∀ c ∈ y.textIn rt l d, P c := fun y hy d =>
        ih y hy (hall y hy) (fun s h => hs s (hmem y hy s h)) d
      cases xs with
      | nil =>
        rw [Json.textIn]
        exact List.forall_mem_cons.mpr ⟨hascii _ rfl, List.forall_mem_singleton.mpr (hascii _ rfl)⟩
      | cons x xs =>
        rw [Json.textIn, List.forall_mem_cons, List.forall_mem_append, List.forall_mem_append]
        exact ⟨hascii _ rfl, hopening _, hchars x List.mem_cons_self _,
          helems xs _ fun y hy => hchars y (List.mem_cons_of_mem x hy)⟩
  | obj kvs ih =>
    cases hp with
    | obj hk hall =>
      rw [Json.strings] at hs
      have hitems : ∀ (ys : List (PyStr × Json)) (d : Nat),
          (∀ y ∈ ys, (∀ c ∈ y.1, 32 ≤ c.val → P c) ∧ ∀ d, ∀ c ∈ y.2.textIn rt l d, P c) →
          ∀ c ∈ Json.itemsIn rt l d ys, P c := by
        intro ys d
        induction ys with
        | nil =>
          intro _
          rw [Json.itemsIn, List.forall_mem_append]
          exact ⟨hclosing d, List.forall_mem_singleton.mpr (hascii _ rfl)⟩
        | cons y ys ihy =>
          obtain ⟨k, x⟩ := y
          intro h
          obtain ⟨hkey, hx⟩ := h (k, x) List.mem_cons_self
          rw [Json.itemsIn]
          simp only [List.forall_mem_cons, List.forall_mem_append]
          exact ⟨hascii _ rfl, hcomma d, quoted_chars hascii hkey, hascii _ rfl, hcolon, hx d,
            ihy fun z hz => h z (List.mem_cons_of_mem _ hz)⟩
      have hmem : ∀ y ∈ kvs, y.1 ∈ Json.stringsItems kvs ∧
          ∀ s ∈ y.2.strings, s ∈ Json.stringsItems kvs := by
        clear ih hall hs hk
        induction kvs with
        | nil => exact fun y hy => absurd hy List.not_mem_nil
        | cons kv kvs ihk =>
          obtain ⟨k, x⟩ := kv
          intro y hy
          rw [Json.stringsItems]
          rcases List.mem_cons.mp hy with rfl | hy
          · exact ⟨List.mem_cons_self, fun s h => List.mem_cons_of_mem _ (List.mem_append_left _ h)⟩
          · obtain ⟨h1, h2⟩ := ihk y hy
            exact ⟨List.mem_cons_of_mem _ (List.mem_append_right _ h1), fun s h =>
              List.mem_cons_of_mem _ (List.mem_append_right _ (h2 s h))⟩
      have hchars : ∀ y ∈ kvs, (∀ c ∈ y.1, 32 ≤ c.val → P c) ∧
          ∀ d, ∀ c ∈ y.2.textIn rt l d, P c := fun y hy =>
        ⟨hs y.1 (hmem y hy).1, fun d => ih y hy (hall y hy) (fun s h => hs s ((hmem y hy).2 s h)) d⟩
      cases kvs with
      | nil =>
        rw [Json.textIn]
        exact List.forall_mem_cons.mpr ⟨hascii _ rfl, List.forall_mem_singleton.mpr (hascii _ rfl)⟩
      | cons kv kvs =>
        obtain ⟨k, x⟩ := kv
        obtain ⟨hkey, hx⟩ := hchars (k, x) List.mem_cons_self
        rw [Json.textIn]
        simp only [List.forall_mem_cons, List.forall_mem_append]
        exact ⟨hascii _ rfl, hopening _, quoted_chars hascii hkey, hascii _ rfl, hcolon, hx _,
          hitems kvs _ fun y hy => hchars y (List.mem_cons_of_mem _ hy)⟩

theorem spaced_chars (hascii : ∀ c, isPrintableAscii c = true → P c) {j : Json} (hp : j.Plain)
    (hs : ∀ s ∈ j.strings, ∀ c ∈ s, 32 ≤ c.val → P c) : ∀ c ∈ j.textIn rt .spaced 0, P c := by
  have hblank : P 32 := hascii 32 rfl
  refine textIn_chars rt .spaced hascii ?_ ?_ ?_ ?_ hp hs 0
  · exact List.forall_mem_singleton.mpr hblank
  · exact fun d c hc => absurd hc List.not_mem_nil
  · exact fun d => List.forall_mem_singleton.mpr hblank
  · exact fun d c hc => absurd hc List.not_mem_nil

end

theorem mem_strings_obj {kvs : List (PyStr × Json)} {s : PyStr} :
    s ∈ (Json.obj kvs).strings ↔ ∃ kv ∈ kvs, s = kv.1 ∨ s ∈ kv.2.strings := by
  rw [Json.strings]
  induction kvs with
  | nil => simp [Json.stringsItems]
  | cons kv kvs ih =>
    obtain ⟨k, x⟩ := kv
    rw [Json.stringsItems, List.mem_cons, List.mem_append, ih, List.exists_mem_cons_iff, or_assoc]

theorem encodable_spaced {j : Json} (hp : j.Plain) (hs : ∀ s ∈ j.strings, Encodable s) :
    Encodable (j.textIn rt .spaced 0) := by
  refine spaced_chars rt (fun c hc => ?_) hp fun s h c hc _ => hs s h c hc
  simp only [isPrintableAscii, Bool.and_eq_true, decide_eq_true_eq] at hc
  simp only [isSurrogate, Bool.and_eq_false_iff, decide_eq_false_iff_not]
  omega

theorem spaced_oneLine {j : Json} (hp : j.Plain) :
    ∀ c ∈ j.textIn rt .spaced 0, c ≠ 10 ∧ c ≠ 13 := by
  refine spaced_chars rt (fun c hc => ?_) hp fun s _ c _ h => ?_
  · constructor <;> (rintro rfl; exact absurd hc (by decide))
  · constructor <;> (rintro rfl; exact absurd h (by decide))

/-! ### the ends of an object -/

theorem itemsIn_end (d : Nat) (kvs : List (PyStr × Json)) :
    ∃ pre, Json.itemsIn rt l d kvs = pre ++ [125] := by
  induction kvs with
  | nil => exact ⟨l.closing d, rfl⟩
  | cons kv kvs ih =>
    obtain ⟨k, x⟩ := kv
    obtain ⟨pre, e⟩ := ih
    rw [Json.itemsIn, e]
    refine ⟨44 :: (l.comma d ++ (Json.quoted k ++ 58 :: (l.colon ++ (x.textIn rt l d ++ pre)))), ?_⟩
    simp

theorem textIn_obj (d : Nat) (kvs : List (PyStr × Json)) :
    ∃ pre, (Json.obj kvs).textIn rt l d = 123 :: (pre ++ [125]) := by
  cases kvs with
  | nil => exact ⟨[], rfl⟩
  | cons kv kvs =>
    obtain ⟨k, x⟩ := kv
    obtain ⟨pre, e⟩ := itemsIn_end rt l (d + 1) kvs
    rw [Json.textIn, e]
    refine ⟨l.opening (d + 1) ++ (Json.quoted k ++ 58 :: (l.colon ++ (x.textIn rt l (d + 1) ++
      pre))), ?_⟩
    simp

end

/-! ### the compact text -/

theorem text_eq_textIn {j : Json} (hp : j.Plain) (d : Nat) :
    j.text rt = j.textIn rt .compact d := by
  induction j using Json.induct generalizing d with
  | float x =>
    cases hp with
    | float hx => rw [Json.text, Json.textIn, floatText_finite rt hx]
  | arr xs ih =>
    cases hp with
    | arr hall =>
      have htail : ∀ ys : List Json, (∀ y ∈ ys, y.text rt = y.textIn rt .compact (d + 1)) →
          Json.textElems rt ys = Json.elemsIn rt .compact (d + 1) ys := by
        intro ys
        induction ys with
        | nil => exact fun _ => rfl
        | cons y ys ihy =>
          intro h
          rw [Json.textElems, Json.elemsIn, h y List.mem_cons_self,
            ihy fun z hz => h z (List.mem_cons_of_mem y hz)]
          rfl
      have hall' := fun y hy => ih y hy (hall y hy) (d + 1)
      cases xs with
      | nil => rfl
      | cons x xs =>
        rw [Json.text, Json.textIn, hall' x List.mem_cons_self,
          htail xs fun y hy => hall' y (List.mem_cons_of_mem x hy)]
        rfl
  | obj kvs ih =>
    cases hp with
    | obj hk hall =>
      have htail : ∀ ys : List (PyStr × Json),
          (∀ y ∈ ys, y.2.text rt = y.2.textIn rt .compact (d + 1)) →
          Json.textItems rt ys = Json.itemsIn rt .compact (d + 1) ys := by
        intro ys
        induction ys with
        | nil => exact fun _ => rfl
        | cons y ys ihy =>
          obtain ⟨k, x⟩ := y
          intro h
          have hx : x.text rt = x.textIn rt .compact (d + 1) := h (k, x) List.mem_cons_self
          rw [Json.textItems, Json.itemsIn, hx, ihy fun z hz => h z (List.mem_cons_of_mem _ hz)]
          rfl
      have hall' := fun y hy => ih y hy (hall y hy) (d + 1)
      cases kvs with
      | nil => rfl
      | cons kv kvs =>
        obtain ⟨k, x⟩ := kv
        have hx : x.text rt = x.textIn rt .compact (d + 1) := hall' (k, x) List.mem_cons_self
        rw [Json.text, Json.textIn, hx, htail kvs fun y hy => hall' y (List.mem_cons_of_mem _ hy)]
        rfl
  | _ => rfl

theorem loads_text {j : Json} (hp : j.Plain) (hf : j.intsFit rt = true) :
    loads rt (j.text rt) = some j := by
  rw [text_eq_textIn rt hp 0]
  exact loads_textIn rt .compact hp hf

/-- The text determines the tree. -/
theorem text_inj {j j' : Json} (hp : j.Plain) (hf : j.intsFit rt = true) (hp' : j'.Plain)
    (hf' : j'.intsFit rt = true) (h : j.text rt = j'.text rt) : j = j' := by
  have hj := loads_text rt hp hf
  rw [h, loads_text rt hp' hf'] at hj
  exact (Option.some.inj hj).symm

end

end JsonLoad
end Py
