import TomtitAgent.Python.Utf8

/-!
# Lines of a text

* `isLineBreak`, `splitlines`   `str.splitlines()`: it splits at more than the newline;
* `universalNewlines`   what reading a file in text mode makes of `\r` and `\r\n`;
* `decodeText`   a file read in text mode as UTF-8;
* `textLines`   the lines of a file read in text mode, which end at the newline alone;
* `splitlines_lines`   lines without a line break, each with its newline, split into themselves;
* `universalNewlines_eq_self_iff`   a text is read back exactly when it has no carriage return;
* `filledLines`   the number of lines that are not blank, at least two where a text that starts and
                  ends with other characters has a line break.
-/

namespace Py

/-- A line boundary of `str.splitlines`. -/
def isLineBreak (c : CodePoint) : Bool :=
  (10 ≤ c.val && c.val ≤ 13) || (0x1C ≤ c.val && c.val ≤ 0x1E) || c.val == 0x85 ||
    c.val == 0x2028 || c.val == 0x2029

/-- `s.splitlines()` -/
def splitlines : PyStr → List PyStr
  | [] => []
  | 13 :: 10 :: rest => [] :: splitlines rest
  | c :: rest =>
    if isLineBreak c then [] :: splitlines rest
    else match splitlines rest with
      | [] => [[c]]
      | line :: lines => (c :: line) :: lines

/-- The translation of line ends in text mode: `\r\n` and `\r` are read as `\n`. -/
def universalNewlines : PyStr → PyStr
  | [] => []
  | 13 :: 10 :: rest => 10 :: universalNewlines rest
  | c :: rest => (if c = 13 then 10 else c) :: universalNewlines rest

/-- `path.read_text(encoding="utf-8")`, `none` where it raises. -/
def decodeText (b : Bytes) : Option PyStr := (decodeUtf8 b).map universalNewlines

theorem splitlines_cons {c : CodePoint} (h : isLineBreak c = false) (rest : PyStr) :
    splitlines (c :: rest) = match splitlines rest with
      | [] => [[c]]
      | line :: lines => (c :: line) :: lines := by
  rw [splitlines]
  · rw [if_neg (by rw [h]; simp)]
  · rintro tail rfl
    exact absurd h (by decide)

theorem splitlines_newline (rest : PyStr) : splitlines (10 :: rest) = [] :: splitlines rest := by
  rw [splitlines]
  · rfl
  · intro tail h
    exact absurd h (by decide)

theorem splitlines_line {line : PyStr} (h : ∀ c ∈ line, isLineBreak c = false) (rest : PyStr) :
    splitlines (line ++ 10 :: rest) = line :: splitlines rest := by
  induction line with
  | nil => exact splitlines_newline rest
  | cons c line ih =>
    have hrest := ih fun d hd => h d (List.mem_cons_of_mem c hd)
    rw [List.cons_append, splitlines_cons (h c List.mem_cons_self), hrest]

theorem splitlines_lines {lines : List PyStr}
    (h : ∀ line ∈ lines, ∀ c ∈ line, isLineBreak c = false) :
    splitlines (lines.flatMap fun line => line ++ [10]) = lines := by
  induction lines with
  | nil => rfl
  | cons line lines ih =>
    have hrest := ih fun l hl => h l (List.mem_cons_of_mem line hl)
    rw [List.flatMap_cons, List.append_assoc, List.singleton_append,
      splitlines_line (h line List.mem_cons_self), hrest]

theorem universalNewlines_mem (s : PyStr) : (13 : CodePoint) ∉ universalNewlines s := by
  induction s using universalNewlines.induct with
  | case1 => exact List.not_mem_nil
  | case2 rest ih =>
    rw [universalNewlines, List.mem_cons, not_or]
    exact ⟨by decide, ih⟩
  | case3 c rest h ih =>
    have hne : (13 : CodePoint) ≠ if c = 13 then 10 else c := by
      split_ifs with hc
      · decide
      · exact Ne.symm hc
    rw [universalNewlines]
    · rw [List.mem_cons, not_or]
      exact ⟨hne, ih⟩
    · exact h

theorem universalNewlines_eq_self {s : PyStr} (h : (13 : CodePoint) ∉ s) :
    universalNewlines s = s := by
  induction s with
  | nil => rfl
  | cons c s ih =>
    rw [List.mem_cons, not_or] at h
    have hc : c ≠ 13 := Ne.symm h.1
    rw [universalNewlines]
    · rw [if_neg hc, ih h.2]
    · intro rest e
      exact absurd e hc

/-- A text survives being read in text mode exactly when it has no carriage return. -/
theorem universalNewlines_eq_self_iff {s : PyStr} :
    universalNewlines s = s ↔ (13 : CodePoint) ∉ s := by
  constructor
  · intro h
    rw [← h]
    exact universalNewlines_mem s
  · exact universalNewlines_eq_self

theorem decodeText_utf8 {s : PyStr} (h : Encodable s) :
    decodeText (utf8Bytes s) = some (universalNewlines s) := by
  unfold decodeText
  rw [decode_encode (encodeUtf8_of h)]
  rfl

theorem universalNewlines_append (s rest : PyStr) :
    universalNewlines (s ++ 10 :: rest) = universalNewlines (s ++ [10]) ++ universalNewlines rest := by
  have hcons : ∀ {c : CodePoint} {t : PyStr}, (∀ u, c = 13 → t ≠ 10 :: u) →
      universalNewlines (c :: t) = (if c = 13 then 10 else c) :: universalNewlines t := by
    intro c t h
    rw [universalNewlines]
    intro u hc ht
    exact h u hc ht
  induction s using universalNewlines.induct with
  | case1 =>
    rw [List.nil_append, List.nil_append, hcons fun _ h => absurd h (by decide),
      hcons fun _ h => absurd h (by decide)]
    rfl
  | case2 t ih =>
    rw [List.cons_append, List.cons_append, List.cons_append, List.cons_append, universalNewlines,
      universalNewlines, ih]
    rfl
  | case3 c t h ih =>
    cases t with
    | nil =>
      by_cases hc : c = 13
      · subst hc
        rfl
      · rw [List.singleton_append, List.singleton_append, hcons fun _ e => absurd e hc,
          hcons fun _ e => absurd e hc, hcons fun _ e => absurd e (by decide),
          hcons fun _ e => absurd e (by decide)]
        rfl
    | cons d t =>
      have hd : ∀ u r, c = 13 → (d :: t) ++ r ≠ 10 :: u := by
        intro u r hc e
        exact h t hc (by rw [(List.cons.inj e).1])
      have hone : ∀ r, universalNewlines (c :: (d :: t ++ r)) =
          (if c = 13 then 10 else c) :: universalNewlines (d :: t ++ r) := fun r => hcons fun u => hd u r
      show universalNewlines (c :: (d :: t ++ 10 :: rest)) = universalNewlines (c :: (d :: t ++ [10])) ++ _
      rw [hone, hone, ih]
      rfl

/-- The lines of a text, each without its newline. -/
def textLines : PyStr → List PyStr
  | [] => []
  | c :: rest =>
    if c = 10 then [] :: textLines rest
    else match textLines rest with
      | [] => [[c]]
      | line :: lines => (c :: line) :: lines

theorem textLines_append (s rest : PyStr) :
    textLines (s ++ 10 :: rest) = textLines (s ++ [10]) ++ textLines rest := by
  induction s with
  | nil => rfl
  | cons c s ih =>
    rw [List.cons_append, List.cons_append, textLines, textLines, ih]
    by_cases hc : c = 10
    · rw [if_pos hc, if_pos hc, List.cons_append]
    · rw [if_neg hc, if_neg hc]
      cases e : textLines (s ++ [10]) with
      | nil =>
        have hne : textLines (s ++ [10]) ≠ [] := by
          cases s with
          | nil => exact List.cons_ne_nil _ _
          | cons d s =>
            rw [List.cons_append, textLines]
            split_ifs
            · exact List.cons_ne_nil _ _
            · split
              · exact List.cons_ne_nil _ _
              · exact List.cons_ne_nil _ _
        exact absurd e hne
      | cons line lines => rfl

theorem universalNewlines_newline (s : PyStr) : ∃ t, universalNewlines (s ++ [10]) = t ++ [10] := by
  induction s using universalNewlines.induct with
  | case1 => exact ⟨[], rfl⟩
  | case2 t ih =>
    obtain ⟨u, hu⟩ := ih
    refine ⟨10 :: u, ?_⟩
    rw [List.cons_append, List.cons_append, universalNewlines, hu]
    rfl
  | case3 c t h ih =>
    cases t with
    | nil =>
      by_cases hc : c = 13
      · subst hc
        exact ⟨[], rfl⟩
      · refine ⟨[c], ?_⟩
        rw [List.singleton_append, universalNewlines, if_neg hc]
        · rfl
        · exact fun _ e => absurd e hc
    | cons d t =>
      obtain ⟨u, hu⟩ := ih
      refine ⟨(if c = 13 then 10 else c) :: u, ?_⟩
      rw [List.cons_append, universalNewlines, hu]
      · rfl
      · intro u hc e
        exact h t hc (by rw [(List.cons.inj e).1])

theorem fileLines_append (s rest : PyStr) :
    textLines (universalNewlines (s ++ 10 :: rest)) =
      textLines (universalNewlines (s ++ [10])) ++ textLines (universalNewlines rest) := by
  obtain ⟨t, ht⟩ := universalNewlines_newline s
  rw [universalNewlines_append, ht, List.append_assoc]
  exact textLines_append t _

theorem textLines_line {line : PyStr} (h : (10 : CodePoint) ∉ line) : textLines (line ++ [10]) = [line] := by
  induction line with
  | nil => rfl
  | cons c line ih =>
    rw [List.mem_cons, not_or] at h
    rw [List.cons_append, textLines, if_neg (Ne.symm h.1), ih h.2]

theorem utf8Bytes_append (s t : PyStr) : utf8Bytes (s ++ t) = utf8Bytes s ++ utf8Bytes t := by
  unfold utf8Bytes chars
  rw [List.map_append, List.flatMap_append, List.toByteArray_append]

/-! ### lines that are not blank -/

/-- How many lines of a text are not blank. -/
def filledLines (s : PyStr) : Nat := (splitlines s).countP fun line => strip line ≠ []

theorem isSpace_of_isLineBreak {c : CodePoint} (h : isLineBreak c = true) : isSpace c = true := by
  simp only [isLineBreak, Bool.or_eq_true, Bool.and_eq_true, decide_eq_true_eq, beq_iff_eq] at h
  simp only [isSpace, Bool.or_eq_true, Bool.and_eq_true, decide_eq_true_eq, beq_iff_eq]
  omega

theorem splitlines_break {c : CodePoint} (h : isLineBreak c = true) (hc : c ≠ 13) (rest : PyStr) :
    splitlines (c :: rest) = [] :: splitlines rest := by
  rw [splitlines]
  · rw [if_pos h]
  · intro tail e
    exact absurd e hc

theorem splitlines_ne_nil {s : PyStr} (h : s ≠ []) : splitlines s ≠ [] := by
  cases s with
  | nil => exact absurd rfl h
  | cons c s =>
    rw [splitlines.eq_def]
    split
    · exact absurd ‹_› (by simp)
    · exact List.cons_ne_nil _ _
    · split_ifs
      · exact List.cons_ne_nil _ _
      · split
        · exact List.cons_ne_nil _ _
        · exact List.cons_ne_nil _ _

/-- A text that does not end in blanks and has no carriage return. -/
structure Closed (s : PyStr) : Prop where
  last : ∃ pre c, s = pre ++ [c] ∧ isSpace c = false
  plain : (13 : CodePoint) ∉ s

theorem Closed.ne_nil {s : PyStr} (h : Closed s) : s ≠ [] := by
  obtain ⟨pre, c, rfl, -⟩ := h.last
  simp

theorem Closed.cases {c : CodePoint} {s : PyStr} (h : Closed (c :: s)) :
    c ≠ 13 ∧ (s = [] ∧ isSpace c = false ∨ Closed s) := by
  obtain ⟨⟨pre, d, e, hd⟩, hplain⟩ := h
  rw [List.mem_cons, not_or] at hplain
  refine ⟨Ne.symm hplain.1, ?_⟩
  cases pre with
  | nil =>
    obtain ⟨rfl, rfl⟩ := List.cons.inj e
    exact Or.inl ⟨rfl, hd⟩
  | cons x pre => exact Or.inr ⟨⟨pre, d, (List.cons.inj e).2, hd⟩, hplain.2⟩

theorem splitlines_closed {s : PyStr} (h : Closed s) (rest : PyStr) :
    splitlines (s ++ 10 :: rest) = splitlines s ++ splitlines rest := by
  induction s with
  | nil => exact absurd rfl h.ne_nil
  | cons c s ih =>
    obtain ⟨hc, ⟨rfl, hspace⟩ | hs⟩ := h.cases
    · have hbreak : isLineBreak c = false := by
        by_contra hb
        rw [isSpace_of_isLineBreak (Bool.not_eq_false _ ▸ hb)] at hspace
        exact absurd hspace (by simp)
      rw [List.singleton_append, splitlines_cons hbreak, splitlines_cons hbreak, splitlines_newline]
      rfl
    · obtain ⟨line, lines, e⟩ := List.exists_cons_of_ne_nil (splitlines_ne_nil hs.ne_nil)
      rw [List.cons_append]
      by_cases hbreak : isLineBreak c = true
      · rw [splitlines_break hbreak hc, splitlines_break hbreak hc, ih hs, List.cons_append]
      · rw [Bool.not_eq_true] at hbreak
        rw [splitlines_cons hbreak, splitlines_cons hbreak, ih hs, e]
        rfl

theorem filledLines_closed {s : PyStr} (h : Closed s) (rest : PyStr) :
    filledLines (s ++ 10 :: rest) = filledLines s + filledLines rest := by
  unfold filledLines
  rw [splitlines_closed h, List.countP_append]

theorem strip_cons_ne_nil {c : CodePoint} {line : PyStr}
    (h : isSpace c = false ∨ strip line ≠ []) : strip (c :: line) ≠ [] := by
  rw [Ne, strip_eq_nil_iff] at h ⊢
  intro hall
  rcases h with h | h
  · rw [hall c List.mem_cons_self] at h
    exact absurd h (by simp)
  · exact h fun d hd => hall d (List.mem_cons_of_mem c hd)

theorem one_le_filledLines {s : PyStr} (h : Closed s) : 1 ≤ filledLines s := by
  unfold filledLines
  induction s with
  | nil => exact absurd rfl h.ne_nil
  | cons c s ih =>
    obtain ⟨hc, hcase⟩ := h.cases
    by_cases hbreak : isLineBreak c = true
    · rw [splitlines_break hbreak hc, List.countP_cons]
      rcases hcase with ⟨-, hspace⟩ | hs
      · rw [isSpace_of_isLineBreak hbreak] at hspace
        exact absurd hspace (by simp)
      · have := ih hs
        omega
    · rw [Bool.not_eq_true] at hbreak
      rw [splitlines_cons hbreak]
      rcases hcase with ⟨rfl, hspace⟩ | hs
      · show 1 ≤ List.countP _ [[c]]
        rw [List.countP_cons, if_pos (decide_eq_true (strip_cons_ne_nil (Or.inl hspace)))]
        omega
      · have hcount := ih hs
        obtain ⟨line, lines, e⟩ := List.exists_cons_of_ne_nil (splitlines_ne_nil hs.ne_nil)
        rw [e, List.countP_cons] at hcount
        rw [e]
        dsimp only
        rw [List.countP_cons]
        by_cases hline : strip line ≠ []
        · rw [if_pos (decide_eq_true (strip_cons_ne_nil (Or.inr hline)))]
          omega
        · rw [if_neg (by rw [decide_eq_true_iff]; exact hline)] at hcount
          omega

/-- Where a closed text has a line break, a line that is not blank comes after the first line. -/
theorem exists_filledLine {s : PyStr} (h : Closed s) (hbreak : ∃ c ∈ s, isLineBreak c = true) :
    ∃ line lines, splitlines s = line :: lines ∧ 1 ≤ lines.countP fun line => strip line ≠ [] := by
  induction s with
  | nil => exact absurd rfl h.ne_nil
  | cons c s ih =>
    obtain ⟨hc, hcase⟩ := h.cases
    obtain ⟨d, hd, hdb⟩ := hbreak
    by_cases hcb : isLineBreak c = true
    · rcases hcase with ⟨-, hspace⟩ | hs
      · rw [isSpace_of_isLineBreak hcb] at hspace
        exact absurd hspace (by simp)
      · exact ⟨[], splitlines s, splitlines_break hcb hc s, one_le_filledLines hs⟩
    · rw [Bool.not_eq_true] at hcb
      rcases List.mem_cons.mp hd with rfl | hd
      · rw [hcb] at hdb
        exact absurd hdb (by simp)
      · rcases hcase with ⟨rfl, -⟩ | hs
        · exact absurd hd List.not_mem_nil
        · obtain ⟨line, lines, e, hcount⟩ := ih hs ⟨d, hd, hdb⟩
          refine ⟨c :: line, lines, ?_, hcount⟩
          rw [splitlines_cons hcb, e]

theorem two_le_filledLines {c : CodePoint} {s : PyStr} (hc : isSpace c = false) (h : Closed s)
    (hbreak : ∃ d ∈ s, isLineBreak d = true) : 2 ≤ filledLines (c :: s) := by
  obtain ⟨line, lines, e, hcount⟩ := exists_filledLine h hbreak
  have hcb : isLineBreak c = false := by
    by_contra hb
    rw [isSpace_of_isLineBreak (Bool.not_eq_false _ ▸ hb)] at hc
    exact absurd hc (by simp)
  unfold filledLines
  rw [splitlines_cons hcb, e]
  dsimp only
  rw [List.countP_cons, if_pos (decide_eq_true (strip_cons_ne_nil (Or.inl hc)))]
  omega

end Py
