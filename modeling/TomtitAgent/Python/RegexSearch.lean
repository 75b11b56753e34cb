import TomtitAgent.Python.RegexWords

/-!
# `search` and `sub` on a text

* `Re.stops`          every word of the pattern needs a class that no character of the text is in;
* `search_none`       such a pattern is not found in the text;
* `searchFrom_skip`   `search` goes on over the places where nothing matches;
* `removeFrom_skip`, `removeFrom_match`, `removeAll_none`, `removeAll_head`   the same for `sub`;
* `removeAll_anchored`   `sub` with a pattern that ends with `$` leaves out an end of the text.
-/

namespace Py

/-- Every word has a character that only impossible classes accept. -/
def Re.stops (possible : ClassItem → Bool) : Re → Bool
  | .one false items => items.all fun i => !possible i
  | .seq a b => a.stops possible || b.stops possible
  | .alt a b => a.stops possible && b.stops possible
  | .group _ a => a.stops possible
  | _ => false

section
variable {m : Mode} {possible : ClassItem → Bool}

/-- The classes that the characters of the text are in are among the possible ones. -/
def Confined (m : Mode) (possible : ClassItem → Bool) (s : PyStr) : Prop :=
  ∀ c ∈ s, ∀ i, ClassItem.accepts m c i = true → possible i = true

theorem Confined.suffix {s t : PyStr} (h : Confined m possible (s ++ t)) : Confined m possible t :=
  fun c hc => h c (List.mem_append_right s hc)

theorem lang_stops (re : Re) (h : re.stops possible = true) :
    ∀ w, re.Lang m w → ∃ c ∈ w, ∃ i, ClassItem.accepts m c i = true ∧ possible i = false := by
  induction re with
  | eps => exact absurd h Bool.false_ne_true
  | one negated items =>
    rintro w ⟨c, rfl, hc⟩
    cases negated with
    | true => exact absurd h Bool.false_ne_true
    | false =>
      rw [Bool.bne_false] at hc
      obtain ⟨i, hi, hacc⟩ := List.any_eq_true.mp hc
      refine ⟨c, List.mem_singleton_self c, i, hacc, ?_⟩
      rw [← Bool.not_eq_true']
      exact List.all_eq_true.mp h i hi
  | any => exact absurd h Bool.false_ne_true
  | seq a b iha ihb =>
    rintro w ⟨u, v, rfl, hu, hv⟩
    rcases (Bool.or_eq_true _ _).mp h with h | h
    · obtain ⟨c, hc, hi⟩ := iha h u hu
      exact ⟨c, List.mem_append_left v hc, hi⟩
    · obtain ⟨c, hc, hi⟩ := ihb h v hv
      exact ⟨c, List.mem_append_right u hc, hi⟩
  | alt a b iha ihb =>
    obtain ⟨ha, hb⟩ := (Bool.and_eq_true _ _).mp h
    rintro w (hw | hw)
    · exact iha ha w hw
    · exact ihb hb w hw
  | star greedy a _ => exact absurd h Bool.false_ne_true
  | group n a ih => exact fun w hw => ih h w hw
  | boundary => exact absurd h Bool.false_ne_true
  | lineStart => exact absurd h Bool.false_ne_true
  | lineEnd => exact absurd h Bool.false_ne_true

theorem runs_stops {re : Re} (h : re.stops possible = true) {p : At} (hp : Confined m possible p.rest) :
    re.runs m p = [] := by
  rw [List.eq_nil_iff_forall_not_mem]
  intro q hq
  obtain ⟨w, hw, hlang⟩ := runs_lang re p q hq
  obtain ⟨c, hc, i, hacc, hi⟩ := lang_stops re h w hlang
  have hmem : c ∈ p.rest := by
    rw [hw.1]
    exact List.mem_append_left _ hc
  rw [hp c hmem i hacc] at hi
  exact Bool.noConfusion hi

theorem matchStart_none {re : Re} (h : re.stops possible = true) {s : PyStr} (hs : Confined m possible s) :
    re.matchStart m s = none := by
  unfold Re.matchStart
  rw [runs_stops h hs]
  rfl

/-- Nothing matches on the way through `s`. -/
theorem searchFrom_skip {re : Re} {t : PyStr} : ∀ (s before : PyStr),
    (∀ u v, s = u ++ v → v ≠ [] → re.runs m ⟨u.reverse ++ before, v ++ t, []⟩ = []) →
    re.searchFrom m before (s ++ t) = re.searchFrom m (s.reverse ++ before) t := by
  intro s
  induction s with
  | nil => exact fun before _ => rfl
  | cons c s ih =>
    intro before h
    rw [List.cons_append, Re.searchFrom]
    rw [show re.runs m ⟨before, c :: (s ++ t), []⟩ = [] from h [] (c :: s) rfl (List.cons_ne_nil c s)]
    dsimp only [List.head?_nil]
    rw [ih (c :: before), List.reverse_cons, List.append_assoc]
    · rfl
    · intro u v hs hv
      have hstep := h (c :: u) v (congrArg _ hs) hv
      rw [List.reverse_cons, List.append_assoc] at hstep
      exact hstep

theorem searchFrom_none {re : Re} (h : re.stops possible = true) {s : PyStr} (hs : Confined m possible s)
    (before : PyStr) : re.searchFrom m before s = none := by
  have hnil : ∀ before, re.runs m ⟨before, [], []⟩ = [] := fun before =>
    runs_stops h fun c hc => absurd hc List.not_mem_nil
  have hskip := @searchFrom_skip m re [] s before fun u v e _ => by
    rw [List.append_nil]
    refine runs_stops h ?_
    rw [e] at hs
    exact hs.suffix
  rw [List.append_nil] at hskip
  rw [hskip, Re.searchFrom, hnil]
  rfl

theorem search_none {re : Re} (h : re.stops possible = true) {s : PyStr} (hs : Confined m possible s) :
    re.search m s = none := searchFrom_none h hs []

/-! ### `sub` with an empty replacement -/

theorem removeFrom_cons {re : Re} {n : Nat} {before rest : PyStr} {c : CodePoint}
    (h : re.runs m ⟨before, c :: rest, []⟩ = []) :
    re.removeFrom m (n + 1) before (c :: rest) = c :: re.removeFrom m n (c :: before) rest := by
  rw [Re.removeFrom, h]
  rfl

/-- A match that reads something is left out. -/
theorem removeFrom_match {re : Re} {n : Nat} {before rest : PyStr} {q : At}
    (h : re.First m ⟨before, rest, []⟩ q) (hlt : q.rest.length < rest.length) :
    re.removeFrom m (n + 1) before rest = re.removeFrom m n q.before q.rest := by
  rw [Re.removeFrom.eq_def]
  dsimp only
  rw [show (re.runs m ⟨before, rest, []⟩).head? = some q from h, Option.filter_some,
    if_pos (decide_eq_true hlt)]

theorem removeFrom_nil {re : Re} (n : Nat) (before : PyStr) : re.removeFrom m n before [] = [] := by
  cases n with
  | zero => rfl
  | succ n =>
    rw [Re.removeFrom]
    have hnone : ((re.runs m ⟨before, [], []⟩).head?.filter fun q =>
        q.rest.length < ([] : PyStr).length) = none := by
      rw [Option.filter_eq_none_iff]
      intro q _ h
      exact Nat.not_lt_zero _ (of_decide_eq_true h)
    rw [hnone]

/-- Nothing matches on the way through `s`. -/
theorem removeFrom_skip {re : Re} {t : PyStr} : ∀ (s before : PyStr) (n : Nat),
    (∀ u v, s = u ++ v → v ≠ [] → re.runs m ⟨u.reverse ++ before, v ++ t, []⟩ = []) →
    re.removeFrom m (s.length + n) before (s ++ t) = s ++ re.removeFrom m n (s.reverse ++ before) t := by
  intro s
  induction s with
  | nil =>
    intro before n _
    rw [List.length_nil, Nat.zero_add]
    rfl
  | cons c s ih =>
    intro before n h
    have hhere : re.runs m ⟨before, c :: (s ++ t), []⟩ = [] := h [] (c :: s) rfl (List.cons_ne_nil c s)
    rw [List.length_cons, Nat.succ_add, List.cons_append, removeFrom_cons hhere, ih (c :: before),
      List.reverse_cons, List.append_assoc]
    · rfl
    · intro u v hs hv
      have hstep := h (c :: u) v (congrArg _ hs) hv
      rw [List.reverse_cons, List.append_assoc] at hstep
      exact hstep

theorem removeAll_none {re : Re} {s : PyStr}
    (h : ∀ u v, s = u ++ v → v ≠ [] → re.runs m ⟨u.reverse, v, []⟩ = []) : re.removeAll m s = s := by
  have hskip := @removeFrom_skip m re [] s [] 0 fun u v e hv => by
    rw [List.append_nil, List.append_nil]
    exact h u v e hv
  rw [List.append_nil, Nat.add_zero, removeFrom_nil, List.append_nil] at hskip
  exact hskip

/-- A head of the text is left out, once. -/
theorem removeAll_head {r : Re} {u t : PyStr} (hm : m.multiLine = false) (hu : u ≠ [])
    (h : (Re.seq .lineStart r).First m ⟨[], u ++ t, []⟩ ⟨u.reverse, t, []⟩) :
    (Re.seq .lineStart r).removeAll m (u ++ t) = t := by
  have hlater : ∀ before rest, before ≠ [] → (Re.seq .lineStart r).runs m ⟨before, rest, []⟩ = [] := by
    intro before rest hne
    have hstart : At.isLineStart m ⟨before, rest, []⟩ = false := by
      unfold At.isLineStart
      rw [hm, Bool.false_and, Bool.or_false]
      exact List.isEmpty_eq_false_iff.mpr hne
    show (if At.isLineStart m ⟨before, rest, []⟩ then _ else [] : List At).flatMap _ = []
    rw [hstart]
    rfl
  have hlen : 0 < u.length := List.length_pos_iff.mpr hu
  have hrev : u.reverse ≠ [] := fun e => hu (List.reverse_eq_nil_iff.mp e)
  unfold Re.removeAll
  rw [List.length_append, show u.length + t.length = t.length + (u.length - 1) + 1 by omega,
    removeFrom_match h (by rw [List.length_append]; exact Nat.lt_add_of_pos_left hlen)]
  have hskip := @removeFrom_skip m (.seq .lineStart r) [] t u.reverse (u.length - 1) fun x v _ _ =>
    hlater _ _ fun e => hrev (List.append_eq_nil_iff.mp e).2
  rw [List.append_nil, removeFrom_nil, List.append_nil] at hskip
  exact hskip

/-! ### a pattern that ends with `$` -/

def Re.anchored : Re → Bool
  | .lineEnd => true
  | .seq a b => b.anchored || (decide (b = .eps) && a.anchored)
  | _ => false

theorem runs_anchored {re : Re} : re.anchored = true → ∀ p q, q ∈ re.runs m p → q.isLineEnd m = true := by
  induction re with
  | lineEnd =>
    intro _ p q hq
    change q ∈ (if p.isLineEnd m then [p] else []) at hq
    split at hq
    · next hend => exact List.mem_singleton.mp hq ▸ hend
    · exact absurd hq List.not_mem_nil
  | seq a b iha ihb =>
    intro h p q hq
    obtain ⟨r, hr, hq⟩ := List.mem_flatMap.mp hq
    rcases (Bool.or_eq_true _ _).mp h with h | h
    · exact ihb h r q hq
    · obtain ⟨hb, ha⟩ := (Bool.and_eq_true _ _).mp h
      rw [of_decide_eq_true hb] at hq
      exact List.mem_singleton.mp hq ▸ iha ha p r hr
  | _ => exact fun h => absurd h Bool.false_ne_true

theorem removeFrom_anchored {re : Re} {P : CodePoint → Prop} (hm : m.multiLine = false) (hre : re.anchored = true)
    (hstart : ∀ w, re.Lang m w → ∃ c t, w = c :: t ∧ P c) (n : Nat) : ∀ before s : PyStr, newline ∉ s →
    ∃ t, s = re.removeFrom m n before s ++ t ∧ ∀ c ∈ t.head?, P c := by
  induction n with
  | zero => exact fun before s _ => ⟨[], (List.append_nil s).symm, fun c hc => nomatch hc⟩
  | succ n ih =>
    intro before s hs
    cases hfirst : (re.runs m ⟨before, s, []⟩).head?.filter fun q => q.rest.length < s.length with
    | some q =>
      have hq : q ∈ re.runs m ⟨before, s, []⟩ := by
        obtain ⟨hmem, -⟩ := Option.filter_eq_some_iff.mp hfirst
        exact List.mem_of_head? hmem
      obtain ⟨w, hw, hlang⟩ := runs_lang re _ q hq
      obtain ⟨c, t, rfl, hc⟩ := hstart w hlang
      have hsplit : s = c :: t ++ q.rest := hw.1
      have hend : q.rest = [] := by
        have h := runs_anchored hre _ q hq
        have hline : q.rest ≠ [newline] := by
          intro e
          rw [hsplit, e] at hs
          exact hs (List.mem_append_right _ List.mem_cons_self)
        unfold At.isLineEnd at h
        rw [hm, Bool.false_and, Bool.or_false, decide_eq_false hline, Bool.or_false] at h
        exact List.isEmpty_iff.mp h
      refine ⟨s, ?_, fun d hd => ?_⟩
      · rw [Re.removeFrom.eq_def]
        dsimp only
        rw [hfirst]
        dsimp only
        rw [hend, removeFrom_nil, List.nil_append]
      · rw [hsplit] at hd
        exact Option.some.inj hd ▸ hc
    | none =>
      rw [Re.removeFrom.eq_def]
      dsimp only
      rw [hfirst]
      cases s with
      | nil => exact ⟨[], rfl, fun c hc => nomatch hc⟩
      | cons c s =>
        obtain ⟨t, hst, ht⟩ := ih (c :: before) s fun h => hs (List.mem_cons_of_mem c h)
        refine ⟨t, ?_, ht⟩
        dsimp only
        rw [List.cons_append, ← hst]

/-- What `sub` leaves out is the end of the text, from the start of the match on. -/
theorem removeAll_anchored {re : Re} {P : CodePoint → Prop} (hm : m.multiLine = false) (hre : re.anchored = true)
    (hstart : ∀ w, re.Lang m w → ∃ c t, w = c :: t ∧ P c) {s : PyStr} (hs : newline ∉ s) :
    ∃ t, s = re.removeAll m s ++ t ∧ ∀ c ∈ t.head?, P c :=
  removeFrom_anchored hm hre hstart s.length [] s hs

end

end Py
