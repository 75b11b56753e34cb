import TomtitAgent.Python.Regex

/-!
# The words of a pattern, and its first match

* `Re.Lang`      the words a pattern can read, former by former;
* `runs_lang`    every match reads one of them;
* `runs_groups_eq`   a pattern without a group sets none;
* `Re.First`     the first way through a pattern, which is the match: the rules for sequences,
                 alternatives, groups, and the greedy repetition of a character class.
-/

namespace Py

/-- The words that a pattern can read.  Where it may stand is left out. -/
def Re.Lang (m : Mode) : Re → PyStr → Prop
  | .eps, w => w = []
  | .one negated items, w => ∃ c, w = [c] ∧ ((items.any (ClassItem.accepts m c)) != negated) = true
  | .any, w => ∃ c, w = [c] ∧ (m.dotAll || c ≠ newline) = true
  | .seq a b, w => ∃ u v, w = u ++ v ∧ a.Lang m u ∧ b.Lang m v
  | .alt a b, w => a.Lang m w ∨ b.Lang m w
  | .star _ a, w => ∃ ws : List PyStr, w = ws.flatten ∧ ∀ u ∈ ws, a.Lang m u
  | .group _ a, w => a.Lang m w
  | .boundary, w => w = []
  | .lineStart, w => w = []
  | .lineEnd, w => w = []

section
variable {m : Mode}

theorem starRuns_lang {greedy : Bool} {run : At → List At} {L : PyStr → Prop}
    (h : ∀ p q, q ∈ run p → ∃ w, Reads w p q ∧ L w) (n : Nat) :
    ∀ p q, q ∈ starRuns greedy run n p → ∃ ws : List PyStr, Reads ws.flatten p q ∧ ∀ u ∈ ws, L u := by
  have hstay : ∀ p : At, ∃ ws : List PyStr, Reads ws.flatten p p ∧ ∀ u ∈ ws, L u := fun p =>
    ⟨[], .nil p, fun u hu => absurd hu List.not_mem_nil⟩
  induction n with
  | zero =>
    intro p q hq
    rw [List.mem_singleton.mp hq]
    exact hstay p
  | succ n ih =>
    intro p q hq
    rcases mem_starRuns_succ hq with rfl | ⟨r, hr, hq⟩
    · exact hstay q
    · obtain ⟨v, hv, hvL⟩ := h p r hr
      obtain ⟨ws, hws, hwsL⟩ := ih r q hq
      refine ⟨v :: ws, hv.append hws, fun u hu => ?_⟩
      rcases List.mem_cons.mp hu with rfl | hu
      · exact hvL
      · exact hwsL u hu

/-- Every match reads a word of the pattern. -/
theorem runs_lang (re : Re) : ∀ p q, q ∈ re.runs m p → ∃ w, Reads w p q ∧ re.Lang m w := by
  have hstay : ∀ {c : Bool} {p q : At}, q ∈ (if c then [p] else []) → ∃ w, Reads w p q ∧ w = [] := by
    intro c p q hq
    split at hq
    · rw [List.mem_singleton.mp hq]
      exact ⟨[], .nil p, rfl⟩
    · exact absurd hq List.not_mem_nil
  induction re with
  | eps =>
    intro p q hq
    rw [List.mem_singleton.mp hq]
    exact ⟨[], .nil p, rfl⟩
  | one negated items =>
    intro p q hq
    obtain ⟨c, hc, hreads, -⟩ := mem_step hq
    exact ⟨[c], hreads, c, rfl, hc⟩
  | any =>
    intro p q hq
    obtain ⟨c, hc, hreads, -⟩ := mem_step hq
    exact ⟨[c], hreads, c, rfl, hc⟩
  | seq a b iha ihb =>
    intro p q hq
    obtain ⟨r, hr, hq⟩ := List.mem_flatMap.mp hq
    obtain ⟨u, hu, hua⟩ := iha p r hr
    obtain ⟨v, hv, hvb⟩ := ihb r q hq
    exact ⟨u ++ v, hu.append hv, u, v, rfl, hua, hvb⟩
  | alt a b iha ihb =>
    intro p q hq
    rcases List.mem_append.mp hq with hq | hq
    · obtain ⟨w, hw, hwa⟩ := iha p q hq
      exact ⟨w, hw, .inl hwa⟩
    · obtain ⟨w, hw, hwb⟩ := ihb p q hq
      exact ⟨w, hw, .inr hwb⟩
  | star greedy a ih =>
    intro p q hq
    obtain ⟨ws, hws, hwsa⟩ := starRuns_lang ih p.rest.length p q hq
    exact ⟨ws.flatten, hws, ws, rfl, hwsa⟩
  | group n a ih =>
    intro p q hq
    obtain ⟨q', hq', rfl⟩ := List.mem_map.mp hq
    exact ih p q' hq'
  | boundary => exact fun p q hq => hstay hq
  | lineStart => exact fun p q hq => hstay hq
  | lineEnd => exact fun p q hq => hstay hq

theorem starRuns_groups_eq {greedy : Bool} {run : At → List At}
    (h : ∀ p q, q ∈ run p → q.groups = p.groups) (n : Nat) :
    ∀ p q, q ∈ starRuns greedy run n p → q.groups = p.groups := by
  induction n with
  | zero =>
    intro p q hq
    rw [List.mem_singleton.mp hq]
  | succ n ih =>
    intro p q hq
    rcases mem_starRuns_succ hq with rfl | ⟨r, hr, hq⟩
    · rfl
    · exact (ih r q hq).trans (h p r hr)

/-- A pattern without a group sets none. -/
theorem runs_groups_eq {re : Re} (hre : re.bodies = []) : ∀ p q, q ∈ re.runs m p → q.groups = p.groups := by
  have hstay : ∀ {c : Bool} {p q : At}, q ∈ (if c then [p] else []) → q.groups = p.groups := by
    intro c p q hq
    split at hq
    · rw [List.mem_singleton.mp hq]
    · exact absurd hq List.not_mem_nil
  induction re with
  | eps =>
    intro p q hq
    rw [List.mem_singleton.mp hq]
  | one negated items => exact fun p q hq => (mem_step hq).choose_spec.2.2
  | any => exact fun p q hq => (mem_step hq).choose_spec.2.2
  | seq a b iha ihb =>
    intro p q hq
    obtain ⟨ha, hb⟩ := List.append_eq_nil_iff.mp hre
    obtain ⟨r, hr, hq⟩ := List.mem_flatMap.mp hq
    exact (ihb hb r q hq).trans (iha ha p r hr)
  | alt a b iha ihb =>
    intro p q hq
    obtain ⟨ha, hb⟩ := List.append_eq_nil_iff.mp hre
    rcases List.mem_append.mp hq with hq | hq
    · exact iha ha p q hq
    · exact ihb hb p q hq
  | star greedy a ih => exact fun p q hq => starRuns_groups_eq (ih hre) p.rest.length p q hq
  | group n a ih => exact absurd hre (List.cons_ne_nil _ _)
  | boundary => exact fun p q hq => hstay hq
  | lineStart => exact fun p q hq => hstay hq
  | lineEnd => exact fun p q hq => hstay hq

theorem mem_group_runs {n : Nat} {a : Re} {p q : At} (ha : a.bodies = []) (h : q ∈ (Re.group n a).runs m p) :
    ∃ w, Reads w p q ∧ a.Lang m w ∧ q.groups = (n, w) :: p.groups := by
  obtain ⟨q', hq', rfl⟩ := List.mem_map.mp h
  obtain ⟨w, hw, hwa⟩ := runs_lang a p q' hq'
  refine ⟨w, hw, hwa, ?_⟩
  show (n, p.spanned q') :: q'.groups = (n, w) :: p.groups
  rw [hw.spanned, runs_groups_eq ha p q' hq']

/-! ### the first match -/

/-- The first way through `re` from `p` leads to `q`. -/
def Re.First (m : Mode) (re : Re) (p q : At) : Prop := (re.runs m p).head? = some q

namespace Re.First

theorem eps {p : At} : First m .eps p p := rfl

theorem seq {a b : Re} {p q r : At} (ha : First m a p q) (hb : First m b q r) : First m (.seq a b) p r := by
  show ((a.runs m p).flatMap fun q => b.runs m q).head? = some r
  obtain ⟨qs, hqs⟩ := List.head?_eq_some_iff.mp ha
  obtain ⟨rs, hrs⟩ := List.head?_eq_some_iff.mp hb
  rw [hqs, List.flatMap_cons, hrs]
  rfl

theorem altLeft {a b : Re} {p q : At} (ha : First m a p q) : First m (.alt a b) p q := by
  show (a.runs m p ++ b.runs m p).head? = some q
  obtain ⟨qs, hqs⟩ := List.head?_eq_some_iff.mp ha
  rw [hqs]
  rfl

theorem altRight {a b : Re} {p q : At} (ha : a.runs m p = []) (hb : First m b p q) :
    First m (.alt a b) p q := by
  show (a.runs m p ++ b.runs m p).head? = some q
  rw [ha]
  exact hb

theorem group {a : Re} {n : Nat} {p q : At} (ha : First m a p q) :
    First m (.group n a) p { q with groups := (n, p.spanned q) :: q.groups } := by
  show ((a.runs m p).map _).head? = _
  rw [List.head?_map, ha]
  rfl

theorem one {negated : Bool} {items : List ClassItem} {c : CodePoint} {p : At} {s : PyStr}
    (hp : p.rest = c :: s) (hc : ((items.any (ClassItem.accepts m c)) != negated) = true) :
    First m (.one negated items) p ⟨c :: p.before, s, p.groups⟩ := by
  show (p.step _).head? = _
  unfold At.step
  rw [hp]
  show (if ((items.any (ClassItem.accepts m c)) != negated) = true then _ else _ : List At).head? = _
  rw [if_pos hc]
  rfl

theorem lineStart {s : PyStr} {groups : List (Nat × PyStr)} : First m .lineStart ⟨[], s, groups⟩ ⟨[], s, groups⟩ :=
  rfl

theorem lineEnd {before : PyStr} {groups : List (Nat × PyStr)} :
    First m .lineEnd ⟨before, [], groups⟩ ⟨before, [], groups⟩ := rfl

theorem boundary {p : At} (h : p.isBoundary m = true) : First m .boundary p p := by
  show (if p.isBoundary m then [p] else []).head? = some p
  rw [h]
  rfl

theorem matchStart {re : Re} {s : PyStr} {q : At} (h : First m re ⟨[], s, []⟩ q) : re.matchStart m s = some q := h

end Re.First

def Re.lits (w : PyStr) (next : Re) : Re := w.foldr (fun c re => .seq (.one false [.char c]) re) next

theorem accepts_self (c : CodePoint) : ClassItem.accepts m c (.char c) = true := by
  unfold ClassItem.accepts
  dsimp only
  split
  · exact decide_eq_true rfl
  · exact decide_eq_true rfl

theorem Re.First.lits {next : Re} {s : PyStr} {groups : List (Nat × PyStr)} {q : At} (w : PyStr) :
    ∀ {before : PyStr}, First m next ⟨w.reverse ++ before, s, groups⟩ q →
      First m (.lits w next) ⟨before, w ++ s, groups⟩ q := by
  induction w with
  | nil => exact fun h => h
  | cons c w ih =>
    intro before h
    rw [List.reverse_cons, List.append_assoc] at h
    have hone : First m (.one false [.char c]) ⟨before, c :: (w ++ s), groups⟩ ⟨c :: before, w ++ s, groups⟩ := by
      refine Re.First.one rfl ?_
      rw [List.any_cons, List.any_nil, Bool.or_false, accepts_self]
      rfl
    exact hone.seq (ih h)

/-- The characters of `u` are those of `w` as the mode compares them. -/
def Spells (m : Mode) (u w : PyStr) : Prop := List.Forall₂ (fun c d => ClassItem.accepts m c (.char d) = true) u w

theorem lits_lang {next : Re} (w : PyStr) : ∀ {x : PyStr}, (Re.lits w next).Lang m x →
    ∃ u t, x = u ++ t ∧ Spells m u w ∧ next.Lang m t := by
  induction w with
  | nil => exact fun {x} h => ⟨[], x, rfl, .nil, h⟩
  | cons d w ih =>
    rintro x ⟨a, b, rfl, ⟨c, rfl, hc⟩, hb⟩
    obtain ⟨u, t, rfl, hu, ht⟩ := ih hb
    rw [List.any_cons, List.any_nil, Bool.or_false, Bool.bne_false] at hc
    exact ⟨c :: u, t, rfl, .cons hc hu, ht⟩

theorem lits_bodies (w : PyStr) (next : Re) : (Re.lits w next).bodies = next.bodies := by
  induction w with
  | nil => rfl
  | cons c w ih => exact ih

theorem mem_runs_lits {next : Re} {s : PyStr} {groups : List (Nat × PyStr)} {q : At} {u w : PyStr}
    (hu : Spells m u w) : ∀ {before : PyStr}, q ∈ next.runs m ⟨u.reverse ++ before, s, groups⟩ →
      q ∈ (Re.lits w next).runs m ⟨before, u ++ s, groups⟩ := by
  induction hu with
  | nil => exact fun h => h
  | @cons c d u w hc _ ih =>
    intro before h
    rw [List.reverse_cons, List.append_assoc] at h
    refine List.mem_flatMap.mpr ⟨⟨c :: before, u ++ s, groups⟩, ?_, ih h⟩
    have htest : (([ClassItem.char d].any (ClassItem.accepts m c)) != false) = true := by
      rw [List.any_cons, List.any_nil, Bool.or_false, Bool.bne_false, hc]
    show _ ∈ (if _ then _ else _ : List At)
    rw [if_pos htest]
    exact List.mem_singleton_self _

/-- `(?:u|v|w)` -/
def Re.anyWord : List PyStr → Re
  | [] => .one false []
  | [w] => .lits w .eps
  | w :: v :: ws => .alt (.lits w .eps) (anyWord (v :: ws))

theorem anyWord_lang {x : PyStr} {ws : List PyStr} (h : (Re.anyWord ws).Lang m x) :
    ∃ w ∈ ws, Spells m x w := by
  induction ws using Re.anyWord.induct with
  | case1 =>
    obtain ⟨c, -, hc⟩ := h
    exact absurd hc Bool.false_ne_true
  | case2 w =>
    obtain ⟨u, t, rfl, hu, rfl⟩ := lits_lang w h
    rw [List.append_nil]
    exact ⟨w, List.mem_singleton_self w, hu⟩
  | case3 w v ws ih =>
    rcases h with h | h
    · obtain ⟨u, t, rfl, hu, rfl⟩ := lits_lang w h
      rw [List.append_nil]
      exact ⟨w, List.mem_cons_self, hu⟩
    · obtain ⟨w', hw', hspells⟩ := ih h
      exact ⟨w', List.mem_cons_of_mem w hw', hspells⟩

theorem anyWord_bodies (ws : List PyStr) : (Re.anyWord ws).bodies = [] := by
  induction ws using Re.anyWord.induct with
  | case1 => rfl
  | case2 w => exact lits_bodies w .eps
  | case3 w v ws ih =>
    show (Re.lits w .eps).bodies ++ (Re.anyWord (v :: ws)).bodies = []
    rw [lits_bodies, ih]
    rfl

theorem optional_lang {a b : Re} {x : PyStr} (h : (Re.seq (.alt a .eps) b).Lang m x) :
    (∃ u v, x = u ++ v ∧ a.Lang m u ∧ b.Lang m v) ∨ b.Lang m x := by
  obtain ⟨u, v, rfl, hu | rfl, hv⟩ := h
  · exact .inl ⟨u, v, rfl, hu, hv⟩
  · exact .inr hv

theorem mem_runs_optional {a b : Re} {p q : At} :
    q ∈ (Re.seq (.alt a .eps) b).runs m p ↔ (∃ r ∈ a.runs m p, q ∈ b.runs m r) ∨ q ∈ b.runs m p := by
  show q ∈ (a.runs m p ++ [p]).flatMap (b.runs m) ↔ _
  rw [List.flatMap_append, List.mem_append, List.mem_flatMap, List.flatMap_singleton]

theorem optional_reads {a b : Re} {p q : At} (ha : a.bodies = []) (h : q ∈ (Re.seq (.alt a .eps) b).runs m p)
    (hp : p.groups = []) : ∃ w r, Reads w p r ∧ r.groups = [] ∧ q ∈ b.runs m r := by
  rcases mem_runs_optional.mp h with ⟨r, hr, hq⟩ | hq
  · obtain ⟨w, hw, -⟩ := runs_lang a p r hr
    exact ⟨w, r, hw, (runs_groups_eq ha p r hr).trans hp, hq⟩
  · exact ⟨[], p, Reads.nil p, hp, hq⟩

def classTest (m : Mode) (negated : Bool) (items : List ClassItem) (c : CodePoint) : Bool :=
  (items.any (ClassItem.accepts m c)) != negated

theorem runs_one_nil {negated : Bool} {items : List ClassItem} {p : At}
    (h : ∀ c s, p.rest = c :: s → classTest m negated items c = false) :
    (Re.one negated items).runs m p = [] := by
  show p.step (classTest m negated items) = []
  unfold At.step
  cases hp : p.rest with
  | nil => rfl
  | cons c s =>
    show (if classTest m negated items c then _ else _ : List At) = []
    rw [h c s hp]
    rfl

def At.skip (test : CodePoint → Bool) (p : At) : At :=
  ⟨(p.rest.takeWhile test).reverse ++ p.before, p.rest.dropWhile test, p.groups⟩

theorem starRuns_head {negated : Bool} {items : List ClassItem} (n : Nat) :
    ∀ p : At, p.rest.length ≤ n →
    (starRuns true (fun q => (Re.one negated items).runs m q) n p).head? =
      some (p.skip (classTest m negated items)) := by
  induction n with
  | zero =>
    rintro ⟨before, rest, groups⟩ hp
    have hrest : rest = [] := List.length_eq_zero_iff.mp (Nat.le_zero.mp hp)
    subst hrest
    rfl
  | succ n ih =>
    rintro ⟨before, rest, groups⟩ hp
    show ((((Re.one negated items).runs m ⟨before, rest, groups⟩).filter _).flatMap _ ++ _).head? = _
    cases rest with
    | nil => rfl
    | cons c s =>
      cases hc : classTest m negated items c with
      | false =>
        have hnil : (Re.one negated items).runs m ⟨before, c :: s, groups⟩ = [] :=
          runs_one_nil fun d t e => (List.cons.inj e).1 ▸ hc
        rw [hnil]
        show some _ = _
        unfold At.skip
        dsimp only
        rw [List.takeWhile_cons_of_neg (by rw [hc]; exact Bool.false_ne_true),
          List.dropWhile_cons_of_neg (by rw [hc]; exact Bool.false_ne_true)]
        rfl
      | true =>
        have hone : (Re.one negated items).runs m ⟨before, c :: s, groups⟩ = [⟨c :: before, s, groups⟩] := by
          show (if classTest m negated items c then _ else _ : List At) = _
          rw [hc]
          rfl
        have hmore := ih ⟨c :: before, s, groups⟩ (Nat.le_of_succ_le_succ hp)
        obtain ⟨qs, hqs⟩ := List.head?_eq_some_iff.mp hmore
        rw [hone, List.filter_cons_of_pos (by
          rw [decide_eq_true_eq]
          exact Nat.lt_succ_self _), List.filter_nil, List.flatMap_cons, hqs]
        show some _ = _
        unfold At.skip
        dsimp only
        rw [List.takeWhile_cons_of_pos hc, List.dropWhile_cons_of_pos hc, List.reverse_cons,
          List.append_assoc]
        rfl

theorem Re.First.star {negated : Bool} {items : List ClassItem} (p : At) :
    First m (.star true (.one negated items)) p (p.skip (classTest m negated items)) :=
  starRuns_head p.rest.length p le_rfl

section
variable {items : List ClassItem} {u s before : PyStr} {groups : List (Nat × PyStr)}

theorem At.skip_run {test : CodePoint → Bool} (hu : ∀ c ∈ u, test c = true)
    (hs : ∀ c t, s = c :: t → test c = false) :
    At.skip test ⟨before, u ++ s, groups⟩ = ⟨u.reverse ++ before, s, groups⟩ := by
  unfold At.skip
  dsimp only
  rw [List.takeWhile_append_of_pos hu, List.dropWhile_append_of_pos hu]
  cases s with
  | nil =>
    rw [List.takeWhile_nil, List.append_nil]
    rfl
  | cons c t =>
    have hc : ¬ test c = true := by
      rw [hs c t rfl]
      exact Bool.false_ne_true
    rw [List.takeWhile_cons_of_neg hc, List.dropWhile_cons_of_neg hc, List.append_nil]

theorem Re.First.starRun (hu : ∀ c ∈ u, classTest m false items c = true)
    (hs : ∀ c t, s = c :: t → classTest m false items c = false) :
    First m (.star true (.one false items)) ⟨before, u ++ s, groups⟩ ⟨u.reverse ++ before, s, groups⟩ :=
  At.skip_run hu hs ▸ Re.First.star _

/-- A class with `+` -/
def Re.plus (items : List ClassItem) : Re := .seq (.one false items) (.star true (.one false items))

theorem star_lang {w : PyStr} (h : (Re.star true (.one false items)).Lang m w) :
    ∀ c ∈ w, items.any (ClassItem.accepts m c) = true := by
  obtain ⟨ws, rfl, hws⟩ := h
  intro c hc
  obtain ⟨u, hu, hcu⟩ := List.mem_flatten.mp hc
  obtain ⟨d, rfl, hd⟩ := hws u hu
  rw [Bool.bne_false] at hd
  rw [List.mem_singleton.mp hcu]
  exact hd

theorem plus_lang {w : PyStr} (h : (Re.plus items).Lang m w) :
    w ≠ [] ∧ ∀ c ∈ w, items.any (ClassItem.accepts m c) = true := by
  obtain ⟨u, v, rfl, ⟨c, rfl, hc⟩, hv⟩ := h
  rw [Bool.bne_false] at hc
  refine ⟨List.cons_ne_nil _ _, fun d hd => ?_⟩
  rcases List.mem_cons.mp hd with rfl | hd
  · exact hc
  · exact star_lang hv d hd

theorem Re.First.plus (hne : u ≠ []) (hu : ∀ c ∈ u, classTest m false items c = true)
    (hs : ∀ c t, s = c :: t → classTest m false items c = false) :
    First m (.plus items) ⟨before, u ++ s, groups⟩ ⟨u.reverse ++ before, s, groups⟩ := by
  obtain ⟨c, t, rfl⟩ := List.exists_cons_of_ne_nil hne
  have hone : First m (.one false items) ⟨before, c :: (t ++ s), groups⟩ ⟨c :: before, t ++ s, groups⟩ :=
    Re.First.one rfl (hu c List.mem_cons_self)
  have hstar := @Re.First.starRun m items t s (c :: before) groups (fun d hd => hu d (List.mem_cons_of_mem c hd)) hs
  rw [List.reverse_cons, List.append_assoc]
  exact hone.seq hstar

end

end

end Py
