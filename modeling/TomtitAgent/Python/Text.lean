import TomtitAgent.Python.Case
import TomtitAgent.Python.FileTree

/-!
# Words and phrases of a text

* `collapse s`   `re.sub(r"\s+", " ", s)`;
* `rstripOf chars s`, `startsWith`, `contains`, `splitSep`   the string methods with an argument;
* `runs cls s`   `re.findall(r"[cls]+", s)`: the maximal runs of a character class;
* `Unicode`   `str.lower` and the class `\w`, which the tables of Unicode decide.

`collapse_strip` is the bridge between the two views of a phrase: collapsing the stripped text is
joining its words by single spaces.  `Unicode.collapse_lower_strip` says the same of the lowered
text.
-/

namespace Py

def space : CodePoint := 32

theorem isSpace_space : isSpace space = true := rfl

/-- `re.sub(r"\s+", " ", s)`; `inRun` when the character before was white space. -/
def collapseFrom : Bool → PyStr → PyStr
  | _, [] => []
  | inRun, c :: cs =>
    if isSpace c then (if inRun then collapseFrom true cs else space :: collapseFrom true cs)
    else c :: collapseFrom false cs

def collapse (s : PyStr) : PyStr := collapseFrom false s

/-- `s.rstrip(chars)` -/
def rstripOf (chars s : PyStr) : PyStr := (s.reverse.dropWhile (· ∈ chars)).reverse

/-- `s.startswith(pre)` -/
def startsWith (s pre : PyStr) : Bool := pre.isPrefixOf s

/-- `sub in s` -/
def contains (s sub : PyStr) : Bool := s.tails.any fun t => sub.isPrefixOf t

/-- `s.split(sep)` for a separator that is not empty, from a position where `skip` more characters
belong to a separator and `cur` is the piece read so far, backwards. -/
def splitSepFrom (sep : PyStr) : Nat → PyStr → PyStr → List PyStr
  | _, cur, [] => [cur.reverse]
  | skip + 1, cur, _ :: cs => splitSepFrom sep skip cur cs
  | 0, cur, c :: cs =>
    if sep.isPrefixOf (c :: cs) then cur.reverse :: splitSepFrom sep (sep.length - 1) [] cs
    else splitSepFrom sep 0 (c :: cur) cs

def splitSep (sep s : PyStr) : List PyStr := splitSepFrom sep 0 [] s

/-- `re.findall(r"[cls]+", s)` -/
def runs (cls : CodePoint → Bool) (s : PyStr) : List PyStr :=
  (s.splitOnP fun c => !cls c).filter fun w => !w.isEmpty

/-- `re.fullmatch(r"[A-Z0-9]{low,high}", s)` -/
def upperToken (low high : Nat) (s : PyStr) : Bool :=
  s.all (fun c => isDigit c || isUpper c) && decide (low ≤ s.length) && decide (s.length ≤ high)

def vietnameseLetters : String := "àáảãạăằắẳẵặâầấẩẫậèéẻẽẹêềếểễệìíỉĩịòóỏõọôồốổỗộơờớởỡợùúủũụưừứửữựỳýỷỹỵđ"

/-- A character that `str.lower` leaves alone: an ASCII one that is no capital, or a small letter of
Vietnamese. -/
def isSmall (c : CodePoint) : Bool := (decide (c.val < 128) && !isUpper c) || c ∈ py vietnameseLetters

/-- Letter case with the facts about words: lowering keeps white space in place and treats the
words between apart, so that it never makes or removes one. -/
structure Unicode extends CaseMap where
  /-- `\w` -/
  isWord : CodePoint → Bool
  isWord_ascii : ∀ c, c.val < 128 → isWord c = (isAlnum c || c == 95)
  lower_lower : ∀ s, lower (lower s) = lower s
  lower_space : ∀ s c t, isSpace c = true → lower (s ++ c :: t) = lower s ++ c :: lower t
  lower_word : ∀ w, w ≠ [] → (∀ c ∈ w, isSpace c = false) →
    lower w ≠ [] ∧ ∀ c ∈ lower w, isSpace c = false
  lower_small : ∀ s, (∀ c ∈ s, isSmall c = true) → lower s = s

theorem isSpace_of_letter {c : CodePoint} (h : 65 ≤ c.val) (h' : c.val ≤ 122) :
    isSpace c = false := by
  rw [← Bool.not_eq_true]
  simp only [isSpace, Bool.or_eq_true, Bool.and_eq_true, decide_eq_true_eq, beq_iff_eq]
  omega

theorem asciiLower_of_upper {c : CodePoint} (h : isUpper c = true) :
    (asciiLower c).val = c.val + 32 ∧ 65 ≤ c.val ∧ c.val ≤ 90 := by
  obtain ⟨h1, h2⟩ : 65 ≤ c.val ∧ c.val ≤ 90 := by simpa [isUpper] using h
  refine ⟨?_, h1, h2⟩
  unfold asciiLower
  rw [if_pos h]
  show (c.val + 32) % 0x110000 = c.val + 32
  omega

theorem isSpace_asciiLower (c : CodePoint) : isSpace (asciiLower c) = isSpace c := by
  by_cases h : isUpper c = true
  · obtain ⟨hval, h1, h2⟩ := asciiLower_of_upper h
    rw [isSpace_of_letter h1 (by omega), isSpace_of_letter (by omega) (by omega)]
  · rw [asciiLower, if_neg h]

theorem asciiLower_idem (c : CodePoint) : asciiLower (asciiLower c) = asciiLower c := by
  by_cases h : isUpper c = true
  · obtain ⟨hval, h1, h2⟩ := asciiLower_of_upper h
    have hupper : isUpper (asciiLower c) = false := by
      unfold isUpper
      rw [hval, Bool.and_eq_false_iff, decide_eq_false_iff_not, decide_eq_false_iff_not]
      omega
    rw [asciiLower, if_neg (by rw [hupper]; exact Bool.false_ne_true)]
  · have e : asciiLower c = c := if_neg h
    rw [e, e]

theorem mem_py {c : Char} {s : String} : CodePoint.ofChar c ∈ py s ↔ c ∈ s.toList :=
  List.mem_map_of_injective CodePoint.ofChar_injective

theorem exists_mem_py {s : String} {P : CodePoint → Prop} :
    (∃ c ∈ py s, P c) ↔ ∃ c ∈ s.toList, P (CodePoint.ofChar c) := by
  unfold py
  simp only [List.mem_map, exists_exists_and_eq_and]

theorem isUpper_of_small {c : CodePoint} (h : isSmall c = true) : isUpper c = false := by
  unfold isSmall at h
  rw [Bool.or_eq_true, Bool.and_eq_true, Bool.not_eq_true', decide_eq_true_eq] at h
  rcases h with h | h
  · exact h.2
  · have hsmall : (py vietnameseLetters).all (fun c => !isUpper c) = true := by
      unfold vietnameseLetters
      rw [py_ofList]
      decide
    rw [← Bool.not_eq_true']
    exact List.all_eq_true.mp hsmall c (of_decide_eq_true h)

def asciiUnicode : Unicode where
  toCaseMap := asciiCase
  isWord c := isAlnum c || c == 95
  isWord_ascii _ _ := rfl
  lower_lower s := by
    show (s.map asciiLower).map asciiLower = s.map asciiLower
    rw [List.map_map]
    exact List.map_congr_left fun c _ => asciiLower_idem c
  lower_space s c t h := by
    have hc : asciiLower c = c := by
      refine if_neg fun hup => ?_
      obtain ⟨-, h1, h2⟩ := asciiLower_of_upper hup
      rw [isSpace_of_letter h1 (by omega)] at h
      exact absurd h Bool.false_ne_true
    show (s ++ c :: t).map asciiLower = s.map asciiLower ++ c :: t.map asciiLower
    rw [List.map_append, List.map_cons, hc]
  lower_word w hne h := by
    refine ⟨fun e => hne (List.map_eq_nil_iff.mp e), fun c hc => ?_⟩
    obtain ⟨d, hd, rfl⟩ := List.mem_map.mp hc
    rw [isSpace_asciiLower]
    exact h d hd
  lower_small s h := by
    show s.map asciiLower = s
    refine (List.map_congr_left fun c hc => ?_).trans (List.map_id s)
    exact if_neg (by rw [isUpper_of_small (h c hc)]; exact Bool.false_ne_true)

theorem contains_iff {s sub : PyStr} : contains s sub = true ↔ sub <:+: s := by
  unfold contains
  rw [List.any_eq_true]
  constructor
  · rintro ⟨t, ht, hp⟩
    exact List.infix_iff_prefix_suffix.mpr ⟨t, List.isPrefixOf_iff_prefix.mp hp, (List.mem_tails t s).mp ht⟩
  · intro h
    obtain ⟨t, hp, ht⟩ := List.infix_iff_prefix_suffix.mp h
    exact ⟨t, (List.mem_tails t s).mpr ht, List.isPrefixOf_iff_prefix.mpr hp⟩

/-! ### the words of a text -/

theorem split_nil : split [] = [] := rfl

theorem split_cons_space {c : CodePoint} (h : isSpace c = true) (s : PyStr) :
    split (c :: s) = split s := by
  unfold split
  rw [List.splitOnP_cons_eq_if_modifyHead, if_pos h]
  rfl

theorem split_append_space {c : CodePoint} (h : isSpace c = true) (s t : PyStr) :
    split (s ++ c :: t) = split s ++ split t := by
  unfold split
  rw [← List.filter_append]
  refine congrArg _ ?_
  induction s with
  | nil => rw [List.nil_append, List.splitOnP_cons_eq_if_modifyHead, if_pos h]; rfl
  | cons d s ih =>
    rw [List.cons_append, List.splitOnP_cons_eq_if_modifyHead, List.splitOnP_cons_eq_if_modifyHead, ih]
    split_ifs
    · rfl
    · cases e : s.splitOnP isSpace with
      | nil => exact absurd e (List.splitOnP_ne_nil _ s)
      | cons w ws => rfl

theorem split_word {w : PyStr} (hne : w ≠ []) (h : ∀ c ∈ w, isSpace c = false) : split w = [w] := by
  unfold split
  rw [List.splitOnP_eq_singleton fun c hc => h c hc]
  cases w with
  | nil => exact absurd rfl hne
  | cons c w => rfl

theorem words_induct {P : PyStr → Prop} (nil : P [])
    (space : ∀ c s, isSpace c = true → P s → P (c :: s))
    (word : ∀ w, w ≠ [] → (∀ c ∈ w, isSpace c = false) → P w)
    (cons : ∀ w c s, w ≠ [] → (∀ d ∈ w, isSpace d = false) → isSpace c = true → P s →
      P (w ++ c :: s)) (s : PyStr) : P s := by
  induction hn : s.length using Nat.strong_induction_on generalizing s with
  | _ n ih =>
    cases s with
    | nil => exact nil
    | cons a s =>
      by_cases ha : isSpace a = true
      · exact space a s ha (ih s.length (by rw [← hn, List.length_cons]; omega) s rfl)
      · have e := List.takeWhile_append_dropWhile (p := fun c => !isSpace c) (l := a :: s)
        have hw : ∀ c ∈ (a :: s).takeWhile (fun c => !isSpace c), isSpace c = false := by
          intro c hc
          have := List.mem_takeWhile_imp hc
          rwa [Bool.not_eq_true'] at this
        have hne : (a :: s).takeWhile (fun c => !isSpace c) ≠ [] := by
          rw [List.takeWhile_cons, if_pos (by rw [Bool.not_eq_true']; exact eq_false_of_ne_true ha)]
          exact List.cons_ne_nil _ _
        cases hd : (a :: s).dropWhile (fun c => !isSpace c) with
        | nil =>
          rw [hd, List.append_nil] at e
          rw [← e]
          exact word _ hne hw
        | cons c t =>
          have hc : isSpace c = true := by
            have := List.head_dropWhile_not (fun c => !isSpace c) (l := a :: s) (by rw [hd]; simp)
            simpa [hd] using this
          rw [hd] at e
          have hlen : t.length < n := by
            rw [← hn, ← e, List.length_append, List.length_cons]
            omega
          rw [← e]
          exact cons _ c t hne hw hc (ih t.length hlen t rfl)

def IsWord (w : PyStr) : Prop := w ≠ [] ∧ ∀ c ∈ w, isSpace c = false

theorem isWord_py {s : String} (hne : s.toList ≠ [])
    (h : ∀ c ∈ s.toList, isSpace (CodePoint.ofChar c) = false) : IsWord (py s) := by
  refine ⟨fun e => hne (List.map_eq_nil_iff.mp e), fun c hc => ?_⟩
  obtain ⟨d, hd, rfl⟩ := List.mem_map.mp hc
  exact h d hd

theorem split_words (s : PyStr) : ∀ w ∈ split s, IsWord w := by
  induction s using words_induct with
  | nil => exact fun _ h => absurd h List.not_mem_nil
  | space c s hc ih => rw [split_cons_space hc]; exact ih
  | word w hne hw =>
    rw [split_word hne hw]
    exact fun v hv => List.mem_singleton.mp hv ▸ ⟨hne, hw⟩
  | cons w c s hne hw hc ih =>
    rw [split_append_space hc, split_word hne hw]
    exact List.forall_mem_cons.mpr ⟨⟨hne, hw⟩, ih⟩

theorem split_spaces {a : PyStr} (h : ∀ c ∈ a, isSpace c = true) (s : PyStr) :
    split (a ++ s) = split s := by
  induction a with
  | nil => rfl
  | cons c a ih =>
    rw [List.cons_append, split_cons_space (h c List.mem_cons_self)]
    exact ih fun d hd => h d (List.mem_cons_of_mem c hd)

theorem split_append_spaces {b : PyStr} (h : ∀ c ∈ b, isSpace c = true) (s : PyStr) :
    split (s ++ b) = split s := by
  cases b with
  | nil => rw [List.append_nil]
  | cons c b =>
    have hb := split_spaces (fun d hd => h d (List.mem_cons_of_mem c hd)) []
    rw [List.append_nil, split_nil] at hb
    rw [split_append_space (h c List.mem_cons_self), hb, List.append_nil]

theorem strip_spec (s : PyStr) :
    ∃ a b, s = a ++ strip s ++ b ∧ (∀ c ∈ a, isSpace c = true) ∧ (∀ c ∈ b, isSpace c = true) ∧
      (∀ c, (strip s).head? = some c → isSpace c = false) ∧
      (∀ c, (strip s).getLast? = some c → isSpace c = false) := by
  have hall : ∀ t : PyStr, ∀ c ∈ t.takeWhile isSpace, isSpace c = true :=
    fun t c hc => List.mem_takeWhile_imp hc
  have hhead : ∀ t : PyStr, ∀ c, (t.dropWhile isSpace).head? = some c → isSpace c = false := by
    intro t c hc
    have h := List.head?_dropWhile_not isSpace t
    rw [hc] at h
    simpa using h
  let t := s.dropWhile isSpace
  have hs : s = s.takeWhile isSpace ++ t := List.takeWhile_append_dropWhile.symm
  have ht : t = strip s ++ (t.reverse.takeWhile isSpace).reverse := by
    have e : t.reverse.takeWhile isSpace ++ t.reverse.dropWhile isSpace = t.reverse :=
      List.takeWhile_append_dropWhile
    have := congrArg List.reverse e
    rw [List.reverse_append, List.reverse_reverse] at this
    exact this.symm
  refine ⟨_, (t.reverse.takeWhile isSpace).reverse, ?_, hall s, ?_, ?_, ?_⟩
  · rw [List.append_assoc, ← ht]
    exact hs
  · exact fun c hc => hall _ c (List.mem_reverse.mp hc)
  · intro c hc
    refine hhead s c ?_
    show t.head? = some c
    rw [ht, List.head?_append, hc]
    rfl
  · intro c hc
    refine hhead t.reverse c ?_
    rw [← List.getLast?_reverse]
    exact hc

theorem split_strip (s : PyStr) : split (strip s) = split s := by
  obtain ⟨a, b, e, ha, hb, -⟩ := strip_spec s
  have h := congrArg split e
  rw [split_append_spaces hb, split_spaces ha] at h
  exact h.symm

/-! ### collapsing -/

theorem collapseFrom_word {w : PyStr} (hw : IsWord w) (inRun : Bool) (t : PyStr) :
    collapseFrom inRun (w ++ t) = w ++ collapseFrom false t := by
  obtain ⟨hne, hns⟩ := hw
  induction w generalizing inRun with
  | nil => exact absurd rfl hne
  | cons c w ih =>
    have hc : ¬ isSpace c = true := by
      rw [hns c List.mem_cons_self]
      exact Bool.false_ne_true
    rw [List.cons_append, collapseFrom, if_neg hc, List.cons_append]
    by_cases hw : w = []
    · rw [hw]
      rfl
    · rw [ih false hw fun d hd => hns d (List.mem_cons_of_mem c hd)]

theorem joinWith_cons (sep w : PyStr) {ws : List PyStr} (h : ws ≠ []) :
    joinWith sep (w :: ws) = w ++ (sep ++ joinWith sep ws) := by
  unfold joinWith
  cases ws with
  | nil => exact absurd rfl h
  | cons v ws => rw [List.intercalate_cons_cons, List.append_assoc]

theorem joinWith_singleton (sep w : PyStr) : joinWith sep [w] = w := by
  unfold joinWith
  exact List.intercalate_singleton

theorem collapseFrom_true (s : PyStr) :
    collapseFrom true s = joinWith [space] (split s) ++
      if split s ≠ [] ∧ s.getLast?.any isSpace = true then [space] else [] := by
  induction s using words_induct with
  | nil => rfl
  | space c s hc ih =>
    rw [collapseFrom, if_pos hc, if_pos rfl, ih, split_cons_space hc]
    cases s with
    | nil => rfl
    | cons d s => rw [List.getLast?_cons_cons]
  | word w hne hw =>
    have hlast : ¬ w.getLast?.any isSpace = true := by
      rw [Option.any_eq_true]
      rintro ⟨c, hc, h⟩
      rw [hw c (List.mem_of_getLast? hc)] at h
      exact Bool.false_ne_true h
    have e := collapseFrom_word ⟨hne, hw⟩ true []
    rw [List.append_nil] at e
    rw [split_word hne hw, joinWith_singleton, if_neg fun h => hlast h.2, e]
    rfl
  | cons w c s hne hw hc ih =>
    rw [collapseFrom_word ⟨hne, hw⟩, collapseFrom, if_pos hc, if_neg Bool.false_ne_true, ih,
      split_append_space hc, split_word hne hw]
    have hlast : (w ++ c :: s).getLast? = some ((c :: s).getLast (List.cons_ne_nil c s)) := by
      rw [List.getLast?_append, List.getLast?_eq_some_getLast (List.cons_ne_nil c s)]
      rfl
    by_cases hs : split s = []
    · have hall : isSpace ((c :: s).getLast (List.cons_ne_nil c s)) = true := by
        have hmem := List.getLast_mem (List.cons_ne_nil c s)
        rcases List.mem_cons.mp hmem with e | h
        · rw [e]
          exact hc
        · refine (strip_eq_nil_iff s).mp ?_ _ h
          by_contra hne'
          obtain ⟨a, t, e⟩ := List.exists_cons_of_ne_nil hne'
          obtain ⟨_, _, _, _, _, hh, _⟩ := strip_spec s
          have ha : isSpace a = false := hh a (by rw [e]; rfl)
          have hw : split (strip s) ≠ [] := by
            rw [e]
            unfold split
            rw [List.splitOnP_cons_eq_if_modifyHead, if_neg (by rw [ha]; exact Bool.false_ne_true)]
            cases e' : t.splitOnP isSpace with
            | nil => exact absurd e' (List.splitOnP_ne_nil _ t)
            | cons v vs => exact fun hf => by simp at hf
          exact hw (by rw [split_strip]; exact hs)
      rw [hs, if_neg fun h => h.1 rfl, List.singleton_append, joinWith_singleton, hlast,
        if_pos ⟨List.cons_ne_nil w [], hall⟩]
      rfl
    · have hsne : s ≠ [] := fun e => hs (by rw [e]; rfl)
      have hend : (c :: s).getLast (List.cons_ne_nil c s) = s.getLast hsne := List.getLast_cons hsne
      rw [List.singleton_append, joinWith_cons [space] w hs, hlast, hend,
        List.getLast?_eq_some_getLast hsne]
      simp only [ne_eq, hs, not_false_eq_true, true_and, List.cons_ne_nil, List.append_assoc]
      rfl

theorem collapse_strip (s : PyStr) : collapse (strip s) = joinWith [space] (split s) := by
  obtain ⟨a, b, -, -, -, hhead, hlast⟩ := strip_spec s
  have hfrom : collapse (strip s) = collapseFrom true (strip s) := by
    unfold collapse
    cases e : strip s with
    | nil => rfl
    | cons c t =>
      have hc : ¬ isSpace c = true := by
        rw [hhead c (by rw [e]; rfl)]
        exact Bool.false_ne_true
      rw [collapseFrom, collapseFrom, if_neg hc, if_neg hc]
  have hend : ¬ (strip s).getLast?.any isSpace = true := by
    rw [Option.any_eq_true]
    rintro ⟨c, hc, h⟩
    rw [hlast c hc] at h
    exact Bool.false_ne_true h
  rw [hfrom, collapseFrom_true, split_strip, if_neg fun h => hend h.2, List.append_nil]

/-! ### words that are joined again -/

theorem isWord_edges {w : PyStr} (h : IsWord w) :
    w.head?.any isSpace = false ∧ w.getLast?.any isSpace = false := by
  obtain ⟨hne, hw⟩ := h
  rw [List.head?_eq_some_head hne, List.getLast?_eq_some_getLast hne]
  exact ⟨hw _ (List.head_mem hne), hw _ (List.getLast_mem hne)⟩

theorem split_joinWith {ws : List PyStr} (h : ∀ w ∈ ws, IsWord w) :
    split (joinWith [space] ws) = ws := by
  induction ws with
  | nil => rfl
  | cons w ws ih =>
    have hw := h w List.mem_cons_self
    have ih := ih fun v hv => h v (List.mem_cons_of_mem w hv)
    by_cases hws : ws = []
    · rw [hws, joinWith_singleton, split_word hw.1 hw.2]
    · rw [joinWith_cons [space] w hws, List.singleton_append, split_append_space isSpace_space, ih,
        split_word hw.1 hw.2, List.singleton_append]

theorem joinWith_edges {ws : List PyStr} (h : ∀ w ∈ ws, IsWord w) :
    (joinWith [space] ws).head?.any isSpace = false ∧
      (joinWith [space] ws).getLast?.any isSpace = false := by
  induction ws with
  | nil => exact ⟨rfl, rfl⟩
  | cons w ws ih =>
    have hw := h w List.mem_cons_self
    have ih := ih fun v hv => h v (List.mem_cons_of_mem w hv)
    by_cases hws : ws = []
    · rw [hws, joinWith_singleton]
      exact isWord_edges hw
    · have hne : joinWith [space] ws ≠ [] := by
        intro e
        have hs := split_joinWith fun v hv => h v (List.mem_cons_of_mem w hv)
        rw [e] at hs
        exact hws hs.symm
      rw [joinWith_cons [space] w hws, List.singleton_append, List.head?_append_of_ne_nil _ hw.1,
        List.getLast?_append_of_ne_nil _ (List.cons_ne_nil _ _)]
      refine ⟨(isWord_edges hw).1, ?_⟩
      obtain ⟨c, t, e⟩ := List.exists_cons_of_ne_nil hne
      rw [e, List.getLast?_cons_cons, ← e]
      exact ih.2

theorem strip_of_edges {s : PyStr} (hhead : s.head?.any isSpace = false)
    (hlast : s.getLast?.any isSpace = false) : strip s = s := by
  have hdrop : ∀ t : PyStr, t.head?.any isSpace = false → t.dropWhile isSpace = t := by
    intro t ht
    cases t with
    | nil => rfl
    | cons c t => exact List.dropWhile_cons_of_neg (by rw [show isSpace c = false from ht]; exact Bool.false_ne_true)
  unfold strip
  rw [hdrop s hhead, hdrop s.reverse (by rw [List.head?_reverse]; exact hlast), List.reverse_reverse]

theorem strip_joinWith {ws : List PyStr} (h : ∀ w ∈ ws, IsWord w) :
    strip (joinWith [space] ws) = joinWith [space] ws :=
  strip_of_edges (joinWith_edges h).1 (joinWith_edges h).2

/-! ### lowering word by word -/

namespace Unicode
variable (u : Unicode)

theorem lower_nil : u.lower [] = [] := u.lower_ascii [] fun _ h => absurd h List.not_mem_nil

theorem lower_py {s : String}
    (h : ∀ c ∈ s.toList, (c.toNat < 128 ∧ (c.toNat < 65 ∨ 90 < c.toNat)) ∨ c ∈ vietnameseLetters.toList) :
    u.lower (py s) = py s := by
  refine u.lower_small _ fun c hc => ?_
  obtain ⟨d, hd, rfl⟩ := List.mem_map.mp hc
  unfold isSmall
  rw [Bool.or_eq_true]
  rcases h d hd with ⟨hascii, hcase⟩ | h
  · left
    have hval : (CodePoint.ofChar d).val = d.toNat := rfl
    simp only [isUpper, hval, Bool.and_eq_true, Bool.not_eq_true', decide_eq_true_eq,
      Bool.and_eq_false_iff, decide_eq_false_iff_not]
    omega
  · right
    exact decide_eq_true (mem_py.mpr h)

theorem lower_cons_space {c : CodePoint} (h : isSpace c = true) (s : PyStr) :
    u.lower (c :: s) = c :: u.lower s := by
  have e := u.lower_space [] c s h
  rw [u.lower_nil] at e
  exact e

theorem isWord_lower {w : PyStr} (h : IsWord w) : IsWord (u.lower w) := u.lower_word w h.1 h.2

theorem split_lower (s : PyStr) : split (u.lower s) = (split s).map u.lower := by
  induction s using words_induct with
  | nil => rw [u.lower_nil]; rfl
  | space c s hc ih => rw [u.lower_cons_space hc, split_cons_space hc, split_cons_space hc, ih]
  | word w hne hw =>
    obtain ⟨hne', hw'⟩ := u.lower_word w hne hw
    rw [split_word hne hw, split_word hne' hw']
    rfl
  | cons w c s hne hw hc ih =>
    obtain ⟨hne', hw'⟩ := u.lower_word w hne hw
    rw [u.lower_space w c s hc, split_append_space hc, split_append_space hc, ih,
      split_word hne hw, split_word hne' hw', List.map_append]
    rfl

theorem lower_ne_nil {s : PyStr} (h : s ≠ []) : u.lower s ≠ [] := by
  induction s using words_induct with
  | nil => exact absurd rfl h
  | space c s hc _ => rw [u.lower_cons_space hc]; exact List.cons_ne_nil c _
  | word w hne hw => exact (u.lower_word w hne hw).1
  | cons w c s _ _ hc _ => rw [u.lower_space w c s hc]; simp

theorem lower_edges (s : PyStr) :
    (u.lower s).head?.any isSpace = s.head?.any isSpace ∧
      (u.lower s).getLast?.any isSpace = s.getLast?.any isSpace := by
  have hend : ∀ (c : CodePoint) (s : PyStr),
      (u.lower s).getLast?.any isSpace = s.getLast?.any isSpace →
        (c :: u.lower s).getLast?.any isSpace = (c :: s).getLast?.any isSpace := by
    intro c s h
    by_cases hs : s = []
    · rw [hs, u.lower_nil]
    · obtain ⟨a, t, e⟩ := List.exists_cons_of_ne_nil hs
      obtain ⟨a', t', e'⟩ := List.exists_cons_of_ne_nil (u.lower_ne_nil hs)
      rw [e', e, List.getLast?_cons_cons, List.getLast?_cons_cons, ← e', ← e, h]
  induction s using words_induct with
  | nil => rw [u.lower_nil]; exact ⟨rfl, rfl⟩
  | space c s hc ih =>
    rw [u.lower_cons_space hc]
    exact ⟨rfl, hend c s ih.2⟩
  | word w hne hw =>
    obtain ⟨h1, h2⟩ := isWord_edges ⟨hne, hw⟩
    obtain ⟨h3, h4⟩ := isWord_edges (u.isWord_lower ⟨hne, hw⟩)
    exact ⟨h3.trans h1.symm, h4.trans h2.symm⟩
  | cons w c s hne hw hc ih =>
    have hw' := u.isWord_lower ⟨hne, hw⟩
    rw [u.lower_space w c s hc, List.head?_append_of_ne_nil _ hw'.1, List.head?_append_of_ne_nil _ hne,
      List.getLast?_append_of_ne_nil _ (List.cons_ne_nil _ _),
      List.getLast?_append_of_ne_nil _ (List.cons_ne_nil _ _)]
    exact ⟨(isWord_edges hw').1.trans (isWord_edges ⟨hne, hw⟩).1.symm, hend c s ih.2⟩

theorem strip_edges (s : PyStr) :
    (strip s).head?.any isSpace = false ∧ (strip s).getLast?.any isSpace = false := by
  obtain ⟨_, _, _, _, _, hh, hl⟩ := strip_spec s
  constructor
  · cases e : (strip s).head? with
    | none => rfl
    | some c => exact hh c e
  · cases e : (strip s).getLast? with
    | none => rfl
    | some c => exact hl c e

/-- `re.sub(r"\s+", " ", s.strip().lower())`: the lowered words, joined by one space. -/
theorem collapse_lower_strip (s : PyStr) :
    collapse (u.lower (strip s)) = joinWith [space] ((split s).map u.lower) := by
  obtain ⟨h1, h2⟩ := strip_edges s
  obtain ⟨h3, h4⟩ := u.lower_edges (strip s)
  have e : strip (u.lower (strip s)) = u.lower (strip s) :=
    strip_of_edges (h3.trans h1) (h4.trans h2)
  have h := collapse_strip (u.lower (strip s))
  rw [e] at h
  rw [h, u.split_lower, split_strip]

end Unicode

theorem strip_length_le (s : PyStr) : (strip s).length ≤ s.length := by
  obtain ⟨a, b, hs, -⟩ := strip_spec s
  have hlen := congrArg List.length hs
  rw [List.length_append, List.length_append] at hlen
  omega

theorem strip_of_no_space {s : PyStr} (h : ∀ c ∈ s, isSpace c = false) : strip s = s := by
  refine strip_of_edges ?_ ?_
  · cases e : s.head? with
    | none => rfl
    | some c => exact h c (List.mem_of_head? e)
  · cases e : s.getLast? with
    | none => rfl
    | some c => exact h c (List.mem_of_getLast? e)

theorem strip_strip (s : PyStr) : strip (strip s) = strip s :=
  strip_of_edges (Unicode.strip_edges s).1 (Unicode.strip_edges s).2

end Py
