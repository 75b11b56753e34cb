import TomtitAgent.Python.Str
import TomtitAgent.Python.Order

/-!
# Regular expressions with backtracking (`re`)

* `Re`, `Re.runs`     a pattern, and every way it can match at a place, in the order the matcher tries
                      them: the first one is the match;
* `Mode`              the flags, and the character tables behind `\w`, `\d` and `IGNORECASE`;
* `Re.matchStart`, `Re.search`, `Re.removeAll`   `match`, `search`, `sub` with an empty replacement;
* `Re.compile`        the syntax: literals, classes, groups, `|`, the quantifiers `*`, `+`, `?` and their
                      lazy forms, `^`, `$`, `\b`;
* `Reads`             what a pattern reads when it matches, the rule for each former;
* `matchStart_group`  a group of a match holds what its body reads.

A repetition that reads nothing is not repeated.
-/

namespace Py

structure ReTables where
  /-- `\w` -/
  isWord : CodePoint → Bool
  /-- `\d` -/
  isDecimal : CodePoint → Bool
  /-- characters that `IGNORECASE` identifies fold to the same one -/
  fold : CodePoint → CodePoint

structure Mode where
  tables : ReTables
  ignoreCase : Bool := false
  dotAll : Bool := false
  multiLine : Bool := false

inductive ClassItem where
  | char (c : CodePoint)
  | range (a b : CodePoint)
  | space | notSpace | word | decimal
deriving DecidableEq

inductive Re where
  | eps
  | one (negated : Bool) (items : List ClassItem)
  | any
  | seq (a b : Re)
  | alt (a b : Re)
  | star (greedy : Bool) (a : Re)
  | group (n : Nat) (a : Re)
  | boundary | lineStart | lineEnd
deriving DecidableEq

/-- A place in the subject: what was read before it (last character first), what follows, and the
groups that were set on the way, last one first. -/
structure At where
  before : PyStr
  rest : PyStr
  groups : List (Nat × PyStr) := []

namespace ClassItem

def accepts (m : Mode) (c : CodePoint) : ClassItem → Bool
  | .char d => if m.ignoreCase then m.tables.fold c = m.tables.fold d else c = d
  | .range a b => (a.val ≤ c.val && c.val ≤ b.val) ||
      (m.ignoreCase && a.val ≤ (m.tables.fold c).val && (m.tables.fold c).val ≤ b.val)
  | .space => isSpace c
  | .notSpace => !isSpace c
  | .word => m.tables.isWord c
  | .decimal => m.tables.isDecimal c

end ClassItem

namespace At

/-- `m.group(n)` -/
def group (p : At) (n : Nat) : Option PyStr := p.groups.lookup n

/-- What was read from `p` to `q`. -/
def spanned (p q : At) : PyStr := (q.before.take (q.before.length - p.before.length)).reverse

def isBoundary (m : Mode) (p : At) : Bool :=
  (p.before.head?.any m.tables.isWord) != (p.rest.head?.any m.tables.isWord)

def isLineStart (m : Mode) (p : At) : Bool :=
  p.before.isEmpty || (m.multiLine && p.before.head? = some newline)

def isLineEnd (m : Mode) (p : At) : Bool :=
  p.rest.isEmpty || p.rest = [newline] || (m.multiLine && p.rest.head? = some newline)

def step (test : CodePoint → Bool) (p : At) : List At :=
  match p.rest with
  | [] => []
  | c :: rest => if test c then [⟨c :: p.before, rest, p.groups⟩] else []

end At

/-- The ways through a repetition of `run`. -/
def starRuns (greedy : Bool) (run : At → List At) : Nat → At → List At
  | 0, p => [p]
  | n + 1, p =>
    let more := ((run p).filter fun q => q.rest.length < p.rest.length).flatMap (starRuns greedy run n)
    if greedy then more ++ [p] else p :: more

namespace Re

def runs (m : Mode) : Re → At → List At
  | .eps, p => [p]
  | .one negated items, p => p.step fun c => (items.any (ClassItem.accepts m c)) != negated
  | .any, p => p.step fun c => m.dotAll || c ≠ newline
  | .seq a b, p => (runs m a p).flatMap fun q => runs m b q
  | .alt a b, p => runs m a p ++ runs m b p
  | .star greedy a, p => starRuns greedy (fun q => runs m a q) p.rest.length p
  | .group n a, p => (runs m a p).map fun q => { q with groups := (n, p.spanned q) :: q.groups }
  | .boundary, p => if p.isBoundary m then [p] else []
  | .lineStart, p => if p.isLineStart m then [p] else []
  | .lineEnd, p => if p.isLineEnd m then [p] else []

/-- `re.match(s)`: the end of the match. -/
def matchStart (m : Mode) (re : Re) (s : PyStr) : Option At := (re.runs m ⟨[], s, []⟩).head?

/-- `re.search`, from a place on: the start and the end of the match. -/
def searchFrom (m : Mode) (re : Re) : PyStr → PyStr → Option (At × At)
  | before, rest =>
    match (re.runs m ⟨before, rest, []⟩).head? with
    | some q => some (⟨before, rest, []⟩, q)
    | none =>
      match rest with
      | [] => none
      | c :: rest => searchFrom m re (c :: before) rest

def search (m : Mode) (re : Re) (s : PyStr) : Option (At × At) := searchFrom m re [] s

/-- `re.sub("", s)` from a place on, of a pattern that never matches without reading. -/
def removeFrom (m : Mode) (re : Re) : Nat → PyStr → PyStr → PyStr
  | 0, _, rest => rest
  | n + 1, before, rest =>
    match (re.runs m ⟨before, rest, []⟩).head?.filter fun q => q.rest.length < rest.length with
    | some q => removeFrom m re n q.before q.rest
    | none =>
      match rest with
      | [] => []
      | c :: rest => c :: removeFrom m re n (c :: before) rest

def removeAll (m : Mode) (re : Re) (s : PyStr) : PyStr := removeFrom m re s.length [] s

/-! ### syntax -/

def escapeItem (c : CodePoint) : ClassItem :=
  if c = 115 then .space
  else if c = 83 then .notSpace
  else if c = 119 then .word
  else if c = 100 then .decimal
  else if c = 110 then .char newline
  else .char c

/-- The items of a class up to its `]`. -/
def classItems : PyStr → Option (List ClassItem × PyStr)
  | [] => none
  | 93 :: s => some ([], s)
  | 92 :: c :: s => do
    let (items, s) ← classItems s
    return (escapeItem c :: items, s)
  | a :: 45 :: b :: s =>
    if b = 93 then some ([.char a, .char 45], s)
    else do
      let (items, s) ← classItems s
      return (.range a b :: items, s)
  | a :: s => do
    let (items, s) ← classItems s
    return (.char a :: items, s)

/-- A quantifier after an atom, and the `?` that makes it lazy. -/
def quantify (a : Re) : PyStr → Re × PyStr
  | 42 :: 63 :: s => (.star false a, s)
  | 42 :: s => (.star true a, s)
  | 43 :: 63 :: s => (.seq a (.star false a), s)
  | 43 :: s => (.seq a (.star true a), s)
  | 63 :: 63 :: s => (.alt .eps a, s)
  | 63 :: s => (.alt a .eps, s)
  | s => (a, s)

mutual

def parseAlt : Nat → Nat → PyStr → Option (Re × Nat × PyStr)
  | 0, _, _ => none
  | fuel + 1, g, s => do
    let (a, g, s) ← parseSeq fuel g s
    match s with
    | 124 :: s => do
      let (b, g, s) ← parseAlt fuel g s
      return (.alt a b, g, s)
    | _ => return (a, g, s)

def parseSeq : Nat → Nat → PyStr → Option (Re × Nat × PyStr)
  | 0, _, _ => none
  | fuel + 1, g, s =>
    match s with
    | [] => some (.eps, g, [])
    | 124 :: s => some (.eps, g, 124 :: s)
    | 41 :: s => some (.eps, g, 41 :: s)
    | s => do
      let (a, g, s) ← parseAtom fuel g s
      let (a, s) := quantify a s
      let (b, g, s) ← parseSeq fuel g s
      return (.seq a b, g, s)

def parseAtom : Nat → Nat → PyStr → Option (Re × Nat × PyStr)
  | 0, _, _ => none
  | fuel + 1, g, s =>
    match s with
    | 40 :: 63 :: 58 :: s => do
      let (a, g, s) ← parseAlt fuel g s
      match s with
      | 41 :: s => return (a, g, s)
      | _ => none
    | 40 :: s => do
      let (a, g', s) ← parseAlt fuel (g + 1) s
      match s with
      | 41 :: s => return (.group g a, g', s)
      | _ => none
    | 91 :: 94 :: s => do
      let (items, s) ← classItems s
      return (.one true items, g, s)
    | 91 :: s => do
      let (items, s) ← classItems s
      return (.one false items, g, s)
    | 92 :: 98 :: s => some (.boundary, g, s)
    | 92 :: c :: s => some (.one false [escapeItem c], g, s)
    | 46 :: s => some (.any, g, s)
    | 94 :: s => some (.lineStart, g, s)
    | 36 :: s => some (.lineEnd, g, s)
    | c :: s => some (.one false [.char c], g, s)
    | [] => none

end

/-- `re.compile(pattern)`; what is no pattern matches nothing. -/
def compile (pattern : PyStr) : Re :=
  match parseAlt (2 * pattern.length + 2) 1 pattern with
  | some (re, _, []) => re
  | _ => .one false []

end Re

/-! ### what a match reads -/

/-- From `p` to `q` the characters `w` were read. -/
def Reads (w : PyStr) (p q : At) : Prop := p.rest = w ++ q.rest ∧ q.before = w.reverse ++ p.before

theorem Reads.nil (p : At) : Reads [] p p := ⟨rfl, rfl⟩

theorem Reads.append {v w : PyStr} {p q r : At} (h : Reads v p q) (h' : Reads w q r) :
    Reads (v ++ w) p r := by
  constructor
  · rw [h.1, h'.1, List.append_assoc]
  · rw [h'.2, h.2, List.reverse_append, List.append_assoc]

theorem Reads.spanned {w : PyStr} {p q : At} (h : Reads w p q) : p.spanned q = w := by
  unfold At.spanned
  have hlen : q.before.length - p.before.length = w.reverse.length := by
    rw [h.2, List.length_append]
    omega
  rw [hlen, h.2, List.take_left, List.reverse_reverse]

theorem mem_step {test : CodePoint → Bool} {p q : At} (h : q ∈ p.step test) :
    ∃ c, test c = true ∧ Reads [c] p q ∧ q.groups = p.groups := by
  obtain ⟨before, rest, groups⟩ := p
  cases rest with
  | nil => exact absurd h List.not_mem_nil
  | cons c rest =>
    unfold At.step at h
    dsimp only at h
    split at h
    · next hc =>
      rw [List.mem_singleton.mp h]
      exact ⟨c, hc, ⟨rfl, rfl⟩, rfl⟩
    · exact absurd h List.not_mem_nil

section
variable {m : Mode} {P : CodePoint → Prop}

/-- Every match of `re` reads characters that satisfy `P`, and sets no group. -/
def ReadsOnly (m : Mode) (P : CodePoint → Prop) (re : Re) : Prop :=
  ∀ p q, q ∈ re.runs m p → ∃ w, Reads w p q ∧ (∀ c ∈ w, P c) ∧ q.groups = p.groups

theorem mem_starRuns_succ {greedy : Bool} {run : At → List At} {n : Nat} {p q : At}
    (hq : q ∈ starRuns greedy run (n + 1) p) : q = p ∨ ∃ r ∈ run p, q ∈ starRuns greedy run n r := by
  have hmore : ∀ q', q' ∈ ((run p).filter fun q => q.rest.length < p.rest.length).flatMap
      (starRuns greedy run n) → ∃ r ∈ run p, q' ∈ starRuns greedy run n r := by
    intro q' hq'
    obtain ⟨r, hr, hq'⟩ := List.mem_flatMap.mp hq'
    exact ⟨r, (List.mem_filter.mp hr).1, hq'⟩
  unfold starRuns at hq
  dsimp only at hq
  split at hq
  · rcases List.mem_append.mp hq with hq | hq
    · exact .inr (hmore q hq)
    · exact .inl (List.mem_singleton.mp hq)
  · rcases List.mem_cons.mp hq with hq | hq
    · exact .inl hq
    · exact .inr (hmore q hq)

theorem mem_starRuns {greedy : Bool} {run : At → List At}
    (h : ∀ p q, q ∈ run p → ∃ w, Reads w p q ∧ (∀ c ∈ w, P c) ∧ q.groups = p.groups) (n : Nat) :
    ∀ p q, q ∈ starRuns greedy run n p → ∃ w, Reads w p q ∧ (∀ c ∈ w, P c) ∧ q.groups = p.groups := by
  have hstay : ∀ p : At, ∃ w, Reads w p p ∧ (∀ c ∈ w, P c) ∧ p.groups = p.groups := fun p =>
    ⟨[], .nil p, fun c hc => absurd hc List.not_mem_nil, rfl⟩
  induction n with
  | zero =>
    intro p q hq
    rw [List.mem_singleton.mp hq]
    exact hstay p
  | succ n ih =>
    intro p q hq
    rcases mem_starRuns_succ hq with rfl | ⟨r, hr, hq⟩
    · exact hstay q
    · obtain ⟨v, hv, hvP, hvg⟩ := h p r hr
      obtain ⟨w, hw, hwP, hwg⟩ := ih r q hq
      refine ⟨v ++ w, hv.append hw, fun c hc => ?_, hwg.trans hvg⟩
      rcases List.mem_append.mp hc with hc | hc
      · exact hvP c hc
      · exact hwP c hc

namespace ReadsOnly

theorem eps : ReadsOnly m P .eps := by
  intro p q hq
  rw [List.mem_singleton.mp hq]
  exact ⟨[], .nil p, fun c hc => absurd hc List.not_mem_nil, rfl⟩

theorem one {negated : Bool} {items : List ClassItem}
    (h : ∀ c, ((items.any (ClassItem.accepts m c)) != negated) = true → P c) :
    ReadsOnly m P (.one negated items) := by
  intro p q hq
  obtain ⟨c, hc, hreads, hgroups⟩ := mem_step hq
  refine ⟨[c], hreads, fun d hd => ?_, hgroups⟩
  rw [List.mem_singleton.mp hd]
  exact h c hc

theorem star {greedy : Bool} {a : Re} (h : ReadsOnly m P a) : ReadsOnly m P (.star greedy a) :=
  fun p q hq => mem_starRuns h p.rest.length p q hq

theorem seq {a b : Re} (ha : ReadsOnly m P a) (hb : ReadsOnly m P b) : ReadsOnly m P (.seq a b) := by
  intro p q hq
  obtain ⟨r, hr, hq⟩ := List.mem_flatMap.mp hq
  obtain ⟨v, hv, hvP, hvg⟩ := ha p r hr
  obtain ⟨w, hw, hwP, hwg⟩ := hb r q hq
  refine ⟨v ++ w, hv.append hw, fun c hc => ?_, hwg.trans hvg⟩
  rcases List.mem_append.mp hc with hc | hc
  · exact hvP c hc
  · exact hwP c hc

end ReadsOnly

def Re.bodies : Re → List (Nat × Re)
  | .seq a b => a.bodies ++ b.bodies
  | .alt a b => a.bodies ++ b.bodies
  | .star _ a => a.bodies
  | .group n a => (n, a) :: a.bodies
  | _ => []

/-- The group `g` was set before the match, or holds what its body read. -/
def GroupOf (m : Mode) (bodies : List (Nat × Re)) (p : At) (g : Nat × PyStr) : Prop :=
  g ∈ p.groups ∨ ∃ a p' q', (g.1, a) ∈ bodies ∧ q' ∈ a.runs m p' ∧ g.2 = p'.spanned q'

theorem GroupOf.mono {bodies bodies' : List (Nat × Re)} (hsub : ∀ b ∈ bodies, b ∈ bodies') {p : At}
    {g : Nat × PyStr} (h : GroupOf m bodies p g) : GroupOf m bodies' p g := by
  rcases h with h | ⟨a, p', q', ha, h⟩
  · exact .inl h
  · exact .inr ⟨a, p', q', hsub _ ha, h⟩

theorem GroupOf.trans {bodies : List (Nat × Re)} {p r : At} (hr : ∀ g ∈ r.groups, GroupOf m bodies p g)
    {g : Nat × PyStr} (h : GroupOf m bodies r g) : GroupOf m bodies p g := by
  rcases h with h | h
  · exact hr g h
  · exact .inr h

theorem starRuns_groups {bodies : List (Nat × Re)} {greedy : Bool} {run : At → List At}
    (h : ∀ p q, q ∈ run p → ∀ g ∈ q.groups, GroupOf m bodies p g) (n : Nat) :
    ∀ p q, q ∈ starRuns greedy run n p → ∀ g ∈ q.groups, GroupOf m bodies p g := by
  induction n with
  | zero =>
    intro p q hq g hg
    rw [List.mem_singleton.mp hq] at hg
    exact .inl hg
  | succ n ih =>
    intro p q hq g hg
    rcases mem_starRuns_succ hq with rfl | ⟨r, hr, hq⟩
    · exact .inl hg
    · exact (ih r q hq g hg).trans (h p r hr)

theorem runs_groups (re : Re) : ∀ p q, q ∈ re.runs m p → ∀ g ∈ q.groups, GroupOf m re.bodies p g := by
  have hsame : ∀ {re : Re} {p q : At} {g : Nat × PyStr}, q.groups = p.groups → g ∈ q.groups →
      GroupOf m re.bodies p g := fun e hg => .inl (e ▸ hg)
  have hstay : ∀ {re : Re} {c : Bool} {p q : At} {g : Nat × PyStr}, q ∈ (if c then [p] else []) →
      g ∈ q.groups → GroupOf m re.bodies p g := by
    intro re c p q g hq hg
    split at hq
    · rw [List.mem_singleton.mp hq] at hg
      exact .inl hg
    · exact absurd hq List.not_mem_nil
  induction re with
  | eps =>
    intro p q hq g hg
    rw [List.mem_singleton.mp hq] at hg
    exact .inl hg
  | one negated items =>
    intro p q hq g hg
    obtain ⟨_, _, _, e⟩ := mem_step hq
    exact hsame e hg
  | any =>
    intro p q hq g hg
    obtain ⟨_, _, _, e⟩ := mem_step hq
    exact hsame e hg
  | seq a b iha ihb =>
    intro p q hq g hg
    obtain ⟨r, hr, hq⟩ := List.mem_flatMap.mp hq
    refine ((ihb r q hq g hg).mono fun x hx => List.mem_append_right _ hx).trans fun g' hg' => ?_
    exact (iha p r hr g' hg').mono fun x hx => List.mem_append_left _ hx
  | alt a b iha ihb =>
    intro p q hq g hg
    rcases List.mem_append.mp hq with hq | hq
    · exact (iha p q hq g hg).mono fun x hx => List.mem_append_left _ hx
    · exact (ihb p q hq g hg).mono fun x hx => List.mem_append_right _ hx
  | star greedy a ih => exact fun p q hq g hg => starRuns_groups ih p.rest.length p q hq g hg
  | group n a ih =>
    intro p q hq g hg
    obtain ⟨q', hq', rfl⟩ := List.mem_map.mp hq
    rcases List.mem_cons.mp hg with rfl | hg
    · exact .inr ⟨a, p, q', List.mem_cons_self, hq', rfl⟩
    · exact (ih p q' hq' g hg).mono fun x hx => List.mem_cons_of_mem _ hx
  | boundary => exact fun p q hq g hg => hstay hq hg
  | lineStart => exact fun p q hq g hg => hstay hq hg
  | lineEnd => exact fun p q hq g hg => hstay hq hg

/-- A group of a match holds what its body reads. -/
theorem matchStart_group {re : Re} {s w : PyStr} {q : At} {n : Nat} (h : re.matchStart m s = some q)
    (hw : q.group n = some w) : ∃ a p' q', (n, a) ∈ re.bodies ∧ q' ∈ a.runs m p' ∧ w = p'.spanned q' := by
  have hmem : ∀ (gs : List (Nat × PyStr)), gs.lookup n = some w → (n, w) ∈ gs := fun gs => assoc_mem
  rcases runs_groups re _ q (List.mem_of_mem_head? h) (n, w) (hmem _ hw) with hnil | hbody
  · exact absurd hnil List.not_mem_nil
  · exact hbody

end

end Py
