import TomtitAgent.Python.RegexWords
import TomtitAgent.Python.Decimal

/-!
# `conversation/simple_comparison.py`

* `reComparison`, `tokenize`, `evalSide`, `tryAnswerComparison`   the functions of the source;
* `Numeral`, `Side`, `Comparator`   the grammar: what a side is, as data that renders to its text;
* `Comparison`   the text is read as one side, a comparator and another side;
* `comparison_of_match`   what the pattern matches is a comparison;
* `tokenize_render`       the tokens of a side.
-/

open Py

namespace Tomtit
namespace SimpleComparison

/-! ### the code -/

/-- `_SIDE` -/
def side : PyStr := py r"-?\d+(?:\.\d+)?(?:\s*[+\-*/]\s*-?\d+(?:\.\d+)?)*"

/-- `_RE_COMPARISON` -/
def reComparison : Re := Re.compile
  (py r"^\s*(" ++ side ++ py r")\s*(==|!=|>=|<=|>|<|=)\s*(" ++ side ++ py r")\s*[?？]?\s*$")

/-- `num_re` -/
def numRe : Re := Re.compile (py r"\d+(?:\.\d+)?")

/-- `_COMPARATORS` -/
def comparators : List (PyStr × (Rat → Rat → Bool)) := [
  (py "==", fun x y => x = y),
  (py "=", fun x y => x = y),
  (py "!=", fun x y => x ≠ y),
  (py ">", fun x y => x > y),
  (py "<", fun x y => x < y),
  (py ">=", fun x y => x ≥ y),
  (py "<=", fun x y => x ≤ y)]

def indexError : PyExc := ⟨["IndexError", "LookupError"], py "list index out of range"⟩

section
variable (dt : DigitTable)

/-- The patterns have no flag, and neither `\w` nor `\b`. -/
def mode : Mode where
  tables := { isWord := fun _ => false, isDecimal := dt.isDecimal, fold := id }

/-- The loop of `_tokenize`; every turn reads a character. -/
def tokenizeFrom : Nat → Bool → PyStr → Option (List PyStr)
  | _, expectNumber, [] => if expectNumber then none else some []
  | 0, _, _ :: _ => none
  | n + 1, expectNumber, c :: rest =>
    if isSpace c then tokenizeFrom n expectNumber rest
    else if expectNumber then
      match numRe.matchStart (mode dt) (if c = 45 then rest.dropWhile isSpace else c :: rest) with
      | none => none
      | some m =>
        (tokenizeFrom n false m.rest).map (((if c = 45 then [45] else []) ++ m.before.reverse) :: ·)
    else if c = 43 ∨ c = 45 ∨ c = 42 ∨ c = 47 then (tokenizeFrom n true rest).map ([c] :: ·)
    else none

/-- `_tokenize` -/
def tokenize (expr : PyStr) : Option (List PyStr) := tokenizeFrom dt expr.length true expr

/-- Pass 1 from `tokens[1]` on, with the terms before the last one and the last one; `none` where the
divisor is zero. -/
def foldTerms : List PyStr → List Rat → Rat → Except PyExc (Option (List Rat))
  | [], done, last => .ok (some (done ++ [last]))
  | [_], _, _ => .error indexError
  | op :: token :: tokens, done, last => do
    let num ← decimalOf dt token
    if op = [42] then
      let product ← roundDecimal (last * num)
      foldTerms tokens done product
    else if op = [47] then
      if num = 0 then return none
      let quotient ← roundDecimal (last / num)
      foldTerms tokens done quotient
    else if op = [43] then foldTerms tokens (done ++ [last]) num
    else
      let negated ← roundDecimal (-num)
      foldTerms tokens (done ++ [last]) negated

/-- `sum(terms, Decimal(0))` from a partial sum on. -/
def sumTerms (terms : List Rat) (start : Rat) : Except PyExc Rat :=
  terms.foldlM (fun sum term => roundDecimal (sum + term)) start

/-- `_eval_side` -/
def evalSide (expr : PyStr) : Except PyExc (Option Rat) :=
  match tokenize dt expr with
  | none => .ok none
  | some [] => .ok none
  | some (first :: tokens) =>
    match decimalOf dt first >>= foldTerms dt tokens [] with
    | .error e => if e.isA "InvalidOperation" || e.isA "IndexError" then .ok none else .error e
    | .ok none => .ok none
    | .ok (some terms) => some <$> sumTerms terms 0

/-- `try_answer_comparison` -/
def tryAnswerComparison (text : PyStr) : Except PyExc (Option PyStr) :=
  match reComparison.matchStart (mode dt) (strip text) with
  | none => .ok none
  | some m => do
    let left ← evalSide dt ((m.group 1).getD [])
    let right ← evalSide dt ((m.group 3).getD [])
    match left, right with
    | some left, some right =>
      match comparators.lookup ((m.group 2).getD []) with
      | none => return none
      | some op => return some (if op left right then py "Đúng." else py "Sai.")
    | _, _ => return none

end

/-! ### the grammar -/

/-- `\d+` -/
structure Digits (dt : DigitTable) where
  text : PyStr
  ne_nil : text ≠ []
  decimal : ∀ c ∈ text, dt.isDecimal c = true

/-- `-?\d+(?:\.\d+)?` -/
structure Numeral (dt : DigitTable) where
  neg : Bool
  whole : Digits dt
  frac : Option (Digits dt)

/-- `\s*` -/
structure Blanks where
  text : PyStr
  space : ∀ c ∈ text, isSpace c = true

inductive Op where
  | add | sub | mul | div
deriving DecidableEq

/-- One round of the repetition in a side: an operator and its operand. -/
structure Operand (dt : DigitTable) where
  before : Blanks
  op : Op
  after : Blanks
  num : Numeral dt

structure Side (dt : DigitTable) where
  head : Numeral dt
  operands : List (Operand dt)

inductive Comparator where
  | eqeq | eq | ne | gt | lt | ge | le
deriving DecidableEq

variable {dt : DigitTable}

def Numeral.fracText (n : Numeral dt) : PyStr := n.frac.elim [] fun d => d.text

def Numeral.unsigned (n : Numeral dt) : PyStr := n.whole.text ++ n.frac.elim [] fun d => 46 :: d.text

def Numeral.text (n : Numeral dt) : PyStr := (if n.neg then [45] else []) ++ n.unsigned

def Numeral.value (n : Numeral dt) : Rat := signedDecimal dt n.neg n.whole.text n.fracText

def Op.sign : Op → CodePoint
  | .add => 43
  | .sub => 45
  | .mul => 42
  | .div => 47

def Operand.render (o : Operand dt) : PyStr := o.before.text ++ o.op.sign :: (o.after.text ++ o.num.text)

def Side.render (s : Side dt) : PyStr := s.head.text ++ s.operands.flatMap Operand.render

def Side.tokens (s : Side dt) : List PyStr :=
  s.head.text :: s.operands.flatMap fun o => [[o.op.sign], o.num.text]

namespace Comparator

def text : Comparator → PyStr
  | eqeq => py "=="
  | eq => py "="
  | ne => py "!="
  | gt => py ">"
  | lt => py "<"
  | ge => py ">="
  | le => py "<="

def Holds : Comparator → Rat → Rat → Prop
  | eqeq, x, y => x = y
  | eq, x, y => x = y
  | ne, x, y => x ≠ y
  | gt, x, y => x > y
  | lt, x, y => x < y
  | ge, x, y => x ≥ y
  | le, x, y => x ≤ y

end Comparator

/-- The pattern accepts the text, with these two sides and this comparator. -/
def Comparison (dt : DigitTable) (text : PyStr) (left : Side dt) (cmp : Comparator) (right : Side dt) : Prop :=
  ∃ m, reComparison.matchStart (mode dt) (strip text) = some m ∧ m.group 1 = some left.render ∧
    m.group 2 = some cmp.text ∧ m.group 3 = some right.render

/-! ### what the pattern matches -/

def minusRe : Re := .alt (.one false [.char 45]) .eps
def digitsRe : Re := .plus [.decimal]
def fracRe : Re := .alt (.seq (.one false [.char 46]) (.seq digitsRe .eps)) .eps
def blanksRe : Re := .star true (.one false [.space])

def numeralThen (next : Re) : Re := .seq minusRe (.seq digitsRe (.seq fracRe next))

def operandRe : Re :=
  .seq blanksRe (.seq (.one false [.char 43, .char 45, .char 42, .char 47]) (.seq blanksRe (numeralThen .eps)))

def sideRe : Re := numeralThen (.seq (.star true operandRe) .eps)

def comparatorRe : Re :=
  let pair (c : CodePoint) : Re := .seq (.one false [.char c]) (.seq (.one false [.char 61]) .eps)
  let single (c : CodePoint) : Re := .seq (.one false [.char c]) .eps
  .alt (pair 61) (.alt (pair 33) (.alt (pair 62) (.alt (pair 60) (.alt (single 62)
    (.alt (single 60) (single 61))))))

def tailRe : Re :=
  .seq blanksRe (.seq (.alt (.one false [.char 63, .char 65311]) .eps) (.seq blanksRe (.seq .lineEnd .eps)))

theorem numRe_eq : numRe = .seq digitsRe (.seq fracRe .eps) := by
  unfold numRe
  rw [py_ofList]
  rfl

theorem reComparison_eq : reComparison = .seq .lineStart (.seq blanksRe (.seq (.group 1 sideRe)
    (.seq blanksRe (.seq (.group 2 comparatorRe) (.seq blanksRe (.seq (.group 3 sideRe) tailRe)))))) := by
  unfold reComparison side
  repeat rw [py_ofList]
  decide +kernel

section
variable {w : PyStr}

theorem decimal_accepts (c : CodePoint) : ([ClassItem.decimal].any (ClassItem.accepts (mode dt) c)) = dt.isDecimal c := by
  rw [List.any_cons, List.any_nil, Bool.or_false]
  rfl

theorem space_accepts (c : CodePoint) : ([ClassItem.space].any (ClassItem.accepts (mode dt) c)) = isSpace c := by
  rw [List.any_cons, List.any_nil, Bool.or_false]
  rfl

theorem char_accepts (c d : CodePoint) :
    ([ClassItem.char d].any (ClassItem.accepts (mode dt) c)) = decide (c = d) := by
  rw [List.any_cons, List.any_nil, Bool.or_false]
  rfl

theorem char_lang {d : CodePoint} (h : (Re.one false [.char d]).Lang (mode dt) w) : w = [d] := by
  obtain ⟨c, rfl, hc⟩ := h
  rw [char_accepts, Bool.bne_false, decide_eq_true_eq] at hc
  rw [hc]

theorem blanks_lang (h : blanksRe.Lang (mode dt) w) : ∃ b : Blanks, b.text = w :=
  ⟨⟨w, fun c hc => @space_accepts dt c ▸ star_lang h c hc⟩, rfl⟩

theorem digits_lang (h : digitsRe.Lang (mode dt) w) : ∃ d : Digits dt, d.text = w := by
  obtain ⟨hne, hw⟩ := plus_lang h
  exact ⟨⟨w, hne, fun c hc => @decimal_accepts dt c ▸ hw c hc⟩, rfl⟩

theorem minus_lang (h : minusRe.Lang (mode dt) w) : ∃ neg : Bool, w = if neg then [45] else [] := by
  rcases h with h | rfl
  · exact ⟨true, char_lang h⟩
  · exact ⟨false, rfl⟩

theorem frac_lang (h : fracRe.Lang (mode dt) w) :
    ∃ d : Option (Digits dt), w = d.elim [] fun d => 46 :: d.text := by
  rcases h with ⟨u, v, rfl, hu, v', z, rfl, hv, rfl⟩ | rfl
  · obtain ⟨d, rfl⟩ := digits_lang hv
    refine ⟨some d, ?_⟩
    rw [char_lang hu, List.append_nil]
    rfl
  · exact ⟨none, rfl⟩

theorem numeralThen_lang {next : Re} (h : (numeralThen next).Lang (mode dt) w) :
    ∃ (n : Numeral dt) (v : PyStr), w = n.text ++ v ∧ next.Lang (mode dt) v := by
  obtain ⟨u₁, v₁, rfl, hminus, u₂, v₂, rfl, hdigits, u₃, v, rfl, hfrac, hv⟩ := h
  obtain ⟨neg, rfl⟩ := minus_lang hminus
  obtain ⟨whole, rfl⟩ := digits_lang hdigits
  obtain ⟨frac, rfl⟩ := frac_lang hfrac
  refine ⟨⟨neg, whole, frac⟩, v, ?_, hv⟩
  unfold Numeral.text Numeral.unsigned
  rw [List.append_assoc, List.append_assoc]

theorem operator_lang (h : (Re.one false [.char 43, .char 45, .char 42, .char 47]).Lang (mode dt) w) :
    ∃ op : Op, w = [op.sign] := by
  obtain ⟨c, rfl, hc⟩ := h
  have hchars : c = 43 ∨ c = 45 ∨ c = 42 ∨ c = 47 := by
    simpa [ClassItem.accepts, mode] using hc
  rcases hchars with rfl | rfl | rfl | rfl
  · exact ⟨.add, rfl⟩
  · exact ⟨.sub, rfl⟩
  · exact ⟨.mul, rfl⟩
  · exact ⟨.div, rfl⟩

theorem operand_lang (h : operandRe.Lang (mode dt) w) : ∃ o : Operand dt, o.render = w := by
  obtain ⟨u₁, v₁, rfl, hbefore, u₂, v₂, rfl, hop, u₃, v₃, rfl, hafter, hnum⟩ := h
  obtain ⟨before, rfl⟩ := blanks_lang hbefore
  obtain ⟨op, rfl⟩ := operator_lang hop
  obtain ⟨after, rfl⟩ := blanks_lang hafter
  obtain ⟨num, v, rfl, rfl⟩ := numeralThen_lang hnum
  refine ⟨⟨before, op, after, num⟩, ?_⟩
  unfold Operand.render
  rw [List.append_nil]
  rfl

theorem operands_lang {ws : List PyStr} (h : ∀ u ∈ ws, operandRe.Lang (mode dt) u) :
    ∃ os : List (Operand dt), os.flatMap Operand.render = ws.flatten := by
  induction ws with
  | nil => exact ⟨[], rfl⟩
  | cons u ws ih =>
    obtain ⟨o, ho⟩ := operand_lang (h u List.mem_cons_self)
    obtain ⟨os, hos⟩ := ih fun v hv => h v (List.mem_cons_of_mem u hv)
    refine ⟨o :: os, ?_⟩
    rw [List.flatMap_cons, List.flatten_cons, ho, hos]

theorem side_lang (h : sideRe.Lang (mode dt) w) : ∃ s : Side dt, s.render = w := by
  obtain ⟨head, v, rfl, u, z, rfl, ⟨ws, rfl, hws⟩, rfl⟩ := numeralThen_lang h
  obtain ⟨os, hos⟩ := operands_lang hws
  refine ⟨⟨head, os⟩, ?_⟩
  unfold Side.render
  rw [hos, List.append_nil]

theorem pair_lang {c d : CodePoint}
    (h : (Re.seq (.one false [.char c]) (.seq (.one false [.char d]) .eps)).Lang (mode dt) w) : w = [c, d] := by
  obtain ⟨u, v, rfl, hu, v', z, rfl, hv, rfl⟩ := h
  rw [char_lang hu, char_lang hv]
  rfl

theorem single_lang {c : CodePoint} (h : (Re.seq (.one false [.char c]) .eps).Lang (mode dt) w) : w = [c] := by
  obtain ⟨u, z, rfl, hu, rfl⟩ := h
  rw [char_lang hu, List.append_nil]

theorem comparator_lang (h : comparatorRe.Lang (mode dt) w) : ∃ cmp : Comparator, cmp.text = w := by
  rcases h with h | h | h | h | h | h | h
  · exact ⟨.eqeq, by rw [pair_lang h, Comparator.text, py_ofList]; rfl⟩
  · exact ⟨.ne, by rw [pair_lang h, Comparator.text, py_ofList]; rfl⟩
  · exact ⟨.ge, by rw [pair_lang h, Comparator.text, py_ofList]; rfl⟩
  · exact ⟨.le, by rw [pair_lang h, Comparator.text, py_ofList]; rfl⟩
  · exact ⟨.gt, by rw [single_lang h, Comparator.text, py_ofList]; rfl⟩
  · exact ⟨.lt, by rw [single_lang h, Comparator.text, py_ofList]; rfl⟩
  · exact ⟨.eq, by rw [single_lang h, Comparator.text, py_ofList]; rfl⟩

end

/-- What the pattern matches is one side, a comparator and another side. -/
theorem comparison_of_match {text : PyStr} {m : At}
    (h : reComparison.matchStart (mode dt) (strip text) = some m) :
    ∃ left cmp right, Comparison dt text left cmp right := by
  have hruns := List.mem_of_mem_head? h
  rw [reComparison_eq] at hruns
  obtain ⟨p₁, h₁, hruns⟩ := List.mem_flatMap.mp hruns
  obtain ⟨p₂, h₂, hruns⟩ := List.mem_flatMap.mp hruns
  obtain ⟨p₃, h₃, hruns⟩ := List.mem_flatMap.mp hruns
  obtain ⟨p₄, h₄, hruns⟩ := List.mem_flatMap.mp hruns
  obtain ⟨p₅, h₅, hruns⟩ := List.mem_flatMap.mp hruns
  obtain ⟨p₆, h₆, hruns⟩ := List.mem_flatMap.mp hruns
  obtain ⟨p₇, h₇, htail⟩ := List.mem_flatMap.mp hruns
  obtain ⟨u, -, hleft, hg₃⟩ := mem_group_runs rfl h₃
  obtain ⟨v, -, hcmp, hg₅⟩ := mem_group_runs rfl h₅
  obtain ⟨w, -, hright, hg₇⟩ := mem_group_runs rfl h₇
  obtain ⟨left, rfl⟩ := side_lang hleft
  obtain ⟨cmp, rfl⟩ := comparator_lang hcmp
  obtain ⟨right, rfl⟩ := side_lang hright
  have hgroups : m.groups = (3, right.render) :: (2, cmp.text) :: (1, left.render) :: p₂.groups := by
    rw [@runs_groups_eq _ tailRe rfl p₇ m htail, hg₇, @runs_groups_eq _ blanksRe rfl p₅ p₆ h₆, hg₅,
      @runs_groups_eq _ blanksRe rfl p₃ p₄ h₄, hg₃]
  refine ⟨left, cmp, right, m, h, ?_, ?_, ?_⟩
  · unfold At.group
    rw [hgroups]
    rfl
  · unfold At.group
    rw [hgroups]
    rfl
  · unfold At.group
    rw [hgroups]
    rfl

/-! ### the tokens of a side -/

def Ends (dt : DigitTable) (s : PyStr) : Prop := ∀ c t, s = c :: t → dt.isDecimal c = false ∧ c ≠ 46

theorem Digits.takeWhile (d : Digits dt) {s : PyStr} (h : ∀ c t, s = c :: t → dt.isDecimal c = false) :
    (d.text ++ s).takeWhile dt.isDecimal = d.text ∧ (d.text ++ s).dropWhile dt.isDecimal = s := by
  rw [List.takeWhile_append_of_pos d.decimal, List.dropWhile_append_of_pos d.decimal]
  cases s with
  | nil => exact ⟨List.append_nil _, rfl⟩
  | cons c t =>
    have hc : ¬ dt.isDecimal c = true := by
      rw [h c t rfl]
      exact Bool.false_ne_true
    rw [List.takeWhile_cons_of_neg hc, List.dropWhile_cons_of_neg hc]
    exact ⟨List.append_nil _, rfl⟩

theorem Digits.cons (d : Digits dt) : ∃ c t, d.text = c :: t ∧ dt.isDecimal c = true := by
  obtain ⟨c, t, e⟩ := List.exists_cons_of_ne_nil d.ne_nil
  exact ⟨c, t, e, d.decimal c (e ▸ List.mem_cons_self)⟩

theorem digits_first (d : Digits dt) {before s : PyStr} {groups : List (Nat × PyStr)}
    (h : ∀ c t, s = c :: t → dt.isDecimal c = false) :
    Re.First (mode dt) digitsRe ⟨before, d.text ++ s, groups⟩ ⟨d.text.reverse ++ before, s, groups⟩ := by
  have hclass : ∀ c, classTest (mode dt) false [.decimal] c = dt.isDecimal c := by
    intro c
    unfold classTest
    rw [decimal_accepts, Bool.bne_false]
  refine Re.First.plus d.ne_nil (fun c hc => ?_) fun c t e => ?_
  · rw [hclass]
    exact d.decimal c hc
  · rw [hclass]
    exact h c t e

theorem frac_first (frac : Option (Digits dt)) {before s : PyStr} {groups : List (Nat × PyStr)} (h : Ends dt s) :
    Re.First (mode dt) fracRe ⟨before, (frac.elim [] fun d => 46 :: d.text) ++ s, groups⟩
      ⟨(frac.elim [] fun d => 46 :: d.text).reverse ++ before, s, groups⟩ := by
  cases frac with
  | none =>
    refine Re.First.altRight ?_ Re.First.eps
    have hnil : (Re.one false [.char 46]).runs (mode dt) ⟨before, s, groups⟩ = [] := by
      refine runs_one_nil fun c t e => ?_
      unfold classTest
      rw [char_accepts, Bool.bne_false, decide_eq_false_iff_not]
      exact (h c t e).2
    show ((Re.one false [.char 46]).runs (mode dt) ⟨before, s, groups⟩).flatMap _ = []
    rw [hnil]
    rfl
  | some d =>
    refine Re.First.altLeft ?_
    have hdot : Re.First (mode dt) (.one false [.char 46]) ⟨before, 46 :: (d.text ++ s), groups⟩
        ⟨46 :: before, d.text ++ s, groups⟩ := by
      refine Re.First.one rfl ?_
      rw [char_accepts]
      rfl
    have hdigits := @digits_first dt d (46 :: before) s groups fun c t e => (h c t e).1
    have hrun := hdot.seq (hdigits.seq Re.First.eps)
    show Re.First _ _ ⟨before, 46 :: (d.text ++ s), groups⟩ ⟨(46 :: d.text).reverse ++ before, s, groups⟩
    rw [List.reverse_cons, List.append_assoc]
    exact hrun

theorem numRe_first (n : Numeral dt) {s : PyStr} (h : Ends dt s) :
    numRe.matchStart (mode dt) (n.unsigned ++ s) = some ⟨n.unsigned.reverse, s, []⟩ := by
  rw [numRe_eq]
  unfold Numeral.unsigned
  rw [List.append_assoc, List.reverse_append]
  have hdot : ∀ c t, (n.frac.elim [] fun d => 46 :: d.text) ++ s = c :: t → dt.isDecimal c = false := by
    intro c t e
    cases hfrac : n.frac with
    | none =>
      rw [hfrac] at e
      exact (h c t e).1
    | some d =>
      rw [hfrac] at e
      rw [← (List.cons.inj e).1]
      exact DigitTable.isDecimal_ascii (by decide)
  have hwhole := @digits_first dt n.whole [] _ [] hdot
  have hfrac := @frac_first dt n.frac n.whole.text.reverse s [] h
  rw [List.append_nil] at hwhole
  exact hwhole.seq (hfrac.seq Re.First.eps)

theorem Numeral.unsigned_cons (n : Numeral dt) : ∃ c t, n.unsigned = c :: t ∧ dt.isDecimal c = true := by
  obtain ⟨c, t, e, hc⟩ := n.whole.cons
  refine ⟨c, t ++ n.frac.elim [] fun d => 46 :: d.text, ?_, hc⟩
  unfold Numeral.unsigned
  rw [e]
  rfl

theorem decimal_not_space {c : CodePoint} (h : dt.isDecimal c = true) : isSpace c = false := dt.not_space c h

theorem decimal_ne {c d : CodePoint} (h : dt.isDecimal c = true) (hd : d.val < 128) (hdigit : isDigit d = false) :
    c ≠ d := by
  rintro rfl
  rw [DigitTable.isDecimal_ascii hd, hdigit] at h
  exact Bool.false_ne_true h

theorem tokenizeFrom_cons (n : Nat) (expectNumber : Bool) (c : CodePoint) (rest : PyStr) :
    tokenizeFrom dt (n + 1) expectNumber (c :: rest) =
      if isSpace c then tokenizeFrom dt n expectNumber rest
      else if expectNumber then
        match numRe.matchStart (mode dt) (if c = 45 then rest.dropWhile isSpace else c :: rest) with
        | none => none
        | some m =>
          (tokenizeFrom dt n false m.rest).map (((if c = 45 then [45] else []) ++ m.before.reverse) :: ·)
      else if c = 43 ∨ c = 45 ∨ c = 42 ∨ c = 47 then (tokenizeFrom dt n true rest).map ([c] :: ·)
      else none := by
  rw [tokenizeFrom]

theorem tokenizeFrom_blanks (b : Blanks) (e : Bool) (s : PyStr) :
    ∀ n, b.text.length + s.length ≤ n → ∃ n', s.length ≤ n' ∧
      tokenizeFrom dt n e (b.text ++ s) = tokenizeFrom dt n' e s := by
  obtain ⟨text, hspace⟩ := b
  dsimp only
  induction text with
  | nil => exact fun n hn => ⟨n, by simpa using hn, rfl⟩
  | cons c t ih =>
    intro n hn
    rw [List.length_cons] at hn
    obtain ⟨n, rfl⟩ : ∃ k, n = k + 1 := ⟨n - 1, by omega⟩
    obtain ⟨n', hn', h⟩ := ih (fun d hd => hspace d (List.mem_cons_of_mem c hd)) n (by omega)
    refine ⟨n', hn', ?_⟩
    rw [← h, List.cons_append, tokenizeFrom_cons, if_pos (hspace c List.mem_cons_self)]

theorem tokenizeFrom_numeral (num : Numeral dt) {s : PyStr} (hs : Ends dt s) (n : Nat) :
    tokenizeFrom dt (n + 1) true (num.text ++ s) = (tokenizeFrom dt n false s).map (num.text :: ·) := by
  obtain ⟨d, t, e, hd⟩ := num.unsigned_cons
  have hspace := decimal_not_space hd
  have hread := numRe_first num hs
  unfold Numeral.text
  cases num.neg with
  | true =>
    have hdrop : (num.unsigned ++ s).dropWhile isSpace = num.unsigned ++ s := by
      rw [e]
      exact List.dropWhile_cons_of_neg (by rw [hspace]; exact Bool.false_ne_true)
    show tokenizeFrom dt (n + 1) true (45 :: (num.unsigned ++ s)) = _
    rw [tokenizeFrom_cons, if_neg (by decide), if_pos rfl, if_pos rfl, hdrop, hread, if_pos rfl]
    dsimp only
    rw [List.reverse_reverse]
    rfl
  | false =>
    show tokenizeFrom dt (n + 1) true (num.unsigned ++ s) = _
    have hne : d ≠ 45 := decimal_ne hd (by decide) rfl
    rw [e] at hread ⊢
    show tokenizeFrom dt (n + 1) true (d :: (t ++ s)) = _
    rw [tokenizeFrom_cons, hspace, if_neg Bool.false_ne_true, if_pos rfl, if_neg hne,
      show d :: (t ++ s) = d :: t ++ s from rfl, hread, if_neg hne]
    dsimp only
    rw [List.reverse_reverse]
    rfl

theorem tokenizeFrom_op (op : Op) (s : PyStr) (n : Nat) :
    tokenizeFrom dt (n + 1) false (op.sign :: s) = (tokenizeFrom dt n true s).map ([op.sign] :: ·) := by
  rw [tokenizeFrom_cons]
  cases op
  · rfl
  · rfl
  · rfl
  · rfl

theorem ends_operands (os : List (Operand dt)) : Ends dt (os.flatMap Operand.render) := by
  intro c t e
  cases os with
  | nil => exact absurd e.symm (List.cons_ne_nil c t)
  | cons o os =>
    rw [List.flatMap_cons] at e
    unfold Operand.render at e
    cases hb : o.before.text with
    | nil =>
      rw [hb] at e
      rw [← (List.cons.inj e).1]
      rw [DigitTable.isDecimal_ascii (by cases o.op <;> decide)]
      cases o.op <;> decide
    | cons b bs =>
      rw [hb] at e
      have hspace : isSpace b = true := o.before.space b (hb ▸ List.mem_cons_self)
      rw [← (List.cons.inj e).1]
      constructor
      · cases hdec : dt.isDecimal b with
        | false => rfl
        | true =>
          rw [decimal_not_space hdec] at hspace
          exact absurd hspace Bool.false_ne_true
      · rintro rfl
        exact absurd hspace (by decide)

theorem tokenizeFrom_operands (os : List (Operand dt)) :
    ∀ n, (os.flatMap Operand.render).length ≤ n →
    tokenizeFrom dt n false (os.flatMap Operand.render) =
      some (os.flatMap fun o => [[o.op.sign], o.num.text]) := by
  induction os with
  | nil =>
    intro n _
    cases n <;> rfl
  | cons o os ih =>
    intro n hn
    rw [List.flatMap_cons] at hn ⊢
    unfold Operand.render at hn ⊢
    rw [List.append_assoc, List.cons_append, List.append_assoc] at hn ⊢
    rw [List.length_append] at hn
    obtain ⟨n₁, hn₁, h₁⟩ := tokenizeFrom_blanks o.before false
      (o.op.sign :: (o.after.text ++ (o.num.text ++ os.flatMap Operand.render))) n hn
    rw [List.length_cons, List.length_append] at hn₁
    obtain ⟨n₁, rfl⟩ : ∃ k, n₁ = k + 1 := ⟨n₁ - 1, by omega⟩
    obtain ⟨n₂, hn₂, h₂⟩ := tokenizeFrom_blanks o.after true (o.num.text ++ os.flatMap Operand.render) n₁ (by omega)
    have hlen : 0 < o.num.text.length := by
      obtain ⟨c, t, e, -⟩ := o.num.unsigned_cons
      unfold Numeral.text
      rw [List.length_append, e, List.length_cons]
      omega
    rw [List.length_append] at hn₂
    obtain ⟨n₂, rfl⟩ : ∃ k, n₂ = k + 1 := ⟨n₂ - 1, by omega⟩
    have hrest : (os.flatMap Operand.render).length ≤ n₂ := by omega
    rw [show (fun o => o.before.text ++ o.op.sign :: (o.after.text ++ o.num.text)) = @Operand.render dt from rfl,
      h₁, tokenizeFrom_op, h₂, tokenizeFrom_numeral o.num (ends_operands os), ih n₂ hrest]
    rfl

/-- The tokenizer never fails on a side. -/
theorem tokenize_render (s : Side dt) : tokenize dt s.render = some s.tokens := by
  unfold tokenize Side.render Side.tokens
  have hlen : 0 < s.head.text.length := by
    obtain ⟨c, t, e, -⟩ := s.head.unsigned_cons
    unfold Numeral.text
    rw [List.length_append, e, List.length_cons]
    omega
  rw [List.length_append]
  obtain ⟨n, hn⟩ : ∃ k, s.head.text.length + (s.operands.flatMap Operand.render).length = k + 1 :=
    ⟨_, (Nat.succ_pred_eq_of_pos (by omega)).symm⟩
  rw [hn, tokenizeFrom_numeral s.head (ends_operands s.operands),
    tokenizeFrom_operands s.operands n (by omega)]
  rfl

end SimpleComparison
end Tomtit
