import TomtitAgent.Conversation.SimpleComparison

/-!
# The truth of a numeric comparison

* `Product`, `Sum`     a side read with the usual precedence, and its exact value;
* `Sum.operations`     the exact results of the operations that the evaluation performs;
* `evalSide_render`    where none of them is rounded, a side evaluates to its value;
* `Truthful`           what an answer promises;
* `answers_truly`      what the pattern accepts is a comparison, and where nothing is rounded the
                       answer is true.
-/

open Py

namespace Tomtit
namespace SimpleComparison

variable {dt : DigitTable}

/-! ### the usual precedence -/

/-- `*` and `/`, from the left. -/
inductive Product (dt : DigitTable) where
  | one (n : Numeral dt)
  | times (p : Product dt) (divided : Bool) (n : Numeral dt)

/-- `+` and `-`, from the left. -/
inductive Sum (dt : DigitTable) where
  | one (p : Product dt)
  | plus (s : Sum dt) (subtracted : Bool) (p : Product dt)

namespace Product

def value : Product dt → Option Rat
  | one n => some n.value
  | times p false n => p.value.map fun x => x * n.value
  | times p true n => if n.value = 0 then none else p.value.map fun x => x / n.value

def first : Product dt → Rat
  | one n => n.value
  | times p _ _ => p.first

def performed : Product dt → List Rat
  | one _ => []
  | times p divided n => p.performed ++ (times p divided n).value.toList

def tokens : Product dt → List PyStr
  | one n => [n.text]
  | times p divided n => p.tokens ++ [[if divided then Op.div.sign else Op.mul.sign], n.text]

end Product

def signed (subtracted : Bool) (x : Rat) : Rat := if subtracted then -x else x

namespace Sum

/-- `none` where a divisor is zero. -/
def value : Sum dt → Option Rat
  | one p => p.value
  | plus s subtracted p => do
    let x ← s.value
    let y ← p.value
    return if subtracted then x - y else x + y

/-- The results in pass 1, as far as the first zero divisor. -/
def performed : Sum dt → List Rat
  | one p => p.performed
  | plus s subtracted p =>
    s.performed ++
      if s.value.isSome then (if subtracted then [p.first] else []) ++ p.performed else []

def sums : Sum dt → List Rat
  | one p => p.value.toList
  | plus s subtracted p => s.sums ++ (plus s subtracted p).value.toList

/-- The exact results of the operations; the sign of a result makes no difference. -/
def operations (s : Sum dt) : List Rat := s.performed ++ if s.value.isSome then s.sums else []

def tokens : Sum dt → List PyStr
  | one p => p.tokens
  | plus s subtracted p => s.tokens ++ [if subtracted then Op.sub.sign else Op.add.sign] :: p.tokens

/-- One more operand: `*` and `/` bind to the last product. -/
def push : Sum dt → Op → Numeral dt → Sum dt
  | s, .add, n => plus s false (.one n)
  | s, .sub, n => plus s true (.one n)
  | one p, .mul, n => one (p.times false n)
  | one p, .div, n => one (p.times true n)
  | plus s subtracted p, .mul, n => plus s subtracted (p.times false n)
  | plus s subtracted p, .div, n => plus s subtracted (p.times true n)

def Exact (s : Sum dt) : Prop := ∀ x ∈ s.operations, Representable x

end Sum

def pushAll (t : Sum dt) (os : List (Operand dt)) : Sum dt := os.foldl (fun t o => t.push o.op o.num) t

def Side.tree (s : Side dt) : Sum dt := pushAll (.one (.one s.head)) s.operands

/-! ### pass 1 -/

theorem decimalOf_text (n : Numeral dt) : decimalOf dt n.text = .ok n.value := by
  have hstop : ∀ c t, (n.frac.elim [] fun d => 46 :: d.text) = c :: t → dt.isDecimal c = false := by
    intro c t e
    cases hfrac : n.frac with
    | none =>
      rw [hfrac] at e
      exact absurd e.symm (List.cons_ne_nil c t)
    | some d =>
      rw [hfrac] at e
      rw [← (List.cons.inj e).1]
      exact DigitTable.isDecimal_ascii (by decide)
  obtain ⟨htake, hdrop⟩ := n.whole.takeWhile hstop
  have hsign : (decide (n.text.head? = some 45) = n.neg) ∧
      (if n.neg then n.text.tail else n.text) = n.unsigned := by
    unfold Numeral.text
    cases hneg : n.neg with
    | true => exact ⟨decide_eq_true rfl, rfl⟩
    | false =>
      obtain ⟨d, t, e, hd⟩ := n.unsigned_cons
      refine ⟨?_, rfl⟩
      rw [decide_eq_false_iff_not]
      show ¬ n.unsigned.head? = some 45
      rw [e]
      exact fun h => decimal_ne hd (by decide) rfl (Option.some.inj h)
  unfold decimalOf
  dsimp only
  rw [hsign.1, hsign.2]
  unfold Numeral.unsigned
  rw [htake, hdrop, if_neg n.whole.ne_nil]
  unfold Numeral.value Numeral.fracText
  cases n.frac with
  | none => rfl
  | some d =>
    have hfrac : (46 : CodePoint) = 46 ∧ d.text ≠ [] ∧ d.text.all dt.isDecimal = true :=
      ⟨rfl, d.ne_nil, List.all_eq_true.mpr d.decimal⟩
    show (if (46 : CodePoint) = 46 ∧ d.text ≠ [] ∧ d.text.all dt.isDecimal = true then _ else _) = _
    rw [if_pos hfrac]
    rfl

/-- The terms of the code for a tree without a zero divisor: those before the last one, and the last one. -/
inductive Terms : Sum dt → List Rat → Rat → Prop
  | one {p : Product dt} {x : Rat} : p.value = some x → Terms (.one p) [] x
  | plus {s : Sum dt} {done : List Rat} {last x : Rat} {subtracted : Bool} {p : Product dt} :
      Terms s done last → p.value = some x → Terms (.plus s subtracted p) (done ++ [last]) (signed subtracted x)

theorem Terms.value {t : Sum dt} {done : List Rat} {last : Rat} (h : Terms t done last) : t.value.isSome := by
  induction h with
  | one hx =>
    show Option.isSome (Product.value _) = true
    rw [hx]
    rfl
  | plus _ hx ih =>
    obtain ⟨y, hy⟩ := Option.isSome_iff_exists.mp ih
    unfold Sum.value
    rw [hy, hx]
    rfl

theorem push_none {t : Sum dt} (h : t.value = none) (op : Op) (n : Numeral dt) : (t.push op n).value = none := by
  have hplus : ∀ subtracted (p : Product dt), (Sum.plus t subtracted p).value = none := by
    intro subtracted p
    unfold Sum.value
    rw [h]
    rfl
  have htimes : ∀ {p : Product dt} divided, p.value = none → (p.times divided n).value = none := by
    intro p divided hp
    cases divided with
    | false =>
      show p.value.map _ = none
      rw [hp]
      rfl
    | true =>
      show (if n.value = 0 then none else p.value.map _) = none
      rw [hp]
      split
      · rfl
      · rfl
  have hlast : ∀ {s : Sum dt} {subtracted : Bool} {p : Product dt} divided,
      (Sum.plus s subtracted p).value = none → (Sum.plus s subtracted (p.times divided n)).value = none := by
    intro s subtracted p divided hs
    unfold Sum.value at hs ⊢
    cases hsv : s.value with
    | none => rfl
    | some x =>
      cases hpv : p.value with
      | none =>
        rw [htimes divided hpv]
        rfl
      | some y =>
        rw [hsv, hpv] at hs
        exact absurd hs (by simp)
  cases op with
  | add => exact hplus false _
  | sub => exact hplus true _
  | mul =>
    cases t with
    | one p => exact htimes false h
    | plus s subtracted p => exact hlast false h
  | div =>
    cases t with
    | one p => exact htimes true h
    | plus s subtracted p => exact hlast true h

theorem pushAll_none (os : List (Operand dt)) : ∀ {t : Sum dt}, t.value = none → (pushAll t os).value = none := by
  induction os with
  | nil => exact fun h => h
  | cons o os ih => exact fun h => ih (push_none h o.op o.num)

theorem performed_push (t : Sum dt) (op : Op) (n : Numeral dt) : ∀ x ∈ t.performed, x ∈ (t.push op n).performed := by
  intro x hx
  have hplus : ∀ subtracted (p : Product dt), x ∈ (Sum.plus t subtracted p).performed :=
    fun subtracted p => List.mem_append_left _ hx
  have hlast : ∀ {s : Sum dt} {subtracted : Bool} {p : Product dt} divided,
      x ∈ (Sum.plus s subtracted p).performed → x ∈ (Sum.plus s subtracted (p.times divided n)).performed := by
    intro s subtracted p divided hx
    rcases List.mem_append.mp hx with hx | hx
    · exact List.mem_append_left _ hx
    · refine List.mem_append_right _ ?_
      split at hx
      · next hsome =>
        rw [if_pos hsome]
        rcases List.mem_append.mp hx with hx | hx
        · exact List.mem_append_left _ hx
        · exact List.mem_append_right _ (List.mem_append_left _ hx)
      · exact absurd hx List.not_mem_nil
  cases op with
  | add => exact hplus false _
  | sub => exact hplus true _
  | mul =>
    cases t with
    | one p => exact List.mem_append_left _ hx
    | plus s subtracted p => exact hlast false hx
  | div =>
    cases t with
    | one p => exact List.mem_append_left _ hx
    | plus s subtracted p => exact hlast true hx

theorem performed_pushAll (os : List (Operand dt)) :
    ∀ (t : Sum dt), ∀ x ∈ t.performed, x ∈ (pushAll t os).performed := by
  induction os with
  | nil => exact fun t x hx => hx
  | cons o os ih => exact fun t x hx => ih _ x (performed_push t o.op o.num x hx)

theorem representable_signed {x : Rat} (h : Representable x) (subtracted : Bool) :
    Representable (signed subtracted x) := by
  cases subtracted
  · exact h
  · exact h.neg

theorem signed_mul (subtracted : Bool) (x y : Rat) : signed subtracted x * y = signed subtracted (x * y) := by
  cases subtracted
  · rfl
  · exact neg_mul x y

theorem signed_div (subtracted : Bool) (x y : Rat) : signed subtracted x / y = signed subtracted (x / y) := by
  cases subtracted
  · rfl
  · exact neg_div y x

section
variable {n : Numeral dt} {tokens : List PyStr} {done : List Rat} {last z : Rat}

theorem foldTerms_mul (h : roundDecimal (last * n.value) = .ok z) :
    foldTerms dt ([Op.mul.sign] :: n.text :: tokens) done last = foldTerms dt tokens done z := by
  rw [foldTerms, decimalOf_text]
  show (roundDecimal (last * n.value) >>= fun product => foldTerms dt tokens done product) = _
  rw [h]
  rfl

theorem foldTerms_div (h0 : n.value ≠ 0) (h : roundDecimal (last / n.value) = .ok z) :
    foldTerms dt ([Op.div.sign] :: n.text :: tokens) done last = foldTerms dt tokens done z := by
  rw [foldTerms, decimalOf_text]
  show (if n.value = 0 then .ok none else
    roundDecimal (last / n.value) >>= fun quotient => foldTerms dt tokens done quotient) = _
  rw [if_neg h0, h]
  rfl

theorem foldTerms_zero (h0 : n.value = 0) :
    foldTerms dt ([Op.div.sign] :: n.text :: tokens) done last = .ok none := by
  rw [foldTerms, decimalOf_text]
  show (if n.value = 0 then .ok none else
    roundDecimal (last / n.value) >>= fun quotient => foldTerms dt tokens done quotient) = _
  rw [if_pos h0]

theorem foldTerms_add :
    foldTerms dt ([Op.add.sign] :: n.text :: tokens) done last = foldTerms dt tokens (done ++ [last]) n.value := by
  rw [foldTerms, decimalOf_text]
  rfl

theorem foldTerms_sub (h : roundDecimal (-n.value) = .ok z) :
    foldTerms dt ([Op.sub.sign] :: n.text :: tokens) done last = foldTerms dt tokens (done ++ [last]) z := by
  rw [foldTerms, decimalOf_text]
  show (roundDecimal (-n.value) >>= fun negated => foldTerms dt tokens (done ++ [last]) negated) = _
  rw [h]
  rfl

end

theorem Terms.last {t : Sum dt} {done : List Rat} {last : Rat} (h : Terms t done last) :
    ∃ (subtracted : Bool) (p : Product dt) (x : Rat), p.value = some x ∧ last = signed subtracted x ∧
      ∀ (divided : Bool) (n : Numeral dt) (y : Rat), (p.times divided n).value = some y →
        Terms (t.push (if divided then .div else .mul) n) done (signed subtracted y) ∧
        y ∈ (t.push (if divided then .div else .mul) n).performed := by
  cases h with
  | @one p _ hx =>
    refine ⟨false, p, last, hx, rfl, fun divided n y hy => ?_⟩
    have hmem : y ∈ (p.times divided n).performed := by
      refine List.mem_append_right _ ?_
      rw [hy]
      exact List.mem_singleton_self y
    cases divided with
    | false => exact ⟨.one hy, hmem⟩
    | true => exact ⟨.one hy, hmem⟩
  | @plus s done last x subtracted p hs hx =>
    refine ⟨subtracted, p, x, hx, rfl, fun divided n y hy => ?_⟩
    have hmem : y ∈ (Sum.plus s subtracted (p.times divided n)).performed := by
      refine List.mem_append_right _ ?_
      rw [if_pos hs.value]
      refine List.mem_append_right _ (List.mem_append_right _ ?_)
      rw [hy]
      exact List.mem_singleton_self y
    cases divided with
    | false => exact ⟨.plus hs hy, hmem⟩
    | true => exact ⟨.plus hs hy, hmem⟩

theorem foldTerms_step {t : Sum dt} {done : List Rat} {last : Rat} (h : Terms t done last) (op : Op)
    (n : Numeral dt) (hexact : ∀ x ∈ (t.push op n).performed, Representable x) (tokens : List PyStr) :
    (∃ done' last', Terms (t.push op n) done' last' ∧
      foldTerms dt ([op.sign] :: n.text :: tokens) done last = foldTerms dt tokens done' last') ∨
    ((t.push op n).value = none ∧ foldTerms dt ([op.sign] :: n.text :: tokens) done last = .ok none) := by
  obtain ⟨subtracted, p, x, hx, rfl, hnext⟩ := h.last
  cases op with
  | add => exact .inl ⟨_, _, .plus h rfl, foldTerms_add⟩
  | sub =>
    have hmem : n.value ∈ (Sum.plus t true (.one n)).performed := by
      refine List.mem_append_right _ ?_
      rw [if_pos h.value]
      exact List.mem_append_left _ (List.mem_singleton_self n.value)
    exact .inl ⟨_, _, .plus h rfl, foldTerms_sub (roundDecimal_exact (hexact _ hmem).neg)⟩
  | mul =>
    have hy : (p.times false n).value = some (x * n.value) := by
      show p.value.map _ = _
      rw [hx]
      rfl
    obtain ⟨hterms, hmem⟩ := hnext false n _ hy
    refine .inl ⟨_, _, hterms, foldTerms_mul ?_⟩
    rw [signed_mul]
    exact roundDecimal_exact (representable_signed (hexact _ hmem) subtracted)
  | div =>
    by_cases h0 : n.value = 0
    · refine .inr ⟨?_, foldTerms_zero h0⟩
      have hzero : ∀ q : Product dt, (q.times true n).value = none := by
        intro q
        show (if n.value = 0 then none else q.value.map _) = none
        rw [if_pos h0]
      cases t with
      | one q => exact hzero q
      | plus s subtracted q =>
        show (s.value >>= fun x => (q.times true n).value >>= fun y => _) = none
        rw [hzero q]
        cases s.value <;> rfl
    · have hy : (p.times true n).value = some (x / n.value) := by
        show (if n.value = 0 then none else p.value.map _) = _
        rw [if_neg h0, hx]
        rfl
      obtain ⟨hterms, hmem⟩ := hnext true n _ hy
      refine .inl ⟨_, _, hterms, foldTerms_div h0 ?_⟩
      rw [signed_div]
      exact roundDecimal_exact (representable_signed (hexact _ hmem) subtracted)

theorem foldTerms_run (os : List (Operand dt)) : ∀ {t : Sum dt} {done : List Rat} {last : Rat},
    Terms t done last → (∀ x ∈ (pushAll t os).performed, Representable x) →
    (∃ done' last', Terms (pushAll t os) done' last' ∧
      foldTerms dt (os.flatMap fun o => [[o.op.sign], o.num.text]) done last = .ok (some (done' ++ [last']))) ∨
    ((pushAll t os).value = none ∧
      foldTerms dt (os.flatMap fun o => [[o.op.sign], o.num.text]) done last = .ok none) := by
  induction os with
  | nil => exact fun h _ => .inl ⟨_, _, h, rfl⟩
  | cons o os ih =>
    intro t done last h hexact
    rw [List.flatMap_cons]
    have hstep := foldTerms_step h o.op o.num (fun x hx => hexact x (performed_pushAll os _ x hx))
      (os.flatMap fun o => [[o.op.sign], o.num.text])
    rcases hstep with ⟨done', last', hterms, hrun⟩ | ⟨hnone, hrun⟩
    · rcases ih hterms hexact with ⟨done'', last'', hterms', hrun'⟩ | ⟨hnone, hrun'⟩
      · exact .inl ⟨done'', last'', hterms', hrun.trans hrun'⟩
      · exact .inr ⟨hnone, hrun.trans hrun'⟩
    · exact .inr ⟨pushAll_none os hnone, hrun⟩

/-! ### the sum -/

theorem sumTerms_append (xs : List Rat) (x start : Rat) :
    sumTerms (xs ++ [x]) start = sumTerms xs start >>= fun sum => roundDecimal (sum + x) := by
  unfold sumTerms
  rw [List.foldlM_append]
  congr 1
  funext sum
  rw [List.foldlM_cons]
  exact bind_pure _

theorem Terms.sum {t : Sum dt} {done : List Rat} {last : Rat} (h : Terms t done last)
    (hexact : ∀ x ∈ t.sums, Representable x) :
    ∃ v, t.value = some v ∧ sumTerms (done ++ [last]) 0 = .ok v := by
  induction h with
  | @one p x hx =>
    refine ⟨x, hx, ?_⟩
    have hround : roundDecimal (0 + x) = .ok x := by
      rw [zero_add]
      refine roundDecimal_exact (hexact x ?_)
      show x ∈ p.value.toList
      rw [hx]
      exact List.mem_singleton_self x
    rw [sumTerms_append]
    exact hround
  | @plus s done last x subtracted p hs hx ih =>
    obtain ⟨v, hv, hsum⟩ := ih fun y hy => hexact y (List.mem_append_left _ hy)
    have hvalue : (Sum.plus s subtracted p).value = some (v + signed subtracted x) := by
      unfold Sum.value
      rw [hv, hx]
      cases subtracted
      · rfl
      · exact congrArg some (sub_eq_add_neg v x)
    refine ⟨_, hvalue, ?_⟩
    rw [sumTerms_append, hsum]
    refine roundDecimal_exact (hexact _ (List.mem_append_right _ ?_))
    rw [hvalue]
    exact List.mem_singleton_self _

theorem bind_of_ok {α β : Type} (a : α) (f : α → Except PyExc β) : Except.ok a >>= f = f a := rfl

/-- **Evaluation.**  Where no operation is rounded, a side evaluates to its exact value. -/
theorem evalSide_render (s : Side dt) (h : s.tree.Exact) : evalSide dt s.render = .ok s.tree.value := by
  have hperformed : ∀ x ∈ s.tree.performed, Representable x := fun x hx => h x (List.mem_append_left _ hx)
  unfold evalSide
  rw [tokenize_render]
  unfold Side.tokens
  dsimp only
  rw [decimalOf_text]
  rw [bind_of_ok]
  have hrun := foldTerms_run s.operands (@Terms.one dt (.one s.head) _ rfl) hperformed
  rcases hrun with ⟨done, last, hterms, hrun⟩ | ⟨hnone, hrun⟩
  · have hsums : ∀ x ∈ s.tree.sums, Representable x := by
      refine fun x hx => h x (List.mem_append_right _ ?_)
      rw [if_pos (show s.tree.value.isSome from hterms.value)]
      exact hx
    obtain ⟨v, hv, hsum⟩ := @Terms.sum dt s.tree _ _ hterms hsums
    rw [hrun, hv]
    show some <$> sumTerms (done ++ [last]) 0 = _
    rw [hsum]
    rfl
  · rw [hrun]
    exact congrArg Except.ok hnone.symm

/-! ### the answer -/

/-- What an answer promises: it is "Đúng." exactly where the exact values stand in the relation, "Sai."
exactly where they do not, nothing only where a divisor is zero; both sides have tokens; nothing raises. -/
structure Truthful (dt : DigitTable) (text : PyStr) (left : Side dt) (cmp : Comparator) (right : Side dt) :
    Prop where
  tokenized : tokenize dt left.render = some left.tokens ∧ tokenize dt right.render = some right.tokens
  returns : ∃ answer, tryAnswerComparison dt text = .ok answer
  yes_iff : tryAnswerComparison dt text = .ok (some (py "Đúng.")) ↔
    ∃ x y, left.tree.value = some x ∧ right.tree.value = some y ∧ cmp.Holds x y
  no_iff : tryAnswerComparison dt text = .ok (some (py "Sai.")) ↔
    ∃ x y, left.tree.value = some x ∧ right.tree.value = some y ∧ ¬ cmp.Holds x y
  none_only : tryAnswerComparison dt text = .ok none → left.tree.value = none ∨ right.tree.value = none

instance : ∀ (cmp : Comparator) (x y : Rat), Decidable (cmp.Holds x y)
  | .eqeq, x, y => inferInstanceAs (Decidable (x = y))
  | .eq, x, y => inferInstanceAs (Decidable (x = y))
  | .ne, x, y => inferInstanceAs (Decidable (x ≠ y))
  | .gt, x, y => inferInstanceAs (Decidable (x > y))
  | .lt, x, y => inferInstanceAs (Decidable (x < y))
  | .ge, x, y => inferInstanceAs (Decidable (x ≥ y))
  | .le, x, y => inferInstanceAs (Decidable (x ≤ y))

theorem comparators_lookup (cmp : Comparator) :
    comparators.lookup cmp.text = some fun x y => decide (cmp.Holds x y) := by
  unfold comparators
  cases cmp <;> unfold Comparator.text <;> repeat rw [py_ofList]
  all_goals rfl

section
variable {text : PyStr} {left right : Side dt} {cmp : Comparator}

theorem tryAnswerComparison_exact (h : Comparison dt text left cmp right) (hleft : left.tree.Exact)
    (hright : right.tree.Exact) :
    (∃ x y, left.tree.value = some x ∧ right.tree.value = some y ∧
      tryAnswerComparison dt text = .ok (some (if cmp.Holds x y then py "Đúng." else py "Sai."))) ∨
    ((left.tree.value = none ∨ right.tree.value = none) ∧ tryAnswerComparison dt text = .ok none) := by
  obtain ⟨m, hm, h₁, h₂, h₃⟩ := h
  unfold tryAnswerComparison
  rw [hm]
  dsimp only
  rw [h₁, h₂, h₃, Option.getD_some, Option.getD_some, Option.getD_some, evalSide_render left hleft,
    evalSide_render right hright, bind_of_ok, bind_of_ok]
  cases left.tree.value with
  | none => exact .inr ⟨.inl rfl, rfl⟩
  | some x =>
    cases right.tree.value with
    | none => exact .inr ⟨.inr rfl, rfl⟩
    | some y =>
      refine .inl ⟨x, y, rfl, rfl, ?_⟩
      dsimp only
      rw [comparators_lookup]
      dsimp only
      by_cases hxy : cmp.Holds x y
      · rw [if_pos (decide_eq_true hxy), if_pos hxy]
        rfl
      · rw [if_neg (by rw [decide_eq_false hxy]; exact Bool.false_ne_true), if_neg hxy]
        rfl

theorem truthful_of_exact (h : Comparison dt text left cmp right) (hleft : left.tree.Exact)
    (hright : right.tree.Exact) : Truthful dt text left cmp right := by
  have htokens := And.intro (tokenize_render left) (tokenize_render right)
  have hne : py "Đúng." ≠ py "Sai." := by simp
  rcases tryAnswerComparison_exact h hleft hright with ⟨x, y, hx, hy, hrun⟩ | ⟨hnone, hrun⟩
  · have hvalues : ∀ {P : Rat → Rat → Prop},
        (∃ x y, left.tree.value = some x ∧ right.tree.value = some y ∧ P x y) ↔ P x y := by
      intro P
      refine ⟨?_, fun hp => ⟨x, y, hx, hy, hp⟩⟩
      rintro ⟨x', y', hx', hy', hp⟩
      rw [hx, Option.some.injEq] at hx'
      rw [hy, Option.some.injEq] at hy'
      rw [hx', hy']
      exact hp
    refine ⟨htokens, ⟨_, hrun⟩, ?_, ?_, fun hn => ?_⟩
    · rw [hrun, hvalues]
      by_cases hxy : cmp.Holds x y
      · rw [if_pos hxy]
        exact ⟨fun _ => hxy, fun _ => rfl⟩
      · rw [if_neg hxy]
        exact ⟨fun e => absurd (Option.some.inj (Except.ok.inj e)).symm hne, fun hp => absurd hp hxy⟩
    · rw [hrun, hvalues]
      by_cases hxy : cmp.Holds x y
      · rw [if_pos hxy]
        exact ⟨fun e => absurd (Option.some.inj (Except.ok.inj e)) hne, fun hp => absurd hxy hp⟩
      · rw [if_neg hxy]
        exact ⟨fun _ => hxy, fun _ => rfl⟩
    · rw [hrun] at hn
      exact absurd (Except.ok.inj hn) (Option.some_ne_none _)
  · have hno : ∀ {P : Rat → Rat → Prop},
        ¬ ∃ x y, left.tree.value = some x ∧ right.tree.value = some y ∧ P x y := by
      rintro P ⟨x, y, hx, hy, -⟩
      rcases hnone with hn | hn
      · rw [hx] at hn
        exact Option.some_ne_none x hn
      · rw [hy] at hn
        exact Option.some_ne_none y hn
    have hnothing : ∀ answer, tryAnswerComparison dt text ≠ .ok (some answer) := by
      intro answer e
      rw [hrun] at e
      exact Option.some_ne_none answer (Except.ok.inj e).symm
    exact ⟨htokens, ⟨_, hrun⟩, ⟨fun e => absurd e (hnothing _), fun hp => absurd hp hno⟩,
      ⟨fun e => absurd e (hnothing _), fun hp => absurd hp hno⟩, fun _ => hnone⟩

end

/-- **True answers.**  A text that the pattern accepts is a comparison of two sides, and its answer is
truthful where none of the operations on either side is rounded. -/
theorem answers_truly (dt : DigitTable) (text : PyStr) (m : At)
    (h : reComparison.matchStart (mode dt) (strip text) = some m) :
    (∃ left cmp right, Comparison dt text left cmp right) ∧
    ∀ left cmp right, Comparison dt text left cmp right → left.tree.Exact → right.tree.Exact →
      Truthful dt text left cmp right :=
  ⟨comparison_of_match h, fun _ _ _ hreads hleft hright => truthful_of_exact hreads hleft hright⟩

/-! ### two comparisons -/

def asciiDigits : DigitTable where
  value c := if isDigit c then some (c.val - 48) else none
  ascii _ _ := rfl
  not_space c h := by
    cases hc : isDigit c with
    | false =>
      rw [hc] at h
      exact absurd h Bool.false_ne_true
    | true =>
      unfold isDigit at hc
      unfold isSpace
      simp only [Bool.and_eq_true, decide_eq_true_eq] at hc
      simp only [Bool.or_eq_false_iff, Bool.and_eq_false_imp, beq_eq_false_iff_ne, decide_eq_false_iff_not,
        decide_eq_true_eq]
      omega

def single (c : CodePoint) (h : isDigit c = true) : Numeral asciiDigits where
  neg := false
  whole := ⟨[c], List.cons_ne_nil _ _, fun d hd => by
    unfold DigitTable.isDecimal asciiDigits
    rw [List.mem_singleton.mp hd]
    dsimp only
    rw [if_pos h]
    rfl⟩
  frac := none

def tight : Blanks := ⟨[], fun _ h => absurd h List.not_mem_nil⟩
def space : Blanks := ⟨[32], fun c h => by rw [List.mem_singleton.mp h]; rfl⟩

/-- `2 + 3` -/
def twoPlusThree : Side asciiDigits := ⟨single 50 rfl, [⟨space, .add, space, single 51 rfl⟩]⟩
/-- `4` -/
def four : Side asciiDigits := ⟨single 52 rfl, []⟩
/-- `1/3*3` -/
def third : Side asciiDigits :=
  ⟨single 49 rfl, [⟨tight, .div, tight, single 51 rfl⟩, ⟨tight, .mul, tight, single 51 rfl⟩]⟩
/-- `1` -/
def unit : Side asciiDigits := ⟨single 49 rfl, []⟩

theorem comparison_of_groups {text : PyStr} {left right : Side asciiDigits} {cmp : Comparator}
    (h : (reComparison.matchStart (mode asciiDigits) (strip text)).any (fun m =>
      m.group 1 = some left.render ∧ m.group 2 = some cmp.text ∧ m.group 3 = some right.render) = true) :
    Comparison asciiDigits text left cmp right := by
  obtain ⟨m, hm, hgroups⟩ := (Option.any_eq_true _ _).mp h
  exact ⟨m, hm, of_decide_eq_true hgroups⟩

theorem reads_greater : Comparison asciiDigits (py "2 + 3 > 4") twoPlusThree .gt four := by
  refine comparison_of_groups ?_
  rw [reComparison_eq]
  unfold Comparator.text
  repeat rw [py_ofList]
  rfl

theorem exact_greater : twoPlusThree.tree.Exact ∧ four.tree.Exact := by
  have hdigit : ∀ x : Rat, (x = 2 ∨ x = 5 ∨ x = 4) → Representable x := by
    rintro x (rfl | rfl | rfl)
    · exact representable_int (by norm_num : |(2 : Int)| < 10 ^ 28)
    · exact representable_int (by norm_num : |(5 : Int)| < 10 ^ 28)
    · exact representable_int (by norm_num : |(4 : Int)| < 10 ^ 28)
  have hleft : twoPlusThree.tree.operations = [2, 5] := by decide +kernel
  have hright : four.tree.operations = [4] := by decide +kernel
  constructor
  · intro x hx
    rw [hleft] at hx
    rcases List.mem_pair.mp hx with rfl | rfl
    · exact hdigit 2 (.inl rfl)
    · exact hdigit 5 (.inr (.inl rfl))
  · intro x hx
    rw [hright] at hx
    rw [List.mem_singleton.mp hx]
    exact hdigit 4 (.inr (.inr rfl))

/-- `2 + 3 > 4` -/
theorem answers_truly_greater : Truthful asciiDigits (py "2 + 3 > 4") twoPlusThree .gt four := by
  obtain ⟨m, hm, -⟩ := reads_greater
  exact (answers_truly asciiDigits _ m hm).2 _ _ _ reads_greater exact_greater.1 exact_greater.2

theorem ok_of_toOption {ε α : Type} {x : Except ε α} {a : α} (h : x.toOption = some a) : x = .ok a := by
  cases x with
  | error e => exact absurd h (Option.some_ne_none a).symm
  | ok b => exact congrArg Except.ok (Option.some.inj h)

/-- What the code takes `1/3*3` for: twenty-eight nines after the point. -/
def oneRounded : Rat := 9999999999999999999999999999 / 10000000000000000000000000000

/-- A third is rounded down, and three times the result is not one. -/
theorem answers_truly_fails : ∃ text left cmp right, Comparison asciiDigits text left cmp right ∧
    left.tree.value = some 1 ∧ right.tree.value = some 1 ∧ cmp.Holds 1 1 ∧
    tryAnswerComparison asciiDigits text = .ok (some (py "Sai.")) ∧
    ¬ Truthful asciiDigits text left cmp right := by
  have hreads : Comparison asciiDigits (py "1/3*3 == 1") third .eqeq unit := by
    refine comparison_of_groups ?_
    rw [reComparison_eq]
    unfold Comparator.text
    repeat rw [py_ofList]
    decide +kernel
  have hleft : third.tree.value = some 1 := by decide +kernel
  have hright : unit.tree.value = some 1 := by decide +kernel
  have hrun : tryAnswerComparison asciiDigits (py "1/3*3 == 1") = .ok (some (py "Sai.")) := by
    obtain ⟨m, hm, h₁, h₂, h₃⟩ := hreads
    have hsides : (evalSide asciiDigits third.render).toOption = some (some oneRounded) ∧
        (evalSide asciiDigits unit.render).toOption = some (some 1) := by
      unfold evalSide
      rw [tokenize_render, tokenize_render]
      decide +kernel
    have hne : (oneRounded : Rat) ≠ 1 := by decide +kernel
    unfold tryAnswerComparison
    rw [hm]
    dsimp only
    rw [h₁, h₂, h₃, Option.getD_some, Option.getD_some, Option.getD_some, ok_of_toOption hsides.1,
      ok_of_toOption hsides.2]
    rw [bind_of_ok, bind_of_ok]
    dsimp only
    rw [comparators_lookup]
    show Except.ok (some (if decide (oneRounded = 1) then py "Đúng." else py "Sai.")) = _
    rw [decide_eq_false hne, if_neg Bool.false_ne_true]
  refine ⟨_, third, .eqeq, unit, hreads, hleft, hright, rfl, hrun, fun h => ?_⟩
  obtain ⟨x, y, hx, hy, hne⟩ := h.no_iff.mp hrun
  rw [hleft, Option.some.injEq] at hx
  rw [hright, Option.some.injEq] at hy
  exact hne (hx.symm.trans hy)

end SimpleComparison
end Tomtit
