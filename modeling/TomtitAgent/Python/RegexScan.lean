import TomtitAgent.Python.RegexWords

/-!
# `finditer`

* `Re.finditer`   the matches of a pattern in a text, from left to right;
* `Re.cut`        the text cut at the matches: each match, and what follows it up to the next one;
* `mem_cut`       where a piece stands: between two matches, with none begun in between.
-/

namespace Py

/-- `re.finditer` from a place on, of a pattern that never matches without reading: the starts and the
ends of the matches. -/
def Re.finditerFrom (m : Mode) (re : Re) : Nat → PyStr → PyStr → List (At × At)
  | 0, _, _ => []
  | n + 1, before, rest =>
    match re.searchFrom m before rest with
    | none => []
    | some (p, q) =>
      if q.rest.length < p.rest.length then (p, q) :: finditerFrom m re n q.before q.rest else []

def Re.finditer (m : Mode) (re : Re) (s : PyStr) : List (At × At) := re.finditerFrom m s.length [] s

structure Piece where
  head : PyStr
  groups : List (Nat × PyStr)
  tail : PyStr

/-- The text from the end `q` of a match up to the start of the next match, or to the end. -/
def upToNext (q : At) : List (At × At) → PyStr
  | [] => q.rest
  | (p, _) :: _ => q.spanned p

def cutAt : List (At × At) → List Piece
  | [] => []
  | (p, q) :: ms => ⟨p.spanned q, q.groups, upToNext q ms⟩ :: cutAt ms

def Re.cut (m : Mode) (re : Re) (s : PyStr) : List Piece := cutAt (re.finditer m s)

section
variable {m : Mode} {re : Re}

theorem searchFrom_reads : ∀ {rest before : PyStr} {p q : At},
    re.searchFrom m before rest = some (p, q) →
    ∃ w, Reads w ⟨before, rest, []⟩ p ∧ p.groups = [] ∧ re.First m p q ∧
      ∀ a b, w = a ++ b → b ≠ [] → re.runs m ⟨a.reverse ++ before, b ++ p.rest, []⟩ = [] := by
  intro rest
  induction rest with
  | nil =>
    intro before p q h
    rw [Re.searchFrom] at h
    cases hrun : (re.runs m ⟨before, [], []⟩).head? with
    | none => rw [hrun] at h; exact nomatch h
    | some r =>
      rw [hrun] at h
      obtain ⟨rfl, rfl⟩ := Prod.mk.inj (Option.some.inj h)
      exact ⟨[], Reads.nil _, rfl, hrun, fun a b hab hb => absurd (List.append_eq_nil_iff.mp hab.symm).2 hb⟩
  | cons c rest ih =>
    intro before p q h
    rw [Re.searchFrom] at h
    cases hrun : (re.runs m ⟨before, c :: rest, []⟩).head? with
    | none =>
      rw [hrun] at h
      obtain ⟨w, hw, hgroups, hq, hquiet⟩ := ih h
      have hstep : Reads [c] ⟨before, c :: rest, []⟩ ⟨c :: before, rest, []⟩ := ⟨rfl, rfl⟩
      refine ⟨c :: w, hstep.append hw, hgroups, hq, fun a b hab hb => ?_⟩
      cases a with
      | nil =>
        rw [List.nil_append] at hab
        rw [← hab, List.cons_append, ← hw.1]
        exact List.head?_eq_none_iff.mp hrun
      | cons d a =>
        obtain ⟨rfl, htail⟩ := List.cons.inj hab
        have h := hquiet a b htail hb
        rw [List.reverse_cons, List.append_assoc]
        exact h
    | some r =>
      rw [hrun] at h
      obtain ⟨rfl, rfl⟩ := Prod.mk.inj (Option.some.inj h)
      exact ⟨[], Reads.nil _, rfl, hrun, fun a b hab hb => absurd (List.append_eq_nil_iff.mp hab.symm).2 hb⟩

theorem searchFrom_quiet : ∀ {rest before : PyStr}, re.searchFrom m before rest = none →
    ∀ a b, rest = a ++ b → re.runs m ⟨a.reverse ++ before, b, []⟩ = [] := by
  intro rest
  induction rest with
  | nil =>
    intro before h a b hab
    rw [Re.searchFrom] at h
    obtain ⟨rfl, rfl⟩ := List.append_eq_nil_iff.mp hab.symm
    cases hrun : (re.runs m ⟨before, [], []⟩).head? with
    | none => exact List.head?_eq_none_iff.mp hrun
    | some r => rw [hrun] at h; exact nomatch h
  | cons c rest ih =>
    intro before h a b hab
    rw [Re.searchFrom] at h
    cases hrun : (re.runs m ⟨before, c :: rest, []⟩).head? with
    | none =>
      rw [hrun] at h
      cases a with
      | nil =>
        rw [List.nil_append] at hab
        rw [← hab]
        exact List.head?_eq_none_iff.mp hrun
      | cons d a =>
        obtain ⟨rfl, htail⟩ := List.cons.inj hab
        rw [List.reverse_cons, List.append_assoc]
        exact ih h a b htail
    | some r => rw [hrun] at h; exact nomatch h

/-! ### where the pieces stand -/

/-- A piece stands between `before`, last character first, and `after`: it begins with the match at its place, no
match begins in what follows the match, and `after` begins with the next one. -/
structure Piece.Stands (m : Mode) (re : Re) (before after : PyStr) (x : Piece) : Prop where
  found : re.First m ⟨before, x.head ++ (x.tail ++ after), []⟩
    ⟨x.head.reverse ++ before, x.tail ++ after, x.groups⟩
  quiet : ∀ a b, x.tail = a ++ b → b ≠ [] →
    re.runs m ⟨a.reverse ++ (x.head.reverse ++ before), b ++ after, []⟩ = []
  next : after = [] ∨ ∃ w t, after = w ++ t ∧ re.Lang m w

theorem upToNext_spec (hre : ∀ w, re.Lang m w → w ≠ []) {n : Nat} {q : At} (hlen : q.rest.length ≤ n) :
    ∃ after, q.rest = upToNext q (re.finditerFrom m n q.before q.rest) ++ after ∧
      (∀ a b, upToNext q (re.finditerFrom m n q.before q.rest) = a ++ b → b ≠ [] →
        re.runs m ⟨a.reverse ++ q.before, b ++ after, []⟩ = []) ∧
      (after = [] ∨ ∃ w t, after = w ++ t ∧ re.Lang m w) := by
  cases n with
  | zero =>
    have hrest : q.rest = [] := List.length_eq_zero_iff.mp (Nat.le_zero.mp hlen)
    refine ⟨[], (List.append_nil _).symm, fun a b hab hb => absurd ?_ hb, .inl rfl⟩
    have hnil : q.rest = a ++ b := hab
    rw [hrest] at hnil
    exact (List.append_eq_nil_iff.mp hnil.symm).2
  | succ n =>
    rw [Re.finditerFrom]
    cases hfound : re.searchFrom m q.before q.rest with
    | none =>
      refine ⟨[], (List.append_nil _).symm, fun a b hab _ => ?_, .inl rfl⟩
      rw [List.append_nil]
      exact searchFrom_quiet hfound a b hab
    | some pq =>
      obtain ⟨p, r⟩ := pq
      obtain ⟨w, hw, -, hr, hquiet⟩ := searchFrom_reads hfound
      obtain ⟨v, hv, hlang⟩ := runs_lang re p r (List.mem_of_head? hr)
      have hlt : r.rest.length < p.rest.length := by
        rw [hv.1, List.length_append]
        have := List.length_pos_iff.mpr (hre v hlang)
        omega
      dsimp only
      rw [if_pos hlt]
      have hspan : q.spanned p = w := by
        have hread : Reads w q p := ⟨hw.1, hw.2⟩
        exact hread.spanned
      refine ⟨p.rest, ?_, ?_, .inr ⟨v, r.rest, hv.1, hlang⟩⟩
      · rw [upToNext, hspan]
        exact hw.1
      · rw [upToNext, hspan]
        exact hquiet

theorem mem_cutAt (hre : ∀ w, re.Lang m w → w ≠ []) (n : Nat) : ∀ before rest : PyStr, rest.length ≤ n →
    ∀ x ∈ cutAt (re.finditerFrom m n before rest), ∃ skipped after,
      rest = skipped ++ (x.head ++ (x.tail ++ after)) ∧ x.Stands m re (skipped.reverse ++ before) after := by
  induction n with
  | zero => exact fun before rest _ x hx => absurd hx List.not_mem_nil
  | succ n ih =>
    intro before rest hlen x hx
    rw [Re.finditerFrom] at hx
    cases hfound : re.searchFrom m before rest with
    | none => rw [hfound] at hx; exact absurd hx List.not_mem_nil
    | some pq =>
      obtain ⟨p, q⟩ := pq
      rw [hfound] at hx
      dsimp only at hx
      obtain ⟨w, hw, hgroups, hq, -⟩ := searchFrom_reads hfound
      obtain ⟨v, hv, hlang⟩ := runs_lang re p q (List.mem_of_head? hq)
      have hpos := List.length_pos_iff.mpr (hre v hlang)
      have hrest : rest = w ++ (v ++ q.rest) := by
        rw [← hv.1]
        exact hw.1
      have hq' : q.rest.length ≤ n := by
        rw [hrest, List.length_append, List.length_append] at hlen
        omega
      rw [if_pos (by rw [hv.1, List.length_append]; omega)] at hx
      have hbefore : q.before = v.reverse ++ (w.reverse ++ before) := by rw [hv.2, hw.2]
      rcases List.mem_cons.mp hx with rfl | hx
      · obtain ⟨after, hafter, hquiet, hnext⟩ := upToNext_spec hre hq'
        refine ⟨w, after, ?_, ?_⟩
        · rw [hv.spanned, ← hafter]
          exact hrest
        · obtain ⟨pbefore, prest, pgroups⟩ := p
          obtain ⟨qbefore, qrest, qgroups⟩ := q
          obtain rfl : pgroups = [] := hgroups
          have hp2 : pbefore = w.reverse ++ before := hw.2
          have hp1 : prest = v ++ qrest := hv.1
          subst hp1 hp2
          refine ⟨?_, ?_, hnext⟩
          · dsimp only at hafter ⊢
            rw [hv.spanned, ← hafter, ← hbefore]
            exact hq
          · dsimp only at hquiet ⊢
            rw [hv.spanned, ← hbefore]
            exact hquiet
      · obtain ⟨skipped, after, hskipped, hstands⟩ := ih q.before q.rest hq' x hx
        refine ⟨w ++ (v ++ skipped), after, ?_, ?_⟩
        · rw [List.append_assoc, List.append_assoc, ← hskipped]
          exact hrest
        · rw [hbefore] at hstands
          rw [List.reverse_append, List.reverse_append, List.append_assoc, List.append_assoc]
          exact hstands

/-- Where the pieces of a text stand. -/
theorem mem_cut (hre : ∀ w, re.Lang m w → w ≠ []) {s : PyStr} {x : Piece} (hx : x ∈ re.cut m s) :
    ∃ before after, s = before ++ (x.head ++ (x.tail ++ after)) ∧ x.Stands m re before.reverse after := by
  obtain ⟨before, after, hs, hstands⟩ := mem_cutAt hre s.length [] s le_rfl x hx
  rw [List.append_nil] at hstands
  exact ⟨before, after, hs, hstands⟩

end

end Py
