import TomtitAgent.Python.EditDistance
import TomtitAgent.Python.Text

/-!
# `_edit_distance_at_most_one`

* `oneSkipLoop`   the loop with its two indices, as what is left of the two strings, and `edits`;
* `editDistanceAtMostOne_iff`   it decides whether the Levenshtein distance is at most one.
-/

namespace Tomtit
open Py

/-- The loop, on `a[i:]` and `b[j:]`: a mismatch skips a character of `b`, and the second ends it. -/
def oneSkipLoop (edits : Nat) : PyStr → PyStr → Bool
  | _, [] => true
  | [], _ :: _ => true
  | x :: a, y :: b =>
    if x = y then oneSkipLoop edits a b
    else if edits + 1 > 1 then false
    else oneSkipLoop (edits + 1) (x :: a) b

/-- `_edit_distance_at_most_one` -/
def editDistanceAtMostOne (a b : PyStr) : Bool :=
  if a = b then true
  else if ((a.length : Int) - b.length).natAbs > 1 then false
  else if a.length = b.length then decide (((a.zip b).filter fun xy => xy.1 ≠ xy.2).length ≤ 1)
  else if a.length > b.length then oneSkipLoop 0 b a
  else oneSkipLoop 0 a b

/-! ### strings of one length -/

theorem mismatches_cons (x y : CodePoint) (a b : PyStr) :
    (((x :: a).zip (y :: b)).filter fun xy => xy.1 ≠ xy.2).length =
      ((a.zip b).filter fun xy => xy.1 ≠ xy.2).length + if x = y then 0 else 1 := by
  rw [List.zip_cons_cons, List.filter_cons]
  by_cases h : x = y
  · rw [if_neg (by simpa using h), if_pos h]
    rfl
  · rw [if_pos (by simpa using h), if_neg h]
    rfl

theorem mismatches_zero {a b : PyStr} (hlen : a.length = b.length)
    (h : ((a.zip b).filter fun xy => xy.1 ≠ xy.2).length = 0) : a = b := by
  induction a generalizing b with
  | nil => exact (List.eq_nil_of_length_eq_zero hlen.symm).symm
  | cons x a ih =>
    cases b with
    | nil => exact absurd hlen (Nat.succ_ne_zero _)
    | cons y b =>
      rw [mismatches_cons] at h
      by_cases hxy : x = y
      · rw [hxy, ih (Nat.succ.inj hlen) (by omega)]
      · rw [if_neg hxy] at h
        omega

theorem mismatches_self (a : PyStr) : ((a.zip a).filter fun xy => xy.1 ≠ xy.2).length = 0 := by
  induction a with
  | nil => rfl
  | cons x a ih => rw [mismatches_cons, ih, if_pos rfl]

theorem mismatches_le_one {a b : PyStr} (hlen : a.length = b.length) :
    ((a.zip b).filter fun xy => xy.1 ≠ xy.2).length ≤ 1 ↔
      a = b ∨ ∃ p s x y, a = p ++ x :: s ∧ b = p ++ y :: s := by
  constructor
  · intro h
    induction a generalizing b with
    | nil => exact .inl (List.eq_nil_of_length_eq_zero hlen.symm).symm
    | cons x a ih =>
      cases b with
      | nil => exact absurd hlen (Nat.succ_ne_zero _)
      | cons y b =>
        rw [mismatches_cons] at h
        by_cases hxy : x = y
        · rw [if_pos hxy] at h
          rw [hxy]
          rcases ih (Nat.succ.inj hlen) h with heq | ⟨p, s, c, d, ha, hb⟩
          · exact .inl (congrArg _ heq)
          · exact .inr ⟨y :: p, s, c, d, congrArg _ ha, congrArg _ hb⟩
        · rw [if_neg hxy] at h
          have htail := mismatches_zero (Nat.succ.inj hlen) (by omega)
          exact .inr ⟨[], a, x, y, rfl, congrArg _ htail.symm⟩
  · rintro (rfl | ⟨p, s, x, y, rfl, rfl⟩)
    · rw [mismatches_self]
      exact Nat.zero_le 1
    · clear hlen
      induction p with
      | nil =>
        show (((x :: s).zip (y :: s)).filter fun xy => xy.1 ≠ xy.2).length ≤ 1
        rw [mismatches_cons, mismatches_self]
        split_ifs <;> omega
      | cons c p ih =>
        show (((c :: (p ++ x :: s)).zip (c :: (p ++ y :: s))).filter fun xy => xy.1 ≠ xy.2).length ≤ 1
        rw [mismatches_cons, if_pos rfl]
        exact ih

/-! ### strings whose lengths differ by one -/

theorem oneSkipLoop_spent {a b : PyStr} (hlen : b.length = a.length) :
    oneSkipLoop 1 a b = true ↔ a = b := by
  induction b generalizing a with
  | nil =>
    rw [List.eq_nil_of_length_eq_zero hlen.symm]
    exact ⟨fun _ => rfl, fun _ => rfl⟩
  | cons y b ih =>
    cases a with
    | nil => exact absurd hlen (Nat.succ_ne_zero _)
    | cons x a =>
      rw [oneSkipLoop]
      by_cases hxy : x = y
      · rw [if_pos hxy, ih (Nat.succ.inj hlen), hxy, List.cons_inj_right]
      · rw [if_neg hxy, if_pos (by omega)]
        exact ⟨fun h => absurd h Bool.false_ne_true, fun h => absurd (List.cons.inj h).1 hxy⟩

theorem oneSkipLoop_iff {a b : PyStr} (hlen : b.length = a.length + 1) :
    oneSkipLoop 0 a b = true ↔ ∃ p s x, a = p ++ s ∧ b = p ++ x :: s := by
  induction b generalizing a with
  | nil => exact absurd hlen.symm (Nat.succ_ne_zero _)
  | cons y b ih =>
    cases a with
    | nil =>
      have hb : b = [] := List.eq_nil_of_length_eq_zero (Nat.succ.inj hlen)
      rw [hb]
      exact ⟨fun _ => ⟨[], [], y, rfl, rfl⟩, fun _ => rfl⟩
    | cons x a =>
      rw [oneSkipLoop]
      by_cases hxy : x = y
      · rw [if_pos hxy, ih (Nat.succ.inj hlen), hxy]
        constructor
        · rintro ⟨p, s, c, ha, hb⟩
          exact ⟨y :: p, s, c, congrArg _ ha, congrArg _ hb⟩
        · rintro ⟨p, s, c, ha, hb⟩
          cases p with
          | nil =>
            -- the inserted character can be taken to come after the common head
            have htail : b = s := (List.cons.inj hb).2
            exact ⟨[], a, y, rfl, htail.trans ha.symm⟩
          | cons d p => exact ⟨p, s, c, (List.cons.inj ha).2, (List.cons.inj hb).2⟩
      · rw [if_neg hxy, if_neg (by omega), oneSkipLoop_spent (Nat.succ.inj hlen)]
        constructor
        · intro h
          exact ⟨[], x :: a, y, rfl, congrArg _ h.symm⟩
        · rintro ⟨p, s, c, ha, hb⟩
          cases p with
          | nil => exact ha.trans (List.cons.inj hb).2.symm
          | cons d p =>
            exact absurd ((List.cons.inj ha).1.trans (List.cons.inj hb).1.symm) hxy

/-! ### the distance -/

theorem editDistanceAtMostOne_edit (a b : PyStr) :
    editDistanceAtMostOne a b = true ↔ a = b ∨ Edit a b := by
  unfold editDistanceAtMostOne
  by_cases heq : a = b
  · rw [if_pos heq]
    exact ⟨fun _ => .inl heq, fun _ => rfl⟩
  rw [if_neg heq, or_iff_right heq]
  by_cases hfar : ((a.length : Int) - b.length).natAbs > 1
  · rw [if_pos hfar]
    refine ⟨fun h => absurd h Bool.false_ne_true, fun h => ?_⟩
    have hle := h.length_le
    omega
  rw [if_neg hfar]
  by_cases hlen : a.length = b.length
  · rw [if_pos hlen, decide_eq_true_eq, mismatches_le_one hlen, or_iff_right heq, edit_sameLength hlen]
  rw [if_neg hlen]
  by_cases hlong : a.length > b.length
  · rw [if_pos hlong, oneSkipLoop_iff (by omega), ← edit_longer hlong]
    exact ⟨Edit.symm, Edit.symm⟩
  · rw [if_neg hlong, oneSkipLoop_iff (by omega), edit_longer (by omega)]

/-- `_edit_distance_at_most_one` is the test on the Levenshtein distance, and symmetric. -/
theorem editDistanceAtMostOne_iff :
    (∀ a b : PyStr, editDistanceAtMostOne a b = true ↔ levenshtein a b ≤ 1) ∧
      ∀ a b : PyStr, editDistanceAtMostOne a b = editDistanceAtMostOne b a := by
  refine ⟨fun a b => ?_, fun a b => ?_⟩
  · rw [editDistanceAtMostOne_edit, levenshtein_le_one]
  · rw [Bool.eq_iff_iff, editDistanceAtMostOne_edit, editDistanceAtMostOne_edit]
    exact or_congr eq_comm ⟨Edit.symm, Edit.symm⟩

example : editDistanceAtMostOne [1, 2, 3] [1, 3] = true := by decide

end Tomtit
