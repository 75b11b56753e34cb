import Mathlib

/-!
# Levenshtein distance

* `levenshtein a b`     the least cost of insertions, deletions and substitutions, element by element;
* `Edit a b`            one insertion, deletion or substitution turns `a` into `b`;
* `levenshtein_le_one`  distance at most one: equal, or one edit apart.
-/

namespace Py

section
variable {α : Type}

inductive Edit : List α → List α → Prop where
  | insert (p s : List α) (x : α) : Edit (p ++ s) (p ++ x :: s)
  | delete (p s : List α) (x : α) : Edit (p ++ x :: s) (p ++ s)
  | substitute (p s : List α) (x y : α) : Edit (p ++ x :: s) (p ++ y :: s)

theorem Edit.cons {xs ys : List α} (h : Edit xs ys) (x : α) : Edit (x :: xs) (x :: ys) := by
  cases h with
  | insert p s y => exact .insert (x :: p) s y
  | delete p s y => exact .delete (x :: p) s y
  | substitute p s y z => exact .substitute (x :: p) s y z

theorem Edit.symm {xs ys : List α} (h : Edit xs ys) : Edit ys xs := by
  cases h with
  | insert p s x => exact .delete p s x
  | delete p s x => exact .insert p s x
  | substitute p s x y => exact .substitute p s y x

theorem edit_sameLength {xs ys : List α} (hlen : xs.length = ys.length) :
    Edit xs ys ↔ ∃ p s x y, xs = p ++ x :: s ∧ ys = p ++ y :: s := by
  constructor
  · intro h
    cases h with
    | insert p s x =>
      rw [List.length_append, List.length_append, List.length_cons] at hlen
      omega
    | delete p s x =>
      rw [List.length_append, List.length_append, List.length_cons] at hlen
      omega
    | substitute p s x y => exact ⟨p, s, x, y, rfl, rfl⟩
  · rintro ⟨p, s, x, y, rfl, rfl⟩
    exact .substitute p s x y

theorem edit_longer {xs ys : List α} (hlen : xs.length < ys.length) :
    Edit xs ys ↔ ∃ p s x, xs = p ++ s ∧ ys = p ++ x :: s := by
  constructor
  · intro h
    cases h with
    | insert p s x => exact ⟨p, s, x, rfl, rfl⟩
    | delete p s x =>
      rw [List.length_append, List.length_append, List.length_cons] at hlen
      omega
    | substitute p s x y =>
      rw [List.length_append, List.length_append, List.length_cons, List.length_cons] at hlen
      omega
  · rintro ⟨p, s, x, rfl, rfl⟩
    exact .insert p s x

theorem Edit.length_le {xs ys : List α} (h : Edit xs ys) :
    xs.length ≤ ys.length + 1 ∧ ys.length ≤ xs.length + 1 := by
  cases h with
  | insert p s x =>
    rw [List.length_append, List.length_append, List.length_cons]
    omega
  | delete p s x =>
    rw [List.length_append, List.length_append, List.length_cons]
    omega
  | substitute p s x y =>
    rw [List.length_append, List.length_append, List.length_cons, List.length_cons]
    omega

variable [DecidableEq α]

def levenshtein : List α → List α → Nat
  | [], ys => ys.length
  | x :: xs, [] => (x :: xs).length
  | x :: xs, y :: ys =>
    min (levenshtein xs (y :: ys) + 1)
      (min (levenshtein (x :: xs) ys + 1) (levenshtein xs ys + if x = y then 0 else 1))
termination_by xs ys => xs.length + ys.length

theorem levenshtein_nil (ys : List α) : levenshtein [] ys = ys.length := by rw [levenshtein]

theorem levenshtein_cons_nil (x : α) (xs : List α) : levenshtein (x :: xs) [] = xs.length + 1 := by
  rw [levenshtein]
  rfl

theorem levenshtein_cons (x y : α) (xs ys : List α) :
    levenshtein (x :: xs) (y :: ys) = min (levenshtein xs (y :: ys) + 1)
      (min (levenshtein (x :: xs) ys + 1) (levenshtein xs ys + if x = y then 0 else 1)) := by
  rw [levenshtein]

theorem levenshtein_self (xs : List α) : levenshtein xs xs = 0 := by
  induction xs with
  | nil => exact levenshtein_nil []
  | cons x xs ih =>
    rw [levenshtein_cons, if_pos rfl, ih]
    omega

theorem levenshtein_eq_zero {xs ys : List α} (h : levenshtein xs ys = 0) : xs = ys := by
  induction xs generalizing ys with
  | nil =>
    rw [levenshtein_nil] at h
    exact (List.eq_nil_of_length_eq_zero h).symm
  | cons x xs ih =>
    cases ys with
    | nil =>
      rw [levenshtein_cons_nil] at h
      omega
    | cons y ys =>
      rw [levenshtein_cons] at h
      by_cases hxy : x = y
      · rw [if_pos hxy] at h
        have htail : levenshtein xs ys = 0 := by omega
        rw [hxy, ih htail]
      · rw [if_neg hxy] at h
        omega

theorem levenshtein_cons_le (x : α) (xs ys : List α) :
    levenshtein (x :: xs) (x :: ys) ≤ levenshtein xs ys := by
  rw [levenshtein_cons, if_pos rfl]
  omega

theorem levenshtein_append_le (p xs ys : List α) :
    levenshtein (p ++ xs) (p ++ ys) ≤ levenshtein xs ys := by
  induction p with
  | nil => exact le_refl _
  | cons x p ih => exact (levenshtein_cons_le x _ _).trans ih

theorem Edit.levenshtein_le {xs ys : List α} (h : Edit xs ys) : levenshtein xs ys ≤ 1 := by
  cases h with
  | insert p s x =>
    refine (levenshtein_append_le p _ _).trans ?_
    cases s with
    | nil =>
      rw [levenshtein_nil]
      exact le_refl 1
    | cons y s =>
      rw [levenshtein_cons, levenshtein_self (y :: s)]
      omega
  | delete p s x =>
    refine (levenshtein_append_le p _ _).trans ?_
    cases s with
    | nil =>
      rw [levenshtein_cons_nil]
      exact le_refl 1
    | cons y s =>
      rw [levenshtein_cons, levenshtein_self (y :: s)]
      omega
  | substitute p s x y =>
    refine (levenshtein_append_le p _ _).trans ?_
    rw [levenshtein_cons, levenshtein_self s]
    split_ifs <;> omega

theorem edit_of_levenshtein {xs ys : List α} (h : levenshtein xs ys ≤ 1) : xs = ys ∨ Edit xs ys := by
  induction xs generalizing ys with
  | nil =>
    rw [levenshtein_nil] at h
    cases ys with
    | nil => exact .inl rfl
    | cons y ys =>
      rw [List.length_cons] at h
      have hys : ys = [] := List.eq_nil_of_length_eq_zero (by omega)
      rw [hys]
      exact .inr (.insert [] [] y)
  | cons x xs ih =>
    cases ys with
    | nil =>
      rw [levenshtein_cons_nil] at h
      have hxs : xs = [] := List.eq_nil_of_length_eq_zero (by omega)
      rw [hxs]
      exact .inr (.delete [] [] x)
    | cons y ys =>
      -- the cheapest of the three last steps
      rw [levenshtein_cons] at h
      have hsplit : levenshtein xs (y :: ys) = 0 ∨ levenshtein (x :: xs) ys = 0 ∨
          levenshtein xs ys + (if x = y then 0 else 1) ≤ 1 := by omega
      rcases hsplit with hdel | hins | hsub
      · rw [levenshtein_eq_zero hdel]
        exact .inr (.delete [] _ x)
      · rw [levenshtein_eq_zero hins]
        exact .inr (.insert [] _ y)
      · by_cases hxy : x = y
        · rw [if_pos hxy] at hsub
          rw [hxy]
          rcases ih hsub with heq | hedit
          · exact .inl (congrArg _ heq)
          · exact .inr (hedit.cons y)
        · rw [if_neg hxy] at hsub
          rw [levenshtein_eq_zero (by omega : levenshtein xs ys = 0)]
          exact .inr (.substitute [] ys x y)

theorem levenshtein_le_one {xs ys : List α} : levenshtein xs ys ≤ 1 ↔ xs = ys ∨ Edit xs ys := by
  constructor
  · exact edit_of_levenshtein
  · rintro (rfl | h)
    · rw [levenshtein_self]
      exact Nat.zero_le 1
    · exact h.levenshtein_le

end

end Py
