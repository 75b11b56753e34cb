import Mathlib

/-!
# Ranked lists cut at a limit

`sortDescending key xs` is `xs.sort(key=key, reverse=True)`: descending, and stable.  An element is
among the first `n` exactly when fewer than `n` elements are ahead of it (`mem_take_sortDescending`),
where `ahead` counts in the unsorted list: the elements of a greater key, and those of the same key
that come before.  `tag` tells the elements apart.
-/

namespace Py

/-- `xs[:limit]` -/
def sliceTo {α : Type} (limit : Int) (xs : List α) : List α :=
  xs.take (if 0 ≤ limit then limit.toNat else xs.length - limit.natAbs)

theorem sliceTo_natCast {α : Type} (n : Nat) (xs : List α) : sliceTo (n : Int) xs = xs.take n := by
  unfold sliceTo
  rw [if_pos (Int.natCast_nonneg n), Int.toNat_natCast]

section
variable {α κ ι : Type} [LinearOrder κ] [DecidableEq ι] {key : α → κ} {tag : α → ι}

def sortDescending (key : α → κ) (xs : List α) : List α := xs.insertionSort fun a b => key b ≤ key a

theorem mem_sortDescending {xs : List α} {a : α} : a ∈ sortDescending key xs ↔ a ∈ xs :=
  List.mem_insertionSort _

theorem sortDescending_perm (xs : List α) : (sortDescending key xs).Perm xs :=
  List.perm_insertionSort _ xs

theorem sortDescending_pairwise (xs : List α) :
    (sortDescending key xs).Pairwise fun a b => key b ≤ key a := by
  have : Std.Total (fun a b : α => key b ≤ key a) := ⟨fun a b => le_total (key b) (key a)⟩
  have : IsTrans α (fun a b => key b ≤ key a) := ⟨fun _ _ _ h h' => h'.trans h⟩
  exact List.pairwise_insertionSort _ xs

theorem filter_sortDescending (k : κ) (xs : List α) :
    (sortDescending key xs).filter (fun x => key x = k) = xs.filter fun x => key x = k := by
  have : Std.Total (fun a b : α => key b ≤ key a) := ⟨fun a b => le_total (key b) (key a)⟩
  have : IsTrans α (fun a b => key b ≤ key a) := ⟨fun _ _ _ h h' => h'.trans h⟩
  have hpair : (xs.filter fun x => key x = k).Pairwise fun a b => key b ≤ key a := by
    refine List.pairwise_of_forall_mem_list fun a ha b hb => ?_
    have h1 := of_decide_eq_true (List.mem_filter.mp ha).2
    have h2 := of_decide_eq_true (List.mem_filter.mp hb).2
    rw [h1, h2]
  have hsub : (xs.filter fun x => key x = k).Sublist (sortDescending key xs) :=
    List.sublist_insertionSort hpair List.filter_sublist
  have hsub' := hsub.filter fun x => key x = k
  rw [List.filter_filter] at hsub'
  simp only [Bool.and_self] at hsub'
  refine (hsub'.eq_of_length ?_).symm
  exact ((sortDescending_perm xs).filter _).length_eq.symm

theorem descending_ext {xs ys : List α} (hx : xs.Pairwise fun a b => key b ≤ key a)
    (hy : ys.Pairwise fun a b => key b ≤ key a)
    (h : ∀ k, (xs.filter fun x => key x = k) = ys.filter fun x => key x = k) : xs = ys := by
  have hmem : ∀ {us vs : List α}, (∀ k, (us.filter fun x => key x = k) = vs.filter fun x => key x = k) →
      ∀ {a}, a ∈ us → a ∈ vs := by
    intro us vs h a ha
    have hown : a ∈ us.filter fun x => key x = key a := List.mem_filter.mpr ⟨ha, by simp⟩
    rw [h (key a)] at hown
    exact (List.mem_filter.mp hown).1
  induction xs generalizing ys with
  | nil =>
    cases ys with
    | nil => rfl
    | cons b ys => exact absurd (hmem (fun k => (h k).symm) List.mem_cons_self) List.not_mem_nil
  | cons a xs ih =>
    cases ys with
    | nil => exact absurd (hmem h List.mem_cons_self) List.not_mem_nil
    | cons b ys =>
      have hb := hmem (fun k => (h k).symm) (List.mem_cons_self (a := b) (l := ys))
      have ha := hmem h (List.mem_cons_self (a := a) (l := xs))
      rw [List.pairwise_cons] at hx hy
      have hkey : key b = key a := by
        apply le_antisymm
        · rcases List.mem_cons.mp hb with e | hb
          · rw [e]
          · exact hx.1 b hb
        · rcases List.mem_cons.mp ha with e | ha
          · rw [e]
          · exact hy.1 a ha
      have hhead := h (key a)
      rw [List.filter_cons_of_pos (by simp), List.filter_cons_of_pos (by simp [hkey])] at hhead
      obtain ⟨rfl, -⟩ := List.cons.inj hhead
      refine congrArg (a :: ·) (ih hx.2 hy.2 fun k => ?_)
      have hk := h k
      by_cases e : key a = k
      · rw [List.filter_cons_of_pos (by simp [e]), List.filter_cons_of_pos (by simp [e])] at hk
        exact (List.cons.inj hk).2
      · rw [List.filter_cons_of_neg (by simp [e]), List.filter_cons_of_neg (by simp [e])] at hk
        exact hk

theorem sortDescending_filter (p : α → Bool) (xs : List α) :
    sortDescending key (xs.filter p) = (sortDescending key xs).filter p := by
  refine descending_ext (sortDescending_pairwise _) ((sortDescending_pairwise xs).filter p) fun k => ?_
  have hswap : ∀ ys : List α, (ys.filter p).filter (fun x => key x = k) =
      (ys.filter fun x => key x = k).filter p := fun ys => by
    rw [List.filter_filter, List.filter_filter]
    exact List.filter_congr fun x _ => Bool.and_comm _ _
  rw [filter_sortDescending, hswap, hswap, filter_sortDescending]

theorem sortDescending_filter_sort {μ : Type} [LinearOrder μ] {fine : α → μ}
    (hfine : ∀ a b, fine a = fine b → key a = key b) (p : α → Bool) (xs : List α) :
    sortDescending fine ((sortDescending key xs).filter p) = sortDescending fine (xs.filter p) := by
  refine descending_ext (sortDescending_pairwise _) (sortDescending_pairwise _) fun k => ?_
  rw [filter_sortDescending, filter_sortDescending, List.filter_filter, List.filter_filter]
  -- the elements of one fine key share their coarse key
  by_cases hex : ∃ a, fine a = k
  · obtain ⟨a, ha⟩ := hex
    have hsplit : ∀ ys : List α, (ys.filter fun x => decide (fine x = k) && p x) =
        (ys.filter fun x => decide (key x = key a)).filter fun x => decide (fine x = k) && p x := by
      intro ys
      rw [List.filter_filter]
      refine List.filter_congr fun x _ => ?_
      by_cases hx : fine x = k
      · rw [decide_eq_true (hfine x a (hx.trans ha.symm)), Bool.and_true]
      · rw [decide_eq_false hx, Bool.false_and, Bool.false_and]
    rw [hsplit, hsplit xs, filter_sortDescending]
  · have hnone : ∀ x, decide (fine x = k) = false := fun x => decide_eq_false fun e => hex ⟨x, e⟩
    simp only [hnone, Bool.false_and]
    rw [List.filter_false, List.filter_false]

/-! ### the first of the ranking -/

theorem head?_orderedInsert (x : α) (xs : List α) :
    (xs.orderedInsert (fun a b => key b ≤ key a) x).head? =
      match xs.head? with
      | none => some x
      | some b => if key b ≤ key x then some x else some b := by
  cases xs with
  | nil => rfl
  | cons b xs =>
    rw [List.orderedInsert_cons, List.head?_cons]
    show _ = if key b ≤ key x then some x else some b
    split_ifs <;> rfl

theorem head?_sortDescending_concat (xs : List α) (a : α) :
    (sortDescending key (xs ++ [a])).head? =
      match (sortDescending key xs).head? with
      | none => some a
      | some b => if key a ≤ key b then some b else some a := by
  induction xs with
  | nil => rfl
  | cons x xs ih =>
    show ((sortDescending key (xs ++ [a])).orderedInsert (fun a b => key b ≤ key a) x).head? =
      match ((sortDescending key xs).orderedInsert (fun a b => key b ≤ key a) x).head? with
      | none => some a
      | some b => if key a ≤ key b then some b else some a
    rw [head?_orderedInsert, head?_orderedInsert, ih]
    cases (sortDescending key xs).head? with
    | none => rfl
    | some b =>
      dsimp only
      by_cases hab : key a ≤ key b
      · rw [if_pos hab]
        by_cases hbx : key b ≤ key x
        · simp [hbx, hab.trans hbx]
        · simp [hbx, hab]
      · rw [if_neg hab]
        by_cases hbx : key b ≤ key x
        · simp [hbx]
        · have hxa : ¬ key a ≤ key x := fun h => hbx ((not_le.mp hab).le.trans h)
          simp [hbx, hab, hxa]

/-- The elements before the first one with the tag of `a`. -/
def before (tag : α → ι) (xs : List α) (a : α) : List α := xs.takeWhile fun x => tag x ≠ tag a

/-- How many elements of `xs` the ranking puts before `a`. -/
def ahead (key : α → κ) (tag : α → ι) (xs : List α) (a : α) : Nat :=
  xs.countP (fun x => key a < key x) + (before tag xs a).countP fun x => key x = key a

theorem mem_take_iff {xs : List α} (hnd : (xs.map tag).Nodup) {a : α} {n : Nat} :
    a ∈ xs.take n ↔ a ∈ xs ∧ (before tag xs a).length < n := by
  induction xs generalizing n with
  | nil => simp
  | cons x xs ih =>
    cases n with
    | zero => simp
    | succ n =>
      rw [List.map_cons, List.nodup_cons] at hnd
      rw [List.take_succ_cons, List.mem_cons, List.mem_cons, ih hnd.2]
      unfold before
      by_cases hx : tag x = tag a
      · rw [List.takeWhile_cons_of_neg (by simp [hx])]
        have hout : a ∉ xs := fun h => hnd.1 (hx ▸ List.mem_map_of_mem h)
        simp [hout]
      · rw [List.takeWhile_cons_of_pos (by simp [hx]), List.length_cons, Nat.succ_lt_succ_iff]
        have hne : a ≠ x := fun e => hx (by rw [e])
        simp [hne]

theorem takeWhile_greater {xs : List α} (h : xs.Pairwise fun a b => key b ≤ key a) (k : κ) :
    (xs.takeWhile fun x => k < key x).length = xs.countP fun x => k < key x := by
  induction xs with
  | nil => rfl
  | cons x xs ih =>
    rw [List.pairwise_cons] at h
    by_cases hx : k < key x
    · rw [List.takeWhile_cons_of_pos (by simpa using hx), List.countP_cons_of_pos (by simpa using hx),
        List.length_cons, ih h.2]
    · rw [List.takeWhile_cons_of_neg (by simpa using hx), List.countP_cons_of_neg (by simpa using hx)]
      refine (List.countP_eq_zero.mpr fun y hy => ?_).symm
      rw [decide_eq_true_eq]
      exact fun hk => hx (hk.trans_le (h.1 y hy))

theorem before_orderedInsert {xs : List α} (h : xs.Pairwise fun a b => key b ≤ key a)
    (hnd : (xs.map tag).Nodup) {x a : α} (ha : a ∈ xs) (hx : tag x ≠ tag a) :
    (before tag (xs.orderedInsert (fun a b => key b ≤ key a) x) a).length =
      (before tag xs a).length + if key a ≤ key x then 1 else 0 := by
  induction xs with
  | nil => exact absurd ha List.not_mem_nil
  | cons b xs ih =>
    rw [List.pairwise_cons] at h
    rw [List.map_cons, List.nodup_cons] at hnd
    rw [List.orderedInsert_cons]
    by_cases hb : key b ≤ key x
    · have hle : key a ≤ key x := by
        rcases List.mem_cons.mp ha with rfl | ha
        · exact hb
        · exact (h.1 a ha).trans hb
      rw [if_pos hb, if_pos hle]
      unfold before
      rw [List.takeWhile_cons_of_pos (by simp [hx]), List.length_cons]
    · rw [if_neg hb]
      unfold before at ih ⊢
      by_cases hab : tag b = tag a
      · have hle : ¬ key a ≤ key x := by
          rcases List.mem_cons.mp ha with rfl | ha
          · exact hb
          · exact absurd (hab ▸ List.mem_map_of_mem ha) hnd.1
        rw [List.takeWhile_cons_of_neg (by simp [hab]), List.takeWhile_cons_of_neg (by simp [hab]),
          if_neg hle]
        rfl
      · have ha' : a ∈ xs := (List.mem_cons.mp ha).resolve_left fun e => hab (by rw [e])
        rw [List.takeWhile_cons_of_pos (by simp [hab]), List.takeWhile_cons_of_pos (by simp [hab]),
          List.length_cons, List.length_cons, ih h.2 hnd.2 ha']
        omega

theorem length_before_sortDescending {xs : List α} (hnd : (xs.map tag).Nodup) {a : α}
    (ha : a ∈ xs) : (before tag (sortDescending key xs) a).length = ahead key tag xs a := by
  induction xs with
  | nil => exact absurd ha List.not_mem_nil
  | cons x xs ih =>
    rw [List.map_cons, List.nodup_cons] at hnd
    have hsort := @sortDescending_pairwise α κ _ key xs
    have hperm := @sortDescending_perm α κ _ key xs
    have htags : ((sortDescending key xs).map tag).Nodup := (hperm.map tag).nodup_iff.mpr hnd.2
    show (before tag ((sortDescending key xs).orderedInsert (fun a b => key b ≤ key a) x) a).length = _
    by_cases hx : tag x = tag a
    · have hax : a = x := by
        rcases List.mem_cons.mp ha with e | ha
        · exact e
        · exact absurd (hx ▸ List.mem_map_of_mem ha) hnd.1
      subst hax
      have hout : ∀ y ∈ sortDescending key xs, tag y ≠ tag a := fun y hy e =>
        hnd.1 (e ▸ List.mem_map_of_mem (mem_sortDescending.mp hy))
      unfold ahead before
      rw [List.orderedInsert_eq_take_drop, List.takeWhile_append_of_pos, List.takeWhile_cons_of_neg,
        List.append_nil, List.takeWhile_cons_of_neg, List.countP_nil, Nat.add_zero,
        List.countP_cons_of_neg, ← hperm.countP_eq, ← takeWhile_greater hsort]
      · simp only [not_le]
      · simp
      · simp
      · simp
      · intro y hy
        exact decide_eq_true (hout y ((List.takeWhile_sublist _).subset hy))
    · have ha' : a ∈ xs := (List.mem_cons.mp ha).resolve_left fun e => hx (by rw [e])
      rw [before_orderedInsert hsort htags (mem_sortDescending.mpr ha') hx, ih hnd.2 ha']
      unfold ahead before
      rw [List.takeWhile_cons_of_pos (by simp [hx])]
      rcases lt_trichotomy (key a) (key x) with h | h | h
      · rw [if_pos h.le, List.countP_cons_of_pos (by simpa using h),
          List.countP_cons_of_neg (by simpa using h.ne')]
        omega
      · rw [if_pos h.le, List.countP_cons_of_neg (by simp [h]), List.countP_cons_of_pos (by simp [h])]
        omega
      · rw [if_neg h.not_ge, List.countP_cons_of_neg (by simpa using h.le),
          List.countP_cons_of_neg (by simpa using h.ne)]
        rfl

/-- An element is among the first `n` of the ranking exactly when fewer than `n` are ahead of it. -/
theorem mem_take_sortDescending {xs : List α} (hnd : (xs.map tag).Nodup) {a : α} {n : Nat} :
    a ∈ (sortDescending key xs).take n ↔ a ∈ xs ∧ ahead key tag xs a < n := by
  have htags : ((sortDescending key xs).map tag).Nodup :=
    ((sortDescending_perm xs).map tag).nodup_iff.mpr hnd
  rw [mem_take_iff htags, mem_sortDescending]
  refine and_congr_right fun ha => ?_
  rw [length_before_sortDescending hnd ha]

end

end Py
