import Mathlib

/-!
# `sorted`, `set` and ordered dictionaries

* `sorted xs`, `sortedSet xs`   `sorted(xs)` and `sorted(set(xs))` over any linear order;
* `distinct xs`   the test `len(set(xs)) == len(xs)`;
* `setEq`, `disjoint`   equality and disjointness of the sets of two lists;
* `sortItems kvs`   the items of a dictionary sorted by key;
* `Dict κ ν`   a dictionary: items in insertion order, keys distinct by construction.

The uniqueness facts the serialiser needs are `strict_sorted_ext` (a strictly sorted list is
determined by its members) and `sortItems_perm` (sorting forgets the insertion order).
-/

namespace Py

section
variable {α : Type*} [LinearOrder α]

/-- `sorted(xs)` -/
def sorted (xs : List α) : List α := xs.insertionSort (· ≤ ·)

theorem sorted_perm (xs : List α) : (sorted xs).Perm xs := List.perm_insertionSort _ xs

@[simp] theorem mem_sorted {xs : List α} {a : α} : a ∈ sorted xs ↔ a ∈ xs :=
  List.mem_insertionSort _

theorem sorted_pairwise (xs : List α) : (sorted xs).Pairwise (· ≤ ·) :=
  List.pairwise_insertionSort _ xs

theorem sorted_eq_self_iff {xs : List α} : sorted xs = xs ↔ xs.Pairwise (· ≤ ·) := by
  constructor
  · intro h
    rw [← h]
    exact sorted_pairwise xs
  · exact List.Pairwise.insertionSort_eq

/-- `len(set(xs)) == len(xs)` -/
def distinct (xs : List α) : Bool := decide (xs.dedup.length = xs.length)

theorem distinct_iff {xs : List α} : distinct xs = true ↔ xs.Nodup := by
  unfold distinct
  rw [decide_eq_true_eq]
  constructor
  · intro h
    have e : xs.dedup = xs := (List.dedup_sublist xs).eq_of_length h
    rw [← e]
    exact List.nodup_dedup xs
  · intro h
    rw [h.dedup]

theorem strict_of_sorted_distinct {xs : List α} (hs : sorted xs = xs) (hd : distinct xs = true) :
    xs.Pairwise (· < ·) := by
  have h1 := sorted_eq_self_iff.mp hs
  have h2 : xs.Pairwise (· ≠ ·) := distinct_iff.mp hd
  exact (h1.and h2).imp fun h => lt_of_le_of_ne h.1 h.2

theorem sorted_of_strict {xs : List α} (h : xs.Pairwise (· < ·)) : sorted xs = xs :=
  sorted_eq_self_iff.mpr (h.imp le_of_lt)

theorem nodup_of_strict {xs : List α} (h : xs.Pairwise (· < ·)) : xs.Nodup :=
  h.imp fun hab => ne_of_lt hab

theorem distinct_of_strict {xs : List α} (h : xs.Pairwise (· < ·)) : distinct xs = true :=
  distinct_iff.mpr (nodup_of_strict h)

theorem strict_iff {xs : List α} :
    (xs = sorted xs ∧ distinct xs = true) ↔ xs.Pairwise (· < ·) :=
  ⟨fun h => strict_of_sorted_distinct h.1.symm h.2,
    fun h => ⟨(sorted_of_strict h).symm, distinct_of_strict h⟩⟩

/-- `sorted(set(xs))` -/
def sortedSet (xs : List α) : List α := sorted xs.dedup

@[simp] theorem mem_sortedSet {xs : List α} {a : α} : a ∈ sortedSet xs ↔ a ∈ xs := by
  unfold sortedSet
  rw [mem_sorted, List.mem_dedup]

theorem sortedSet_strict (xs : List α) : (sortedSet xs).Pairwise (· < ·) := by
  have h1 := sorted_pairwise xs.dedup
  have h2 : (sorted xs.dedup).Pairwise (· ≠ ·) :=
    (sorted_perm xs.dedup).nodup_iff.mpr (List.nodup_dedup xs)
  exact (h1.and h2).imp fun h => lt_of_le_of_ne h.1 h.2

/-- A strictly sorted list is determined by its members. -/
theorem strict_sorted_ext {xs ys : List α} (hx : xs.Pairwise (· < ·)) (hy : ys.Pairwise (· < ·))
    (h : ∀ a, a ∈ xs ↔ a ∈ ys) : xs = ys := by
  have hp : xs.Perm ys :=
    (List.perm_ext_iff_of_nodup (nodup_of_strict hx) (nodup_of_strict hy)).mpr h
  exact hp.eq_of_pairwise (fun a b _ _ hab hba => absurd hab (lt_asymm hba)) hx hy

end

section
variable {α : Type*} [DecidableEq α]

/-- `set(xs) == set(ys)` -/
def setEq (xs ys : List α) : Bool := xs.all (· ∈ ys) && ys.all (· ∈ xs)

theorem setEq_iff {xs ys : List α} : setEq xs ys = true ↔ ∀ a, a ∈ xs ↔ a ∈ ys := by
  unfold setEq
  simp only [Bool.and_eq_true, List.all_eq_true, decide_eq_true_eq]
  exact ⟨fun h a => ⟨h.1 a, h.2 a⟩, fun h => ⟨fun a => (h a).mp, fun a => (h a).mpr⟩⟩

/-- `not (set(xs) & set(ys))` -/
def disjoint (xs ys : List α) : Bool := xs.all (· ∉ ys)

theorem disjoint_eq_true {xs ys : List α} : disjoint xs ys = true ↔ ∀ a ∈ xs, a ∉ ys := by
  unfold disjoint
  simp only [List.all_eq_true, decide_eq_true_eq]

end

/-! ### filters -/

section
variable {α : Type*} {xs : List α} {q r : α → Bool}

theorem filter_eq_singleton {a : α} (hnd : xs.Nodup) (h : ∀ x, x ∈ xs ∧ q x = true ↔ x = a) :
    xs.filter q = [a] := by
  refine List.perm_singleton.mp ((List.perm_ext_iff_of_nodup (hnd.filter q)
    (List.nodup_singleton a)).mpr fun x => ?_)
  rw [List.mem_filter, List.mem_singleton, h]

/-- Two filters that exclude each other cover a list when their lengths add up, and only then. -/
theorem length_filter_add (hx : ∀ x, q x = true → r x = false) :
    (xs.filter q).length + (xs.filter r).length ≤ xs.length ∧
      ((xs.filter q).length + (xs.filter r).length = xs.length ↔
        ∀ x ∈ xs, q x = true ∨ r x = true) := by
  induction xs with
  | nil => simp
  | cons x xs ih =>
    obtain ⟨hle, heq⟩ := ih
    have hx := hx x
    rw [List.forall_mem_cons, ← heq, List.filter_cons, List.filter_cons, List.length_cons]
    cases hq : q x with
    | true =>
      rw [hx hq, if_pos rfl, if_neg Bool.false_ne_true, List.length_cons]
      constructor
      · omega
      · simp only [true_or, true_and]
        omega
    | false =>
      rw [if_neg Bool.false_ne_true]
      cases r x with
      | true =>
        rw [if_pos rfl, List.length_cons]
        constructor
        · omega
        · simp only [or_true, true_and]
          omega
      | false =>
        rw [if_neg Bool.false_ne_true]
        constructor
        · omega
        · simp only [Bool.false_eq_true, or_self, false_and, iff_false]
          omega

end

/-! ### dictionaries -/

section
variable {κ ν : Type*} [LinearOrder κ]

/-- The items of a dictionary sorted by key: `sorted(d.items())` with distinct keys. -/
def sortItems (kvs : List (κ × ν)) : List (κ × ν) := kvs.insertionSort (fun a b => a.1 ≤ b.1)

theorem sortItems_perm_self (kvs : List (κ × ν)) : (sortItems kvs).Perm kvs :=
  List.perm_insertionSort _ kvs

theorem sortItems_pairwise (kvs : List (κ × ν)) :
    (sortItems kvs).Pairwise (fun a b => a.1 ≤ b.1) := by
  have : Std.Total (fun a b : κ × ν => a.1 ≤ b.1) := ⟨fun a b => le_total a.1 b.1⟩
  have : IsTrans (κ × ν) (fun a b => a.1 ≤ b.1) := ⟨fun _ _ _ => le_trans⟩
  exact List.pairwise_insertionSort _ kvs

theorem sortItems_keys (kvs : List (κ × ν)) :
    ((sortItems kvs).map Prod.fst).Perm (kvs.map Prod.fst) := (sortItems_perm_self kvs).map _

theorem sortItems_strict {kvs : List (κ × ν)} (hnd : (kvs.map Prod.fst).Nodup) :
    (sortItems kvs).Pairwise (fun a b => a.1 < b.1) := by
  have h2 : ((sortItems kvs).map Prod.fst).Nodup := (sortItems_keys kvs).nodup_iff.mpr hnd
  rw [List.Nodup, List.pairwise_map] at h2
  exact ((sortItems_pairwise kvs).and h2).imp fun h => lt_of_le_of_ne h.1 h.2

/-- Sorting by distinct keys forgets the insertion order. -/
theorem sortItems_perm {kvs kvs' : List (κ × ν)} (hp : kvs.Perm kvs')
    (hnd : (kvs.map Prod.fst).Nodup) : sortItems kvs = sortItems kvs' := by
  have hnd' : (kvs'.map Prod.fst).Nodup := (hp.map Prod.fst).nodup_iff.mp hnd
  have hpp : (sortItems kvs).Perm (sortItems kvs') :=
    ((sortItems_perm_self kvs).trans hp).trans (sortItems_perm_self kvs').symm
  exact hpp.eq_of_pairwise (fun a b _ _ hab hba => absurd hab (lt_asymm hba))
    (sortItems_strict hnd) (sortItems_strict hnd')

end

/-- The value of the first item with key `k`. -/
def assoc {κ ν : Type*} [DecidableEq κ] (kvs : List (κ × ν)) (k : κ) : Option ν := kvs.lookup k

structure Dict (κ ν : Type*) where
  items : List (κ × ν)
  nodup : (items.map Prod.fst).Nodup

namespace Dict
variable {κ ν : Type*} [DecidableEq κ]

def keys (d : Dict κ ν) : List κ := d.items.map Prod.fst

/-- `d.get(k)` -/
def get? (d : Dict κ ν) (k : κ) : Option ν := assoc d.items k

end Dict

section
variable {κ ν : Type*} [DecidableEq κ]

theorem assoc_cons {kvs : List (κ × ν)} {k k' : κ} {v : ν} :
    assoc ((k', v) :: kvs) k = if k = k' then some v else assoc kvs k := by
  unfold assoc
  rw [List.lookup_cons]
  by_cases e : k = k'
  · rw [if_pos e, beq_iff_eq.mpr e]
  · rw [if_neg e, beq_false_of_ne e]

theorem assoc_mem {kvs : List (κ × ν)} {k : κ} {v : ν} (h : assoc kvs k = some v) :
    (k, v) ∈ kvs := by
  induction kvs with
  | nil => exact absurd h (by simp [assoc])
  | cons kv kvs ih =>
    obtain ⟨k', v'⟩ := kv
    rw [assoc_cons] at h
    by_cases e : k = k'
    · rw [if_pos e] at h
      rw [Option.some.inj h, e]
      exact List.mem_cons_self
    · rw [if_neg e] at h
      exact List.mem_cons_of_mem _ (ih h)

theorem assoc_of_mem {kvs : List (κ × ν)} (hnd : (kvs.map Prod.fst).Nodup) {k : κ} {v : ν}
    (h : (k, v) ∈ kvs) : assoc kvs k = some v := by
  induction kvs with
  | nil => exact absurd h List.not_mem_nil
  | cons kv kvs ih =>
    obtain ⟨k', v'⟩ := kv
    rw [List.map_cons, List.nodup_cons] at hnd
    rw [assoc_cons]
    rcases List.mem_cons.mp h with e | h'
    · obtain ⟨rfl, rfl⟩ := Prod.mk.inj e
      rw [if_pos rfl]
    · have hne : k ≠ k' := by
        rintro rfl
        exact hnd.1 (List.mem_map.mpr ⟨(k, v), h', rfl⟩)
      rw [if_neg hne]
      exact ih hnd.2 h'

theorem assoc_isSome_iff {kvs : List (κ × ν)} {k : κ} :
    (∃ v, assoc kvs k = some v) ↔ k ∈ kvs.map Prod.fst := by
  constructor
  · rintro ⟨v, h⟩
    exact List.mem_map.mpr ⟨(k, v), assoc_mem h, rfl⟩
  · intro h
    induction kvs with
    | nil => exact absurd h List.not_mem_nil
    | cons kv kvs ih =>
      obtain ⟨k', v'⟩ := kv
      rw [assoc_cons]
      by_cases e : k = k'
      · subst e
        exact ⟨v', if_pos rfl⟩
      · rw [if_neg e]
        rcases List.mem_cons.mp h with e' | h'
        · exact absurd e' e
        · exact ih h'

end

end Py
