import TomtitAgent.Python.Order

/-!
# Updates of a dictionary

`d[k] = v` replaces the value in place or appends a new item, `del d[k]` removes an item, so the
order of the other items never changes.
-/

namespace Py

section
variable {κ ν : Type*} [DecidableEq κ]

/-- `kvs[k] = v` on the items. -/
def upsert (k : κ) (v : ν) : List (κ × ν) → List (κ × ν)
  | [] => [(k, v)]
  | kv :: kvs => if kv.1 = k then (k, v) :: kvs else kv :: upsert k v kvs

theorem assoc_upsert (kvs : List (κ × ν)) (k k' : κ) (v : ν) :
    assoc (upsert k v kvs) k' = if k' = k then some v else assoc kvs k' := by
  induction kvs with
  | nil => exact assoc_cons
  | cons kv kvs ih =>
    obtain ⟨a, b⟩ := kv
    rw [upsert]
    by_cases ha : a = k
    · rw [if_pos ha, assoc_cons, assoc_cons, ha]
      split_ifs <;> rfl
    · rw [if_neg ha, assoc_cons, assoc_cons, ih]
      by_cases hk : k' = k
      · rw [if_pos hk, if_pos hk, if_neg (by rw [hk]; exact fun e => ha e.symm)]
      · rw [if_neg hk, if_neg hk]

theorem upsert_of_mem {kvs : List (κ × ν)} {k : κ} (h : k ∈ kvs.map Prod.fst) (v : ν) :
    (upsert k v kvs).map Prod.fst = kvs.map Prod.fst := by
  induction kvs with
  | nil => exact absurd h List.not_mem_nil
  | cons kv kvs ih =>
    rw [upsert]
    by_cases hk : kv.1 = k
    · rw [if_pos hk, List.map_cons, List.map_cons, hk]
    · rw [if_neg hk, List.map_cons, List.map_cons, ih ?_]
      rcases List.mem_cons.mp h with e | h
      · exact absurd e.symm hk
      · exact h

theorem upsert_of_notMem {kvs : List (κ × ν)} {k : κ} (h : k ∉ kvs.map Prod.fst) (v : ν) :
    upsert k v kvs = kvs ++ [(k, v)] := by
  induction kvs with
  | nil => rfl
  | cons kv kvs ih =>
    rw [List.map_cons, List.mem_cons, not_or] at h
    rw [upsert, if_neg fun e => h.1 e.symm, ih h.2, List.cons_append]

theorem upsert_eq_map {kvs : List (κ × ν)} (hnd : (kvs.map Prod.fst).Nodup) {k : κ}
    (h : k ∈ kvs.map Prod.fst) (v : ν) :
    upsert k v kvs = kvs.map fun kv => if kv.1 = k then (k, v) else kv := by
  induction kvs with
  | nil => exact absurd h List.not_mem_nil
  | cons kv kvs ih =>
    rw [List.map_cons, List.nodup_cons] at hnd
    rw [upsert, List.map_cons]
    by_cases hk : kv.1 = k
    · rw [if_pos hk, if_pos hk]
      have hrest : kvs.map (fun kv => if kv.1 = k then (k, v) else kv) = kvs := by
        refine (List.map_congr_left fun x hx => if_neg ?_).trans (List.map_id kvs)
        intro e
        exact hnd.1 (hk.trans e.symm ▸ List.mem_map_of_mem hx)
      rw [hrest]
    · rw [if_neg hk, if_neg hk, ih hnd.2 ?_]
      rcases List.mem_cons.mp h with e | h
      · exact absurd e.symm hk
      · exact h

theorem upsert_nodup {kvs : List (κ × ν)} (h : (kvs.map Prod.fst).Nodup) (k : κ) (v : ν) :
    ((upsert k v kvs).map Prod.fst).Nodup := by
  by_cases hk : k ∈ kvs.map Prod.fst
  · rw [upsert_of_mem hk]
    exact h
  · rw [upsert_of_notMem hk, List.map_append]
    refine h.append (List.nodup_singleton k) fun a ha hb => hk ?_
    rw [List.mem_singleton.mp hb] at ha
    exact ha

theorem mem_upsert {kvs : List (κ × ν)} {k : κ} {v : ν} {kv : κ × ν} (h : kv ∈ upsert k v kvs) :
    kv = (k, v) ∨ kv ∈ kvs := by
  induction kvs with
  | nil => exact .inl (List.mem_singleton.mp h)
  | cons x kvs ih =>
    rw [upsert] at h
    split at h
    · rcases List.mem_cons.mp h with h | h
      · exact .inl h
      · exact .inr (List.mem_cons_of_mem x h)
    · rcases List.mem_cons.mp h with rfl | h
      · exact .inr List.mem_cons_self
      · exact (ih h).imp_right (List.mem_cons_of_mem x)

namespace Dict

def empty : Dict κ ν := ⟨[], List.nodup_nil⟩

/-- `d.values()` -/
def values (d : Dict κ ν) : List ν := d.items.map Prod.snd

/-- `d[k] = v` -/
def set (d : Dict κ ν) (k : κ) (v : ν) : Dict κ ν := ⟨upsert k v d.items, upsert_nodup d.nodup k v⟩

/-- `d.update(e)` -/
def update (d e : Dict κ ν) : Dict κ ν := e.items.foldl (fun d kv => d.set kv.1 kv.2) d

/-- `dict(items)` -/
def ofItems (kvs : List (κ × ν)) : Dict κ ν := kvs.foldl (fun d kv => d.set kv.1 kv.2) empty

/-- `del d[k]` of a key that is there -/
def erase (d : Dict κ ν) (k : κ) : Dict κ ν :=
  ⟨d.items.filter fun kv => kv.1 ≠ k, d.nodup.sublist (List.filter_sublist.map Prod.fst)⟩

theorem get?_set (d : Dict κ ν) (k k' : κ) (v : ν) :
    (d.set k v).get? k' = if k' = k then some v else d.get? k' := assoc_upsert d.items k k' v

theorem get?_erase (d : Dict κ ν) (k k' : κ) :
    (d.erase k).get? k' = if k' = k then none else d.get? k' := by
  show assoc (d.items.filter fun kv => kv.1 ≠ k) k' = _
  unfold get?
  induction d.items with
  | nil => exact (ite_self _).symm
  | cons kv kvs ih =>
    obtain ⟨a, b⟩ := kv
    by_cases ha : a = k
    · rw [List.filter_cons_of_neg (by simp [ha]), ih, assoc_cons, ha]
      split_ifs <;> rfl
    · rw [List.filter_cons_of_pos (by simp [ha]), assoc_cons, assoc_cons, ih]
      by_cases hk : k' = k
      · rw [if_pos hk, if_pos hk, if_neg (by rw [hk]; exact fun e => ha e.symm)]
      · rw [if_neg hk, if_neg hk]

theorem get?_eq_some {d : Dict κ ν} {k : κ} {v : ν} : d.get? k = some v ↔ (k, v) ∈ d.items :=
  ⟨assoc_mem, assoc_of_mem d.nodup⟩

theorem get?_eq_none {d : Dict κ ν} {k : κ} : d.get? k = none ↔ k ∉ d.keys := by
  rw [keys, ← assoc_isSome_iff, Option.eq_none_iff_forall_ne_some]
  exact ⟨fun h ⟨v, e⟩ => h v e, fun h v e => h ⟨v, e⟩⟩

theorem mem_keys_set {d : Dict κ ν} {k k' : κ} {v : ν} : k' ∈ (d.set k v).keys ↔ k' = k ∨ k' ∈ d.keys := by
  show k' ∈ (upsert k v d.items).map Prod.fst ↔ k' = k ∨ k' ∈ d.items.map Prod.fst
  by_cases hk : k ∈ d.items.map Prod.fst
  · rw [upsert_of_mem hk]
    constructor
    · exact .inr
    · rintro (rfl | h)
      · exact hk
      · exact h
  · rw [upsert_of_notMem hk, List.map_append, List.mem_append, or_comm]
    exact or_congr_left List.mem_singleton

theorem mem_keys_ofItems {kvs : List (κ × ν)} {k : κ} : k ∈ (ofItems kvs).keys ↔ k ∈ kvs.map Prod.fst := by
  have hfold : ∀ (kvs : List (κ × ν)) (d : Dict κ ν),
      k ∈ (kvs.foldl (fun d kv => d.set kv.1 kv.2) d).keys ↔ k ∈ d.keys ∨ k ∈ kvs.map Prod.fst := by
    intro kvs
    induction kvs with
    | nil => exact fun d => (or_iff_left List.not_mem_nil).symm
    | cons kv kvs ih =>
      intro d
      rw [List.foldl_cons, ih, mem_keys_set, List.map_cons, List.mem_cons, or_assoc, or_left_comm]
  exact (hfold kvs empty).trans (or_iff_right List.not_mem_nil)

theorem get?_ofItems_pair (k k' x : κ) (v v' : ν) :
    (ofItems [(k, v), (k', v')]).get? x = if x = k' then some v' else if x = k then some v else none := by
  show ((empty.set k v).set k' v').get? x = _
  rw [get?_set, get?_set]
  rfl

theorem items_ofItems_pair {k k' : κ} (h : k ≠ k') (v v' : ν) :
    (ofItems [(k, v), (k', v')]).items = [(k, v), (k', v')] := by
  show upsert k' v' [(k, v)] = _
  exact upsert_of_notMem (fun hin => h (List.mem_singleton.mp hin).symm) v'

theorem ofItems_items (d : Dict κ ν) : ofItems d.items = d := by
  have hfold : ∀ (kvs : List (κ × ν)) (e : Dict κ ν), ((e.items ++ kvs).map Prod.fst).Nodup →
      (kvs.foldl (fun e kv => e.set kv.1 kv.2) e).items = e.items ++ kvs := by
    intro kvs
    induction kvs with
    | nil => exact fun e _ => (List.append_nil _).symm
    | cons kv kvs ih =>
      intro e hnd
      have hset : (e.set kv.1 kv.2).items = e.items ++ [kv] := by
        refine upsert_of_notMem (fun h => ?_) kv.2
        rw [List.map_append, List.map_cons] at hnd
        exact (List.nodup_append.mp hnd).2.2 kv.1 h kv.1 List.mem_cons_self rfl
      rw [List.foldl_cons, ih, hset, List.append_assoc, List.singleton_append]
      rw [hset, List.append_assoc, List.singleton_append]
      exact hnd
  have h := hfold d.items empty d.nodup
  cases e : ofItems d.items with
  | mk items nodup =>
    have hitems : (ofItems d.items).items = d.items := h
    rw [e] at hitems
    cases d with
    | mk items' nodup' =>
      cases hitems
      rfl

end Dict
end

end Py
