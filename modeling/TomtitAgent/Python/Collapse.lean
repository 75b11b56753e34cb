import TomtitAgent.Python.Text

/-!
# Collapsing a text piece by piece

* `collapseFrom_append`   what is appended only appends;
* `strip_collapse`        stripping and collapsing commute;
* `rstripOf_spec`         what `rstrip(chars)` takes off;
* `Unicode.lower_joinWith`   words that are joined by one space are lowered one by one.
-/

namespace Py

theorem collapseFrom_append (inRun : Bool) (s t : PyStr) :
    ∃ inRun', collapseFrom inRun (s ++ t) = collapseFrom inRun s ++ collapseFrom inRun' t := by
  induction s generalizing inRun with
  | nil => exact ⟨inRun, rfl⟩
  | cons c s ih =>
    rw [List.cons_append, collapseFrom, collapseFrom]
    by_cases hc : isSpace c = true
    · obtain ⟨j, hj⟩ := ih true
      rw [if_pos hc, if_pos hc]
      cases inRun with
      | true => exact ⟨j, hj⟩
      | false => exact ⟨j, congrArg (space :: ·) hj⟩
    · obtain ⟨j, hj⟩ := ih false
      rw [if_neg hc, if_neg hc]
      exact ⟨j, congrArg (c :: ·) hj⟩

theorem collapseFrom_concat {c : CodePoint} (hc : isSpace c = false) (inRun : Bool) (s : PyStr) :
    collapseFrom inRun (s ++ [c]) = collapseFrom inRun s ++ [c] := by
  obtain ⟨j, hj⟩ := collapseFrom_append inRun s [c]
  rw [hj, collapseFrom, hc, if_neg Bool.false_ne_true]
  rfl

theorem strip_cons_space {c : CodePoint} (hc : isSpace c = true) (s : PyStr) : strip (c :: s) = strip s := by
  unfold strip
  rw [List.dropWhile_cons_of_pos hc]

theorem strip_concat_space {c : CodePoint} (hc : isSpace c = true) (s : PyStr) :
    strip (s ++ [c]) = strip s := by
  unfold strip
  rw [List.dropWhile_append]
  by_cases hs : (s.dropWhile isSpace).isEmpty = true
  · rw [if_pos hs, List.isEmpty_iff.mp hs, List.dropWhile_cons_of_pos hc]
    rfl
  · rw [if_neg hs, List.reverse_append, List.reverse_singleton, List.singleton_append,
      List.dropWhile_cons_of_pos hc]

/-- Stripping the collapsed text leaves its words, joined by one space. -/
theorem strip_collapse (s : PyStr) : strip (collapse s) = joinWith [space] (split s) := by
  have hrun : ∀ t : PyStr, strip (collapseFrom true t) = joinWith [space] (split t) := by
    intro t
    rw [collapseFrom_true]
    split_ifs
    · rw [strip_concat_space isSpace_space, strip_joinWith (split_words t)]
    · rw [List.append_nil, strip_joinWith (split_words t)]
  cases s with
  | nil => rfl
  | cons c s =>
    unfold collapse
    by_cases hc : isSpace c = true
    · rw [collapseFrom, if_pos hc, if_neg Bool.false_ne_true, strip_cons_space isSpace_space,
        split_cons_space hc]
      exact hrun s
    · -- without white space in front it makes no difference whether a run was open
      have hopen : collapseFrom false (c :: s) = collapseFrom true (c :: s) := by
        rw [collapseFrom, collapseFrom, if_neg hc, if_neg hc]
      rw [hopen]
      exact hrun (c :: s)

theorem rstripOf_spec (chars s : PyStr) :
    ∃ p, s = rstripOf chars s ++ p ∧ (∀ c ∈ p, c ∈ chars) ∧
      ∀ c, (rstripOf chars s).getLast? = some c → c ∉ chars := by
  refine ⟨(s.reverse.takeWhile (· ∈ chars)).reverse, ?_, fun c hc => ?_, fun c hc => ?_⟩
  · have h := congrArg List.reverse (@List.takeWhile_append_dropWhile _ (fun c => decide (c ∈ chars)) s.reverse)
    rw [List.reverse_append, List.reverse_reverse] at h
    exact h.symm
  · exact of_decide_eq_true (@List.mem_takeWhile_imp _ (fun c => decide (c ∈ chars)) _ _ (List.mem_reverse.mp hc))
  · unfold rstripOf at hc
    rw [List.getLast?_reverse] at hc
    have h := List.head?_dropWhile_not (fun c => decide (c ∈ chars)) s.reverse
    rw [hc] at h
    simpa using h

theorem Unicode.lower_joinWith (u : Unicode) {ws : List PyStr} (h : ∀ w ∈ ws, IsWord w) :
    u.lower (joinWith [space] ws) = joinWith [space] (ws.map u.lower) := by
  induction ws with
  | nil => exact u.lower_nil
  | cons w ws ih =>
    have ih := ih fun v hv => h v (List.mem_cons_of_mem w hv)
    by_cases hws : ws = []
    · rw [hws, List.map_singleton, joinWith_singleton, joinWith_singleton]
    · have hmap : ws.map u.lower ≠ [] := fun e => hws (List.map_eq_nil_iff.mp e)
      rw [List.map_cons, joinWith_cons [space] w hws, joinWith_cons [space] (u.lower w) hmap,
        List.singleton_append, List.singleton_append, u.lower_space w space _ isSpace_space, ih]

end Py
