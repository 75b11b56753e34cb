import TomtitAgent.Python.Collapse
import Mathlib.Data.List.Chain

/-!
# Phrases of a text

* `Tight`    white space is single spaces, and collapsing changes nothing;
* `Phrase`   a text stands in another one between edges, such as white space and punctuation;
* `phrase_strip`, `phrase_rstripOf`, `phrase_splitSep`, `phrase_tail`, `phrase_init`   what the string methods cut out of a
             text stands in it.
-/

namespace Py

/-- White space is spaces, no two of them side by side. -/
structure Tight (s : PyStr) : Prop where
  single : s.IsChain fun c d => isSpace c = false ∨ isSpace d = false
  spaces : ∀ c ∈ s, isSpace c = true → c = space

theorem Tight.part {s t : PyStr} (h : Tight s) (ht : t <:+: s) : Tight t := by
  refine ⟨?_, fun c hc => h.spaces c (ht.subset hc)⟩
  obtain ⟨a, b, rfl⟩ := ht
  exact h.single.left_of_append.right_of_append

theorem tight_collapseFrom (s : PyStr) : ∀ inRun, Tight (collapseFrom inRun s) ∧
    (inRun = true → (collapseFrom inRun s).head?.any isSpace = false) := by
  induction s with
  | nil => exact fun inRun => ⟨⟨List.isChain_nil, fun c hc => absurd hc List.not_mem_nil⟩, fun _ => rfl⟩
  | cons c s ih =>
    intro inRun
    rw [collapseFrom]
    by_cases hc : isSpace c = true
    · rw [if_pos hc]
      obtain ⟨htight, hhead⟩ := ih true
      cases inRun with
      | true => exact ⟨htight, hhead⟩
      | false =>
        refine ⟨⟨htight.single.cons fun d hd => .inr ?_, fun d hd _ => ?_⟩, fun h => Bool.noConfusion h⟩
        · have h := hhead rfl
          rw [Option.mem_def.mp hd] at h
          exact h
        · rcases List.mem_cons.mp hd with rfl | hd
          · rfl
          · exact htight.spaces d hd ‹_›
    · rw [if_neg hc]
      obtain ⟨htight, -⟩ := ih false
      have hc' : isSpace c = false := eq_false_of_ne_true hc
      refine ⟨⟨htight.single.cons fun d _ => .inl hc', fun d hd hspace => ?_⟩, fun _ => hc'⟩
      rcases List.mem_cons.mp hd with rfl | hd
      · exact absurd hspace hc
      · exact htight.spaces d hd hspace

theorem tight_collapse (s : PyStr) : Tight (collapse s) := (tight_collapseFrom s false).1

theorem Tight.collapseFrom_eq (s : PyStr) : ∀ inRun, Tight s →
    (inRun = true → s.head?.any isSpace = false) → collapseFrom inRun s = s := by
  induction s with
  | nil => exact fun inRun _ _ => rfl
  | cons c s ih =>
    intro inRun htight hhead
    rw [collapseFrom]
    have htail : Tight s := htight.part (List.suffix_cons c s).isInfix
    by_cases hc : isSpace c = true
    · rw [if_pos hc]
      have hnone : s.head?.any isSpace = false := by
        cases s with
        | nil => rfl
        | cons d s =>
          rcases (List.isChain_cons_cons.mp htight.single).1 with h | h
          · exact absurd hc (by rw [h]; exact Bool.false_ne_true)
          · exact h
      cases inRun with
      | true => exact absurd hc (by rw [show isSpace c = false from hhead rfl]; exact Bool.false_ne_true)
      | false =>
        rw [if_neg Bool.false_ne_true, ih true htail fun _ => hnone, htight.spaces c List.mem_cons_self hc]
    · rw [if_neg hc, ih false htail fun h => Bool.noConfusion h]

theorem Tight.collapse {s : PyStr} (h : Tight s) : collapse s = s :=
  Tight.collapseFrom_eq s false h fun h => Bool.noConfusion h

theorem Tight.joinWith_split {s : PyStr} (h : Tight s) : joinWith [space] (split s) = strip s := by
  rw [← strip_collapse, h.collapse]

theorem joinWith_concat (sep w : PyStr) {ws : List PyStr} (h : ws ≠ []) :
    joinWith sep (ws ++ [w]) = joinWith sep ws ++ (sep ++ w) := by
  induction ws with
  | nil => exact absurd rfl h
  | cons v ws ih =>
    by_cases hws : ws = []
    · rw [hws, List.singleton_append, joinWith_cons sep v (List.cons_ne_nil w []), joinWith_singleton,
        joinWith_singleton]
    · rw [List.cons_append, joinWith_cons sep v (List.append_ne_nil_of_left_ne_nil hws [w]), ih hws,
        joinWith_cons sep v hws, List.append_assoc, List.append_assoc]

/-! ### what stands in a text -/

/-- The item stands in the text; what is beside it there is an edge. -/
def Phrase (edge : CodePoint → Bool) (text item : PyStr) : Prop :=
  ∃ x y, text = x ++ (item ++ y) ∧ x.getLast?.all edge = true ∧ y.head?.all edge = true

section
variable {edge : CodePoint → Bool} {s t u : PyStr}

theorem Phrase.refl (s : PyStr) : Phrase edge s s := ⟨[], [], (List.append_nil s).symm, rfl, rfl⟩

theorem getLast?_all_append {x y : PyStr} (hx : x.getLast?.all edge = true) (hy : y.getLast?.all edge = true) :
    (x ++ y).getLast?.all edge = true := by
  rw [List.getLast?_append]
  cases h : y.getLast? with
  | none => exact hx
  | some c => rw [h] at hy; exact hy

theorem head?_all_append {x y : PyStr} (hx : x.head?.all edge = true) (hy : y.head?.all edge = true) :
    (x ++ y).head?.all edge = true := by
  rw [List.head?_append]
  cases h : x.head? with
  | none => exact hy
  | some c => rw [h] at hx; exact hx

theorem Phrase.trans (hst : Phrase edge s t) (htu : Phrase edge t u) : Phrase edge s u := by
  obtain ⟨x, y, rfl, hx, hy⟩ := hst
  obtain ⟨x', y', rfl, hx', hy'⟩ := htu
  refine ⟨x ++ x', y' ++ y, ?_, getLast?_all_append hx hx', head?_all_append hy' hy⟩
  simp only [List.append_assoc]

theorem Phrase.isInfix (h : Phrase edge s t) : t <:+: s := by
  obtain ⟨x, y, rfl, -, -⟩ := h
  exact ⟨x, y, List.append_assoc x t y⟩

theorem getLast?_all_of_forall {x : PyStr} (h : ∀ c ∈ x, edge c = true) : x.getLast?.all edge = true := by
  cases hx : x.getLast? with
  | none => rfl
  | some c => exact h c (List.mem_of_getLast? hx)

theorem head?_all_of_forall {x : PyStr} (h : ∀ c ∈ x, edge c = true) : x.head?.all edge = true := by
  cases hx : x.head? with
  | none => rfl
  | some c => exact h c (List.mem_of_head? hx)

theorem phrase_strip (hspace : ∀ c, isSpace c = true → edge c = true) (s : PyStr) : Phrase edge s (strip s) := by
  obtain ⟨a, b, hs, ha, hb, -⟩ := strip_spec s
  refine ⟨a, b, ?_, getLast?_all_of_forall fun c hc => hspace c (ha c hc),
    head?_all_of_forall fun c hc => hspace c (hb c hc)⟩
  rw [← List.append_assoc]
  exact hs

theorem phrase_rstripOf {chars : PyStr} (hchars : ∀ c ∈ chars, edge c = true) (s : PyStr) :
    Phrase edge s (rstripOf chars s) := by
  obtain ⟨b, hs, hb, -⟩ := rstripOf_spec chars s
  exact ⟨[], b, hs, rfl, head?_all_of_forall fun c hc => hchars c (hb c hc)⟩

/-! ### the pieces of `split` -/

theorem splitSepFrom_skip (sep x t : PyStr) : splitSepFrom sep x.length [] (x ++ t) = splitSepFrom sep 0 [] t := by
  induction x with
  | nil => rfl
  | cons c x ih => exact ih

theorem mem_splitSepFrom {sep : PyStr} (hsep : sep ≠ []) (n : Nat) : ∀ (s cur : PyStr), s.length ≤ n →
    ∀ p ∈ splitSepFrom sep 0 cur s, ∃ x y, cur.reverse ++ s = x ++ (p ++ y) ∧
      (x = [] ∨ sep <:+ x) ∧ (y = [] ∨ sep <+: y) := by
  induction n with
  | zero =>
    intro s cur hs p hp
    rw [List.length_eq_zero_iff.mp (Nat.le_zero.mp hs), splitSepFrom] at hp
    rw [List.mem_singleton.mp hp, List.length_eq_zero_iff.mp (Nat.le_zero.mp hs)]
    exact ⟨[], [], rfl, .inl rfl, .inl rfl⟩
  | succ n ih =>
    intro s cur hs p hp
    cases s with
    | nil =>
      rw [splitSepFrom] at hp
      rw [List.mem_singleton.mp hp]
      exact ⟨[], [], rfl, .inl rfl, .inl rfl⟩
    | cons c s =>
      rw [splitSepFrom] at hp
      by_cases hpre : sep.isPrefixOf (c :: s) = true
      · rw [if_pos hpre] at hp
        obtain ⟨t, ht⟩ := List.isPrefixOf_iff_prefix.mp hpre
        obtain ⟨d, sep', rfl⟩ := List.exists_cons_of_ne_nil hsep
        rw [List.cons_append] at ht
        obtain ⟨rfl, rfl⟩ := List.cons.inj ht
        rcases List.mem_cons.mp hp with rfl | hp
        · exact ⟨[], _, rfl, .inl rfl, .inr (List.prefix_append _ t)⟩
        · rw [List.length_cons, Nat.add_sub_cancel, splitSepFrom_skip] at hp
          have hlen : t.length ≤ n := by
            rw [List.length_cons, List.length_append] at hs
            omega
          obtain ⟨x, y, hxy, hx, hy⟩ := ih t [] hlen p hp
          refine ⟨cur.reverse ++ (d :: sep' ++ x), y, ?_, .inr ?_, hy⟩
          · rw [List.reverse_nil, List.nil_append] at hxy
            rw [hxy]
            simp only [List.append_assoc, List.cons_append]
          · rcases hx with rfl | ⟨z, rfl⟩
            · exact ⟨cur.reverse, by rw [List.append_nil]⟩
            · exact ⟨cur.reverse ++ (d :: sep' ++ z), by simp only [List.append_assoc]⟩
      · rw [if_neg hpre] at hp
        obtain ⟨x, y, hxy, hxy'⟩ := ih s (c :: cur) (Nat.le_of_succ_le_succ hs) p hp
        rw [List.reverse_cons, List.append_assoc] at hxy
        exact ⟨x, y, hxy, hxy'⟩

theorem phrase_splitSep {sep p : PyStr} (hsep : ∃ c ∈ sep.head?, edge c = true)
    (hlast : ∃ c ∈ sep.getLast?, edge c = true) (hp : p ∈ splitSep sep s) : Phrase edge s p := by
  obtain ⟨c, hc, hedge⟩ := hsep
  obtain ⟨d, hd, hedge'⟩ := hlast
  have hne : sep ≠ [] := fun e => by rw [e] at hc; exact nomatch hc
  obtain ⟨x, y, hs, hx, hy⟩ := mem_splitSepFrom hne s.length s [] le_rfl p hp
  refine ⟨x, y, hs, ?_, ?_⟩
  · rcases hx with rfl | ⟨z, rfl⟩
    · rfl
    · rw [List.getLast?_append_of_ne_nil z hne, Option.mem_def.mp hd]
      exact hedge'
  · rcases hy with rfl | ⟨z, rfl⟩
    · rfl
    · rw [List.head?_append_of_ne_nil sep hne, Option.mem_def.mp hc]
      exact hedge

/-! ### words -/

/-- Without its first word. -/
theorem phrase_tail (hspace : edge space = true) (w : PyStr) {ws : List PyStr} (h : ws ≠ []) :
    Phrase edge (joinWith [space] (w :: ws)) (joinWith [space] ws) := by
  refine ⟨w ++ [space], [], ?_, ?_, rfl⟩
  · rw [joinWith_cons [space] w h, List.append_nil, List.append_assoc]
  · rw [List.getLast?_concat]
    exact hspace

/-- Without its last word. -/
theorem phrase_init (hspace : edge space = true) (w : PyStr) {ws : List PyStr} (h : ws ≠ []) :
    Phrase edge (joinWith [space] (ws ++ [w])) (joinWith [space] ws) :=
  ⟨[], space :: w, joinWith_concat [space] w h, rfl, hspace⟩

end

end Py
