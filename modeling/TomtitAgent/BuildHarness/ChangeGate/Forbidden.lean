import TomtitAgent.BuildHarness.ChangeGate.Spec

/-!
# Forbidden paths and their spellings

The changed paths are normalised before they are matched, the patterns of the contract are not.

* `pathMatches_plain`     a pattern without metacharacters matches itself alone;
* `aliasInput`            the input that changes one path under a contract that forbids one path;
* `forbidden_blocks_iff`  a forbidden path blocks every spelling exactly when it is written in its
                          normal form.
-/

open Py

namespace Tomtit

theorem pathMatches_plain {pattern : PyStr} (h : PlainPattern pattern) (file : PyStr) :
    pathMatches file pattern = decide (file = pattern) := by
  have hsuffix : ¬ (py "/**").isSuffixOf pattern = true := by
    rw [List.isSuffixOf_iff_suffix, py_ofList]
    rintro ⟨init, rfl⟩
    exact (h 42 (List.mem_append_right _ (List.mem_cons_of_mem _ List.mem_cons_self))).1 rfl
  unfold pathMatches
  rw [if_neg hsuffix, fnmatch_plain h]

section
variable (rt : Runtime)

/-- A task that changes `q` under a contract that forbids `p` and nothing else. -/
def aliasInput (p q : PyStr) : ChangeGateInput where
  contract := { taskId := py "t1", title := py "t", goal := py "g", forbiddenPaths := [p],
                acceptanceCriteria := [py "done"], broadScopeAllowed := true }
  changedFiles := [q]

theorem aliasInput_renderable (p q : PyStr) : Renderable rt (aliasInput p q) :=
  ⟨fun _ hev => absurd hev List.not_mem_nil, fun _ hreq => absurd hreq List.not_mem_nil⟩

theorem aliasInput_not_blocked {p r : PyStr} (hplain : PlainPattern p)
    (hp : normalizeRepoPath rt p = .ok r) (hne : p ≠ r) : ¬ Blocked rt (aliasInput p p) := by
  rintro (⟨raw, hraw, hbad⟩ | ⟨raw, hraw, f, hf, hbad⟩ | ⟨ev, hev, _⟩ | ⟨eid, hcount⟩)
  · rw [List.mem_singleton.mp hraw] at hbad
    exact hbad r hp
  · rw [List.mem_singleton.mp hraw, hp] at hf
    obtain rfl := Except.ok.inj hf
    obtain ⟨pattern, hmem, hmatch⟩ := List.any_eq_true.mp hbad
    rw [List.mem_singleton.mp hmem, pathMatches_plain hplain, decide_eq_true_eq] at hmatch
    exact hne hmatch.symm
  · exact List.not_mem_nil hev
  · exact absurd hcount (by show ¬ 1 < List.count eid []; simp)

theorem blocked_of_forbidden {p : PyStr} (hplain : PlainPattern p) {i : ChangeGateInput}
    (hmem : p ∈ i.contract.forbiddenPaths) {q : PyStr} (hq : q ∈ i.changedFiles)
    (hqp : normalizeRepoPath rt q = .ok p) : Blocked rt i := by
  refine Or.inr (Or.inl ⟨q, hq, p, hqp, List.any_eq_true.mpr ⟨p, hmem, ?_⟩⟩)
  rw [pathMatches_plain hplain]
  exact decide_eq_true rfl

/-- **A forbidden path, however it is spelled.**  The contracts that forbid `p` block every change
of a path with the same normal form exactly when `p` is written in that normal form. -/
theorem forbidden_blocks_iff (p r : PyStr) (hplain : PlainPattern p)
    (hp : normalizeRepoPath rt p = .ok r) :
    (∀ i : ChangeGateInput, Renderable rt i → p ∈ i.contract.forbiddenPaths →
      ∀ q ∈ i.changedFiles, normalizeRepoPath rt q = normalizeRepoPath rt p →
        ∃ d, evaluateChangeGate rt i = .ok d ∧ d.decision = py "BLOCK") ↔ p = r := by
  constructor
  · intro h
    by_contra hne
    obtain ⟨d, hd, hblock⟩ := h (aliasInput p p) (aliasInput_renderable rt p p) List.mem_cons_self p
      List.mem_cons_self rfl
    exact aliasInput_not_blocked rt hplain hp hne ((evaluateChangeGate_gateSpec rt hd).block.mp hblock)
  · rintro rfl i hrender hmem q hq hqp
    obtain ⟨d, hd⟩ := (exists_evaluateChangeGate rt i).mpr hrender
    exact ⟨d, hd, (evaluateChangeGate_gateSpec rt hd).block.mpr
      (blocked_of_forbidden rt hplain hmem hq (hqp.trans hp))⟩

end

theorem plainPattern_lit (l : List Char)
    (h : (l.map CodePoint.ofChar).all (fun c => c ≠ 42 && c ≠ 63 && c ≠ 91) = true) :
    PlainPattern (py (String.ofList l)) := by
  rw [py_ofList]
  intro c hc
  have hall := List.all_eq_true.mp h c hc
  simp only [Bool.and_eq_true, decide_eq_true_eq] at hall
  exact ⟨hall.1.1, hall.1.2, hall.2⟩

/-- `.env` is in normal form: a change of `./.env` is blocked. -/
theorem forbidden_blocks_env : ∃ d,
    evaluateChangeGate (small 4300) (aliasInput (py ".env") (py "./.env")) = .ok d ∧
      d.decision = py "BLOCK" := by
  have hp : normalizeRepoPath (small 4300) (py ".env") = .ok (py ".env") := by
    rw [py_ofList]
    rfl
  have hq : normalizeRepoPath (small 4300) (py "./.env") = .ok (py ".env") := by
    rw [py_ofList, py_ofList]
    rfl
  exact (forbidden_blocks_iff (small 4300) _ _ (plainPattern_lit _ (by decide)) hp).mpr rfl _
    (aliasInput_renderable (small 4300) _ _) List.mem_cons_self _ List.mem_cons_self
    (hq.trans hp.symm)

/-- The contract forbids `./.env`, and the change of `./.env` is not blocked. -/
theorem forbidden_alias_passes :
    ¬ ∀ (p : PyStr) (i : ChangeGateInput), PlainPattern p →
      (∃ r, normalizeRepoPath (small 4300) p = .ok r) → p ∈ i.contract.forbiddenPaths →
      ∀ q ∈ i.changedFiles, normalizeRepoPath (small 4300) q = normalizeRepoPath (small 4300) p →
        ∃ d, evaluateChangeGate (small 4300) i = .ok d ∧ d.decision = py "BLOCK" := by
  intro h
  have hplain : PlainPattern (py "./.env") := plainPattern_lit _ (by decide)
  have hp : normalizeRepoPath (small 4300) (py "./.env") = .ok (py ".env") := by
    rw [py_ofList, py_ofList]
    rfl
  obtain ⟨d, hd, hblock⟩ := h _ (aliasInput (py "./.env") (py "./.env")) hplain ⟨_, hp⟩ List.mem_cons_self _
    List.mem_cons_self rfl
  exact aliasInput_not_blocked (small 4300) hplain hp (by simp)
    ((evaluateChangeGate_gateSpec (small 4300) hd).block.mp hblock)

end Tomtit
