import TomtitAgent.BuildHarness.ChangeGate.Spec

/-!
# The order of the changed files and of the evidence

* `SameUpToOrder`, `Extends`   two inputs that differ in the order of the two lists, and an input
                               with further entries;
* `SameOutcome`                the same decision, the same findings by type and file, the same
                               requirements matched and missing;
* `gateKeys_perm`              the findings of two inputs that differ in the order;
* `order_and_growth_iff`       order and growth of the lists decide at most whether the run raises.
-/

open Py

namespace Tomtit

/-- The changed files and the evidence of `i'` are those of `i` in another order. -/
structure SameUpToOrder (i i' : ChangeGateInput) : Prop where
  contract : i'.contract = i.contract
  testsRun : i'.testsRun = i.testsRun
  dependencies : i'.dependencyFilesChanged = i.dependencyFilesChanged
  expected : i'.expectedCommitSha = i.expectedCommitSha
  files : i.changedFiles.Perm i'.changedFiles
  evidence : i.testEvidence.Perm i'.testEvidence

/-- `i'` has the changed files and the evidence of `i`, and possibly more of both. -/
structure Extends (i i' : ChangeGateInput) : Prop where
  contract : i'.contract = i.contract
  files : i.changedFiles.Subperm i'.changedFiles
  evidence : i.testEvidence.Subperm i'.testEvidence

theorem SameUpToOrder.symm {i i' : ChangeGateInput} (h : SameUpToOrder i i') : SameUpToOrder i' i :=
  ⟨h.contract.symm, h.testsRun.symm, h.dependencies.symm, h.expected.symm, h.files.symm,
    h.evidence.symm⟩

theorem SameUpToOrder.extends {i i' : ChangeGateInput} (h : SameUpToOrder i i') : Extends i i' :=
  ⟨h.contract, h.files.subperm, h.evidence.subperm⟩

def Finding.key (f : Finding) : PyStr × Option PyStr := (f.type, f.file)

structure SameDecision (d d' : ChangeGateDecision) : Prop where
  decision : d.decision = d'.decision
  findings : (d.findings.map Finding.key).Perm (d'.findings.map Finding.key)
  matched : d.matchedRequiredEvidence = d'.matchedRequiredEvidence
  missing : d.missingRequiredEvidence = d'.missingRequiredEvidence

/-- Both runs raise, or both return the same decision. -/
def SameOutcome : Except PyExc ChangeGateDecision → Except PyExc ChangeGateDecision → Prop
  | .ok d, .ok d' => SameDecision d d'
  | .error _, .error _ => True
  | _, _ => False

section
variable (rt : Runtime)

/-! ### the decision -/

theorem count_validIds_le {evs evs' : List PyVal} (h : evs.Subperm evs') (eid : PyStr) :
    (validIds evs).count eid ≤ (validIds evs').count eid := by
  obtain ⟨mid, hperm, hsub⟩ := h
  unfold validIds
  rw [← (hperm.filterMap _).count_eq]
  exact (hsub.filterMap _).count_le eid

theorem Blocked.extend {i i' : ChangeGateInput} (h : Extends i i') (hb : Blocked rt i) :
    Blocked rt i' := by
  unfold Blocked
  rw [h.contract]
  rcases hb with ⟨raw, hraw, hbad⟩ | ⟨raw, hraw, hf⟩ | ⟨ev, hev, hbad⟩ | ⟨eid, hcount⟩
  · exact Or.inl ⟨raw, h.files.subset hraw, hbad⟩
  · exact Or.inr (Or.inl ⟨raw, h.files.subset hraw, hf⟩)
  · exact Or.inr (Or.inr (Or.inl ⟨ev, h.evidence.subset hev, hbad⟩))
  · exact Or.inr (Or.inr (Or.inr ⟨eid, hcount.trans_le (count_validIds_le h.evidence eid)⟩))

theorem SameUpToOrder.blocked {i i' : ChangeGateInput} (h : SameUpToOrder i i') :
    Blocked rt i ↔ Blocked rt i' :=
  ⟨Blocked.extend rt h.extends, Blocked.extend rt h.symm.extends⟩

theorem SameUpToOrder.satisfies {i i' : ChangeGateInput} (h : SameUpToOrder i i') {required : PyStr}
    {ev : CommandEvidence} : Satisfies i required ev ↔ Satisfies i' required ev := by
  constructor
  · rintro ⟨h1, h2, h3, h4, h5⟩
    exact ⟨h1, h2, h3, by rw [h.expected]; exact h4, by rw [h.expected]; exact h5⟩
  · rintro ⟨h1, h2, h3, h4, h5⟩
    rw [h.expected] at h4 h5
    exact ⟨h1, h2, h3, h4, h5⟩

theorem SameUpToOrder.passing_of {i i' : ChangeGateInput} (h : SameUpToOrder i i')
    (hp : Passing rt i) : Passing rt i' where
  not_blocked := fun hb => hp.not_blocked ((h.blocked rt).mpr hb)
  changed := fun hnil => hp.changed (hnil ▸ h.files).eq_nil
  scope raw hraw f hf := by
    rw [h.contract]
    exact hp.scope raw (h.files.mem_iff.mpr hraw) f hf
  dependencies hreq := by
    rw [h.contract] at hreq
    rw [h.dependencies]
    exact ⟨(hp.dependencies hreq).1, fun raw hraw f hf =>
      (hp.dependencies hreq).2 raw (h.files.mem_iff.mpr hraw) f hf⟩
  evidence required hreq := by
    rw [h.contract] at hreq
    obtain ⟨ev, hev, hs⟩ := hp.evidence required hreq
    exact ⟨ev, h.evidence.mem_iff.mp hev, h.satisfies.mp hs⟩
  some_evidence := by
    rw [h.contract]
    exact hp.some_evidence.imp_left fun hne hnil => hne (hnil ▸ h.evidence).eq_nil

theorem SameUpToOrder.passing {i i' : ChangeGateInput} (h : SameUpToOrder i i') :
    Passing rt i ↔ Passing rt i' := ⟨h.passing_of rt, h.symm.passing_of rt⟩

theorem GateSpec.unique {i i' : ChangeGateInput} {d d' : PyStr} (h : GateSpec rt i d)
    (h' : GateSpec rt i' d') (hb : Blocked rt i ↔ Blocked rt i') (hp : Passing rt i ↔ Passing rt i') :
    d = d' := by
  by_cases hblock : Blocked rt i
  · rw [h.block.mpr hblock, h'.block.mpr (hb.mp hblock)]
  by_cases hpass : Passing rt i
  · rw [h.pass.mpr hpass, h'.pass.mpr (hp.mp hpass)]
  · rw [h.review.mpr ⟨hblock, hpass⟩, h'.review.mpr ⟨mt hb.mpr hblock, mt hp.mpr hpass⟩]

/-! ### the findings, one step of the run after the other -/

theorem scanChangedFiles_keys {acc raws : List PyStr} :
    (scanChangedFiles rt acc raws).1.map Finding.key =
      raws.filterMap fun raw => match normalizeRepoPath rt raw with
        | .error _ => some (py "invalid_changed_path", some raw)
        | .ok _ => none := by
  induction raws generalizing acc with
  | nil => rfl
  | cons raw raws ih =>
    rw [scanChangedFiles, List.filterMap_cons]
    cases normalizeRepoPath rt raw with
    | error exc =>
      show _ :: (scanChangedFiles rt acc raws).1.map Finding.key = _
      rw [ih]
      rfl
    | ok normalized => exact ih

theorem scanChangedFiles_nodup {acc raws : List PyStr} (h : acc.Nodup) :
    (scanChangedFiles rt acc raws).2.Nodup := by
  induction raws generalizing acc with
  | nil => exact h
  | cons raw raws ih =>
    rw [scanChangedFiles]
    cases normalizeRepoPath rt raw with
    | error exc => exact ih h
    | ok normalized =>
      refine ih ?_
      split_ifs with hmem
      · exact h
      · exact h.append (List.nodup_singleton _) (List.disjoint_singleton.mpr hmem)

theorem scanChangedFiles_perm {raws raws' : List PyStr} (h : raws.Perm raws') :
    (scanChangedFiles rt [] raws).2.Perm (scanChangedFiles rt [] raws').2 := by
  rw [List.perm_ext_iff_of_nodup (scanChangedFiles_nodup rt List.nodup_nil)
    (scanChangedFiles_nodup rt List.nodup_nil)]
  intro f
  rw [mem_scanChangedFiles, mem_scanChangedFiles]
  simp only [h.mem_iff]

theorem sortedSet_congr {xs ys : List PyStr} (h : ∀ a, a ∈ xs ↔ a ∈ ys) :
    sortedSet xs = sortedSet ys :=
  strict_sorted_ext (sortedSet_strict xs) (sortedSet_strict ys) fun a => by
    rw [mem_sortedSet, mem_sortedSet]
    exact h a

theorem dependencyFindings_perm {i i' : ChangeGateInput} (h : SameUpToOrder i i')
    {files files' : List PyStr} (hf : files.Perm files') :
    dependencyFindings i files = dependencyFindings i' files' := by
  have hfilter := hf.filter fun f => decide (pathName f ∈ dependencyFiles)
  have hperm := hfilter.append_left i.dependencyFilesChanged
  have hset := sortedSet_congr fun a => hperm.mem_iff (a := a)
  have hnil : (i.dependencyFilesChanged ++ files.filter fun f => decide (pathName f ∈ dependencyFiles)) = []
      ↔ (i.dependencyFilesChanged ++
        files'.filter fun f => decide (pathName f ∈ dependencyFiles)) = [] :=
    ⟨fun e => (e ▸ hperm).symm.eq_nil, fun e => (e ▸ hperm).eq_nil⟩
  unfold dependencyFindings
  dsimp only
  rw [h.dependencies, h.contract, hset]
  simp only [ne_eq, hnil]

theorem keys_perm_of_const {fs fs' : List Finding} {k : PyStr × Option PyStr}
    (h : ∀ f ∈ fs, f.key = k) (h' : ∀ f ∈ fs', f.key = k) (hlen : fs.length = fs'.length) :
    (fs.map Finding.key).Perm (fs'.map Finding.key) := by
  rw [List.map_eq_replicate_iff.mpr h, List.map_eq_replicate_iff.mpr h', hlen]

theorem rejectBody_key {index : Nat} {ev : PyVal} {x : RejectedEvidence × Finding}
    (h : rejectBody rt index ev = .ok (some x)) : x.2.key = (py "invalid_evidence", none) := by
  obtain ⟨malformed, _, h⟩ := bind_eq_ok.mp h
  cases malformed with
  | none => cases Except.ok.inj h
  | some text =>
    obtain ⟨command, _, h⟩ := bind_eq_ok.mp h
    rw [← Option.some.inj (Except.ok.inj h)]
    rfl

theorem validateBodies_keys {index : Nat} {evs : List PyVal}
    {bodies : List (PyVal × Option (RejectedEvidence × Finding))}
    (h : validateBodies rt index evs = .ok bodies) :
    ∀ f ∈ bodies.filterMap (fun body => body.2.map Prod.snd), f.key = (py "invalid_evidence", none) := by
  induction evs generalizing index bodies with
  | nil =>
    rw [← Except.ok.inj h]
    exact fun _ hf => absurd hf List.not_mem_nil
  | cons ev evs ih =>
    obtain ⟨r, hr, h⟩ := bind_eq_ok.mp h
    obtain ⟨rest, hrest, h⟩ := bind_eq_ok.mp h
    rw [← Except.ok.inj h, List.filterMap_cons]
    cases r with
    | none => exact ih hrest
    | some x => exact List.forall_mem_cons.mpr ⟨rejectBody_key rt hr, ih hrest⟩

theorem BodiesOf.length_findings {evs : List PyVal}
    {bodies : List (PyVal × Option (RejectedEvidence × Finding))} (h : BodiesOf evs bodies) :
    (bodies.filterMap fun body => body.2.map Prod.snd).length =
      evs.countP fun ev => !wellFormedEvidence ev := by
  rw [List.length_filterMap_eq_countP, ← h.records, List.countP_map]
  refine List.countP_congr fun body hb => ?_
  have hv := h.verdict body hb
  rw [Function.comp_apply, ← hv, Option.isSome_map]
  cases body.2 <;> rfl

theorem mem_duplicateIds {evs : List PyVal} {eid : PyStr} :
    eid ∈ duplicateIds evs ↔ 1 < (validIds evs).count eid := by
  unfold duplicateIds
  rw [List.mem_filter, List.mem_dedup, decide_eq_true_eq, and_iff_right_iff_imp]
  exact fun h => List.count_pos_iff.mp (by omega)

theorem mem_duplicateIds_perm {evs evs' : List PyVal} (h : evs.Perm evs') (eid : PyStr) :
    eid ∈ duplicateIds evs ↔ eid ∈ duplicateIds evs' := by
  rw [mem_duplicateIds, mem_duplicateIds, show validIds evs = evs.filterMap _ from rfl,
    (h.filterMap _).count_eq]
  rfl

theorem duplicateIds_perm {evs evs' : List PyVal} (h : evs.Perm evs') :
    (duplicateIds evs).Perm (duplicateIds evs') :=
  (List.perm_ext_iff_of_nodup ((List.nodup_dedup _).filter _) ((List.nodup_dedup _).filter _)).mpr
    (mem_duplicateIds_perm h)

def Proven (i : ChangeGateInput) (required : PyStr) : Prop :=
  ∃ ev ∈ usableEvidence i, Counts i required ev ∧ Satisfies i required ev

theorem SameUpToOrder.proven {i i' : ChangeGateInput} (h : SameUpToOrder i i') (required : PyStr) :
    Proven i required ↔ Proven i' required := by
  have husable : (usableEvidence i).Perm (usableEvidence i') :=
    (h.evidence.filter wellFormedEvidence).map CommandEvidence.ofObject
  refine exists_congr fun ev => and_congr husable.mem_iff (and_congr ?_ h.satisfies)
  unfold Counts
  rw [mem_duplicateIds_perm h.evidence]

open Classical in
theorem OutcomesOf.requirements_with {i : ChangeGateInput} {requireds : List PyStr}
    {outcomes : List (PyStr × Bool × List RejectedEvidence)} (h : OutcomesOf i requireds outcomes)
    (b : Bool) : (outcomes.filter fun o => o.2.1 = b).map Prod.fst =
      requireds.filter fun required => decide (Proven i required) = b := by
  rw [← h.requirements, List.filter_map]
  congr 1
  refine List.filter_congr fun o ho => ?_
  have hs : o.2.1 = decide (Proven i o.1) := by
    rw [Bool.eq_iff_iff, decide_eq_true_eq]
    exact h.satisfied o ho
  rw [Function.comp_apply, hs]

theorem OutcomesOf.congr {i i' : ChangeGateInput} {requireds : List PyStr}
    {outcomes outcomes' : List (PyStr × Bool × List RejectedEvidence)} (hi : SameUpToOrder i i')
    (h : OutcomesOf i requireds outcomes) (h' : OutcomesOf i' requireds outcomes') (b : Bool) :
    (outcomes.filter fun o => o.2.1 = b).map Prod.fst =
      (outcomes'.filter fun o => o.2.1 = b).map Prod.fst := by
  rw [h.requirements_with, h'.requirements_with]
  refine List.filter_congr fun required _ => ?_
  rw [decide_eq_decide.mpr (hi.proven required)]

/-- The order of the two lists moves the findings about, and changes none. -/
theorem gateKeys_perm {i i' : ChangeGateInput} (h : SameUpToOrder i i')
    {bodies bodies' : List (PyVal × Option (RejectedEvidence × Finding))}
    {outcomes outcomes' : List (PyStr × Bool × List RejectedEvidence)}
    (hb : validateBodies rt 0 i.testEvidence = .ok bodies)
    (hb' : validateBodies rt 0 i'.testEvidence = .ok bodies')
    (ho : OutcomesOf i i.contract.requiredEvidence outcomes)
    (ho' : OutcomesOf i' i.contract.requiredEvidence outcomes') :
    ((gateFindings rt i bodies outcomes).map Finding.key).Perm
      ((gateFindings rt i' bodies' outcomes').map Finding.key) := by
  have hscan : ((scanChangedFiles rt [] i.changedFiles).1.map Finding.key).Perm
      ((scanChangedFiles rt [] i'.changedFiles).1.map Finding.key) := by
    rw [scanChangedFiles_keys, scanChangedFiles_keys]
    exact h.files.filterMap _
  have hfiles := scanChangedFiles_perm rt h.files
  have hnone : i.changedFiles = [] ↔ i'.changedFiles = [] :=
    ⟨fun e => (e ▸ h.files).symm.eq_nil, fun e => (e ▸ h.files).eq_nil⟩
  have hscope : (((scanChangedFiles rt [] i.changedFiles).2.flatMap
      (scopeFindings i.contract)).map Finding.key).Perm
      (((scanChangedFiles rt [] i'.changedFiles).2.flatMap
        (scopeFindings i.contract)).map Finding.key) := (hfiles.flatMap_right _).map _
  have hdep := dependencyFindings_perm h hfiles
  have hbodies := keys_perm_of_const (validateBodies_keys rt hb) (validateBodies_keys rt hb') (by
    rw [(validateBodies_ok rt hb).length_findings, (validateBodies_ok rt hb').length_findings,
      h.evidence.countP_eq])
  have hdup := @keys_perm_of_const ((sorted (duplicateIds i.testEvidence)).map
      (duplicateFinding rt i.testEvidence)) ((sorted (duplicateIds i'.testEvidence)).map
      (duplicateFinding rt i'.testEvidence)) (py "duplicate_evidence_id", none)
    (List.forall_mem_map.mpr fun _ _ => rfl) (List.forall_mem_map.mpr fun _ _ => rfl) (by
      rw [List.length_map, List.length_map, (sorted_perm _).length_eq, (sorted_perm _).length_eq,
        (duplicateIds_perm h.evidence).length_eq])
  have hmissing := @keys_perm_of_const
    ((outcomes.filter fun o => o.2.1 = false).map fun o => missingFinding i o.1)
    ((outcomes'.filter fun o => o.2.1 = false).map fun o => missingFinding i' o.1)
    (py "missing_evidence", none)
    (List.forall_mem_map.mpr fun _ _ => rfl) (List.forall_mem_map.mpr fun _ _ => rfl) (by
      have hlen := congrArg List.length (ho.congr h ho' false)
      rw [List.length_map, List.length_map] at hlen
      rw [List.length_map, List.length_map, hlen])
  have hempty : i.testEvidence = [] ↔ i'.testEvidence = [] :=
    ⟨fun e => (e ▸ h.evidence).symm.eq_nil, fun e => (e ▸ h.evidence).eq_nil⟩
  unfold gateFindings
  dsimp only
  simp only [List.map_append, hdep, hnone, hempty, h.contract]
  exact ((((((hscan.append_right _).append hscope).append_right _).append hbodies).append
    hdup).append hmissing).append_right _

theorem sameDecision {i i' : ChangeGateInput} (h : SameUpToOrder i i') {d d' : ChangeGateDecision}
    (hd : evaluateChangeGate rt i = .ok d) (hd' : evaluateChangeGate rt i' = .ok d') :
    SameDecision d d' := by
  have hdecision := GateSpec.unique rt (evaluateChangeGate_gateSpec rt hd)
    (evaluateChangeGate_gateSpec rt hd') (h.blocked rt) (h.passing rt)
  obtain ⟨bodies, hb, hd⟩ := bind_eq_ok.mp hd
  obtain ⟨outcomes, ho, hd⟩ := bind_eq_ok.mp hd
  obtain ⟨bodies', hb', hd'⟩ := bind_eq_ok.mp hd'
  obtain ⟨outcomes', ho', hd'⟩ := bind_eq_ok.mp hd'
  rw [(validateBodies_ok rt hb).usable] at ho
  rw [(validateBodies_ok rt hb').usable, h.contract] at ho'
  have hout := matchRequirements_ok rt ho
  have hout' := matchRequirements_ok rt ho'
  obtain rfl := Except.ok.inj hd
  obtain rfl := Except.ok.inj hd'
  exact ⟨hdecision, gateKeys_perm rt h hb hb' hout hout', hout.congr h hout' true,
    hout.congr h hout' false⟩

/-- **Order and growth.**  Two inputs that differ in the order of the lists have the same outcome
exactly when the messages of both runs can be rendered or those of neither; and a blocked input
stays blocked under further entries exactly when the messages of the longer run can be rendered. -/
theorem order_and_growth_iff :
    (∀ i i', SameUpToOrder i i' →
      (SameOutcome (evaluateChangeGate rt i) (evaluateChangeGate rt i') ↔
        (Renderable rt i ↔ Renderable rt i'))) ∧
    ∀ i i' d, Extends i i' → evaluateChangeGate rt i = .ok d → d.decision = py "BLOCK" →
      ((∃ d', evaluateChangeGate rt i' = .ok d' ∧ d'.decision = py "BLOCK") ↔ Renderable rt i') := by
  refine ⟨fun i i' h => ?_, fun i i' d h hd hblock => ?_⟩
  · rw [← exists_evaluateChangeGate, ← exists_evaluateChangeGate]
    cases hd : evaluateChangeGate rt i with
    | ok d =>
      cases hd' : evaluateChangeGate rt i' with
      | ok d' => exact iff_of_true (sameDecision rt h hd hd') (iff_of_true ⟨d, rfl⟩ ⟨d', rfl⟩)
      | error e' =>
        refine iff_of_false (fun hn => hn) fun hn => ?_
        obtain ⟨d', hd'⟩ := hn.mp ⟨d, rfl⟩
        cases hd'
    | error e =>
      cases hd' : evaluateChangeGate rt i' with
      | ok d' =>
        refine iff_of_false (fun hn => hn) fun hn => ?_
        obtain ⟨d, hd⟩ := hn.mpr ⟨d', rfl⟩
        cases hd
      | error e' =>
        refine iff_of_true trivial (iff_of_false ?_ ?_)
        · rintro ⟨d, hd⟩
          cases hd
        · rintro ⟨d, hd⟩
          cases hd
  · have hb := Blocked.extend rt h ((evaluateChangeGate_gateSpec rt hd).block.mp hblock)
    rw [← exists_evaluateChangeGate]
    constructor
    · rintro ⟨d', hd', _⟩
      exact ⟨d', hd'⟩
    · rintro ⟨d', hd'⟩
      exact ⟨d', hd', (evaluateChangeGate_gateSpec rt hd').block.mpr hb⟩

end

/-! ### two orders of two lists -/

/-- A change of `files` under a contract that forbids `.env`. -/
def envInput (files : List PyStr) : ChangeGateInput where
  contract := { taskId := py "t1", title := py "t", goal := py "g", forbiddenPaths := [py ".env"],
                acceptanceCriteria := [py "done"], broadScopeAllowed := true }
  changedFiles := files

theorem envInput_renderable {rt : Runtime} (files : List PyStr) : Renderable rt (envInput files) :=
  ⟨fun _ hev => absurd hev List.not_mem_nil, fun _ hreq => absurd hreq List.not_mem_nil⟩

theorem envInput_blocked {rt : Runtime} : Blocked rt (envInput [py ".env"]) := by
  have hp : normalizeRepoPath rt (py ".env") = .ok (py ".env") := by
    rw [py_ofList]
    rfl
  have hmatch : pathMatches (py ".env") (py ".env") = true := by
    unfold pathMatches
    rw [py_ofList, py_ofList]
    rfl
  refine Or.inr (Or.inl ⟨py ".env", List.mem_cons_self, py ".env", hp, ?_⟩)
  exact List.any_eq_true.mpr ⟨py ".env", List.mem_cons_self, hmatch⟩

theorem envInput_swap (a b : PyStr) : SameUpToOrder (envInput [a, b]) (envInput [b, a]) :=
  ⟨rfl, rfl, rfl, rfl, List.Perm.swap _ _ _, List.Perm.refl _⟩

theorem envInput_extends (a b : PyStr) : Extends (envInput [a]) (envInput [a, b]) :=
  ⟨rfl, (List.Sublist.cons_cons _ (List.nil_sublist _)).subperm, List.Subperm.refl _⟩

/-- `.env` and `a.py` in both orders, and `a.py` added to `.env`. -/
theorem order_and_growth_env :
    SameOutcome (evaluateChangeGate (small 4300) (envInput [py ".env", py "a.py"]))
      (evaluateChangeGate (small 4300) (envInput [py "a.py", py ".env"])) ∧
    ∃ d, evaluateChangeGate (small 4300) (envInput [py ".env", py "a.py"]) = .ok d ∧
      d.decision = py "BLOCK" := by
  obtain ⟨d, hd⟩ := (exists_evaluateChangeGate (small 4300) _).mpr (envInput_renderable [py ".env"])
  have hblock := (evaluateChangeGate_gateSpec (small 4300) hd).block.mpr envInput_blocked
  obtain ⟨horder, hgrowth⟩ := order_and_growth_iff (small 4300)
  exact ⟨(horder _ _ (envInput_swap _ _)).mpr (iff_of_true (envInput_renderable _) (envInput_renderable _)),
    (hgrowth _ _ d (envInput_extends _ _) hd hblock).mpr (envInput_renderable _)⟩

/-- A run of `pytest` under the identifier `e2`. -/
def rerun (exitCode : Int) : PyVal :=
  .obj (py "CommandEvidence") (py "CommandEvidence(...)")
    [(py "command", .str (py "pytest")), (py "exit_code", .int exitCode),
     (py "completed", .bool true), (py "commit_sha", .str (py "abc")),
     (py "evidence_id", .str (py "e2")), (py "completed_at", .none),
     (py "artifact_digest", .none)]

theorem rerun_wellFormed (exitCode : Int) : wellFormedEvidence (rerun exitCode) = true := by
  have hcommand : strip (py "pytest") ≠ [] := by rw [py_ofList]; decide
  have hsha : strip (py "abc") ≠ [] := by rw [py_ofList]; decide
  have hid : strip (py "e2") ≠ [] := by rw [py_ofList]; decide
  have hre : isValidEvidenceId (py "e2") = true := by rw [py_ofList]; decide
  simp [wellFormedEvidence, rerun, attr_cons, isText, isInt, isBool, isOptText, isEvidenceId,
    hcommand, hsha, hid, hre]

theorem rerun_ofObject (exitCode : Int) : CommandEvidence.ofObject (rerun exitCode) =
    ⟨py "pytest", exitCode, true, py "abc", py "e2"⟩ := by
  simp [CommandEvidence.ofObject, rerun, attr_cons, PyVal.asStr]

/-- The requirement `pytest` with a passing run and another one. -/
def racingInput (runs : List PyVal) : ChangeGateInput := { pytestInput 0 with testEvidence := runs }

theorem racingInput_distinct {runs : List PyVal} {n : Int}
    (h : runs.Perm [pytestRun 0, rerun n]) : duplicateIds runs = [] := by
  have hids : validIds [pytestRun 0, rerun n] = [py "e1", py "e2"] := by
    have h1 : isValidEvidenceId (py "e1") = true := by rw [py_ofList]; decide
    have h2 : isValidEvidenceId (py "e2") = true := by rw [py_ofList]; decide
    simp [validIds, pytestRun, rerun, attr_cons, h1, h2]
  have hnd : (validIds runs).Nodup := by
    have hperm : (validIds runs).Perm (validIds [pytestRun 0, rerun n]) := h.filterMap _
    rw [hperm.nodup_iff, hids]
    simp
  rw [duplicateIds_nil]
  rintro ⟨eid, hc⟩
  exact absurd (List.nodup_iff_count_le_one.mp hnd eid) (by omega)

theorem racingInput_bodies {runs : List PyVal} {n : Int}
    (h : runs.Perm [pytestRun 0, rerun n]) :
    ∀ ev ∈ runs, BodyRenders (small 4300) ev := by
  intro ev hev
  refine bodyRenders_of_wellFormed _ ?_
  have hmem := h.mem_iff.mp hev
  rcases List.mem_cons.mp hmem with rfl | hmem
  · exact pytestRun_wellFormed 0
  · rw [List.mem_singleton.mp hmem]
    exact rerun_wellFormed _

theorem racingInput_first (n : Int) : Renderable (small 4300)
    (racingInput [pytestRun 0, rerun n]) := by
  have hdup := racingInput_distinct (List.Perm.refl [pytestRun 0, rerun n])
  refine ⟨racingInput_bodies (List.Perm.refl _), fun required hreq => ?_⟩
  have husable : usableEvidence (racingInput [pytestRun 0, rerun n]) =
      [⟨py "pytest", 0, true, py "abc", py "e1"⟩, ⟨py "pytest", n, true, py "abc", py "e2"⟩] := by
    show (List.filter wellFormedEvidence [pytestRun 0, rerun n]).map _ = _
    rw [List.filter_cons_of_pos (pytestRun_wellFormed 0),
      List.filter_cons_of_pos (rerun_wellFormed _), List.filter_nil]
    show [_, _] = _
    rw [pytestRun_ofObject, rerun_ofObject]
  rw [List.mem_singleton.mp hreq, husable]
  intro before ev after he hc _ hfit
  cases before with
  | nil =>
    obtain ⟨rfl, _⟩ := List.cons.inj he
    rw [intFits_zero] at hfit
    cases hfit
  | cons first before =>
    obtain ⟨rfl, _⟩ := List.cons.inj he
    refine ⟨_, List.mem_cons_self, ⟨?_, rfl⟩, rfl, rfl, rfl, ?_, rfl⟩
    · show py "e1" ∉ duplicateIds [pytestRun 0, rerun n]
      rw [hdup]
      exact List.not_mem_nil
    · show py "abc" ≠ []
      rw [py_ofList]
      exact List.cons_ne_nil _ _

theorem racingInput_last {n : Int} (hn : intFits (small 4300) n = false) : ¬ Renderable (small 4300)
    (racingInput [rerun n, pytestRun 0]) := by
  have hdup := racingInput_distinct (List.Perm.swap (pytestRun 0) (rerun n) [])
  rintro ⟨_, hscan⟩
  have husable : ∃ rest, usableEvidence (racingInput [rerun n, pytestRun 0]) =
      ⟨py "pytest", n, true, py "abc", py "e2"⟩ :: rest := by
    refine ⟨[⟨py "pytest", 0, true, py "abc", py "e1"⟩], ?_⟩
    show (List.filter wellFormedEvidence [rerun n, pytestRun 0]).map _ = _
    rw [List.filter_cons_of_pos (rerun_wellFormed _),
      List.filter_cons_of_pos (pytestRun_wellFormed 0), List.filter_nil]
    show [_, _] = _
    rw [pytestRun_ofObject, rerun_ofObject]
  obtain ⟨rest, husable⟩ := husable
  have hcounts : Counts (racingInput [rerun n, pytestRun 0]) (py "pytest")
      ⟨py "pytest", n, true, py "abc", py "e2"⟩ := by
    refine ⟨?_, rfl⟩
    show py "e2" ∉ duplicateIds [rerun n, pytestRun 0]
    rw [hdup]
    exact List.not_mem_nil
  obtain ⟨_, hmem, _⟩ := hscan (py "pytest") List.mem_cons_self [] _ rest husable hcounts rfl
    hn
  exact List.not_mem_nil hmem

/-- The order of two records decides whether the evaluator returns. -/
theorem evaluateChangeGate_order_leaks :
    ¬ ∀ i i', SameUpToOrder i i' → SameOutcome (evaluateChangeGate (small 4300) i)
      (evaluateChangeGate (small 4300) i') := by
  intro h
  obtain ⟨n, hn⟩ : ∃ n, intFits (small 4300) n = false := ⟨10 ^ 4300, tooLong_intFits 4300 (by omega)⟩
  have hsame := h (racingInput [pytestRun 0, rerun n])
    (racingInput [rerun n, pytestRun 0])
    ⟨rfl, rfl, rfl, rfl, List.Perm.refl _, List.Perm.swap _ _ _⟩
  obtain ⟨d, hd⟩ := (exists_evaluateChangeGate (small 4300) _).mpr (racingInput_first n)
  rw [hd] at hsame
  cases hd' : evaluateChangeGate (small 4300) (racingInput [rerun n, pytestRun 0]) with
  | ok d' => exact racingInput_last hn ((exists_evaluateChangeGate (small 4300) _).mp ⟨d', hd'⟩)
  | error e =>
    rw [hd'] at hsame
    exact hsame

end Tomtit
