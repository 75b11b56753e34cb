import TomtitAgent.BuildHarness.ChangeGate.Evaluate
import TomtitAgent.Python.SmallRuntime

/-!
# What the ChangeGate decides

* `wellFormedEvidence`   the records that are not malformed;
* `Blocked`, `Passing`   what BLOCK and PASS stand for, in terms of the input;
* `Renderable`           no message of the run quotes an integer beyond the digit limit;
* `evaluateChangeGate_spec`   the evaluator returns, and decides as specified, exactly then.
-/

open Py

namespace Tomtit

/-! ### the specification -/

def wellFormedEvidence (ev : PyVal) : Bool :=
  isText (attr ev "command") && isInt (attr ev "exit_code") && isBool (attr ev "completed") &&
  isText (attr ev "commit_sha") && isText (attr ev "evidence_id") &&
  isEvidenceId (attr ev "evidence_id") && isOptText (attr ev "completed_at") &&
  isOptText (attr ev "artifact_digest")

/-- `usable_evidence` in terms of the input. -/
def usableEvidence (i : ChangeGateInput) : List CommandEvidence :=
  (i.testEvidence.filter wellFormedEvidence).map CommandEvidence.ofObject

/-- The record has the command of the requirement, completed with exit code 0, and ran at the
expected commit. -/
structure Satisfies (i : ChangeGateInput) (required : PyStr) (ev : CommandEvidence) : Prop where
  command : normalizeCommand ev.command = normalizeCommand required
  completed : ev.completed = true
  exitCode : ev.exitCode = 0
  expected : i.expectedCommitSha ≠ []
  commitSha : ev.commitSha = i.expectedCommitSha

section
variable (rt : Runtime)

/-- What BLOCK stands for. -/
def Blocked (i : ChangeGateInput) : Prop :=
  (∃ raw ∈ i.changedFiles, ∀ f, normalizeRepoPath rt raw ≠ .ok f) ∨
  (∃ raw ∈ i.changedFiles, ∃ f, normalizeRepoPath rt raw = .ok f ∧
    matchesAny f i.contract.forbiddenPaths = true) ∨
  (∃ ev ∈ i.testEvidence, wellFormedEvidence ev = false) ∨
  ∃ eid, 1 < (validIds i.testEvidence).count eid

/-- What PASS stands for. -/
structure Passing (i : ChangeGateInput) : Prop where
  not_blocked : ¬ Blocked rt i
  changed : i.changedFiles ≠ []
  scope : ∀ raw ∈ i.changedFiles, ∀ f, normalizeRepoPath rt raw = .ok f →
    i.contract.allowedPaths = [] ∨ i.contract.broadScopeAllowed = true ∨
      matchesAny f i.contract.allowedPaths = true
  dependencies : py "dependency_change" ∈ i.contract.requiresHumanApprovalFor →
    i.dependencyFilesChanged = [] ∧ ∀ raw ∈ i.changedFiles, ∀ f,
      normalizeRepoPath rt raw = .ok f → pathName f ∉ dependencyFiles
  evidence : ∀ required ∈ i.contract.requiredEvidence,
    ∃ ev ∈ i.testEvidence, Satisfies i required (CommandEvidence.ofObject ev)
  some_evidence : i.testEvidence ≠ [] ∨ i.contract.requiredEvidence ≠ []

structure GateSpec (i : ChangeGateInput) (decision : PyStr) : Prop where
  block : decision = py "BLOCK" ↔ Blocked rt i
  pass : decision = py "PASS" ↔ Passing rt i
  review : decision = py "REVIEW_REQUIRED" ↔ ¬ Blocked rt i ∧ ¬ Passing rt i

/-- What is asked of the attributes of a record, in the order of the checks. -/
def evidenceChecks (ev : PyVal) : List ((PyVal → Bool) × PyVal) :=
  [(isText, attr ev "command"), (isInt, attr ev "exit_code"), (isBool, attr ev "completed"),
    (isText, attr ev "commit_sha"), (isText, attr ev "evidence_id"), (isEvidenceId, attr ev "evidence_id"),
    (isOptText, attr ev "completed_at"), (isOptText, attr ev "artifact_digest")]

/-- What is said about a malformed record can be rendered: the first attribute at fault, and the
command. -/
def BodyRenders (ev : PyVal) : Prop :=
  ∀ check ∈ (evidenceChecks ev).find? (fun check => !check.1 check.2),
    (∃ text, reprVal rt check.2 = .ok text) ∧
    ∃ text, strVal rt ((ev.getattr? (py "command")).getD (.str (py "<unknown>"))) = .ok text

/-- The record is of the command of the requirement and of an identity used once. -/
def Counts (i : ChangeGateInput) (required : PyStr) (ev : CommandEvidence) : Prop :=
  ev.evidenceId ∉ duplicateIds i.testEvidence ∧
    normalizeCommand ev.command = normalizeCommand required

/-- The scan meets no completed record with an exit code beyond the digit limit, unless a record
before it satisfies the requirement. -/
def ScanRenders (i : ChangeGateInput) (required : PyStr) (evs : List CommandEvidence) : Prop :=
  ∀ before ev after, evs = before ++ ev :: after → Counts i required ev → ev.completed = true →
    intFits rt ev.exitCode = false → ∃ ev' ∈ before, Counts i required ev' ∧ Satisfies i required ev'

/-- Every message that the run composes can be rendered. -/
def Renderable (i : ChangeGateInput) : Prop :=
  (∀ ev ∈ i.testEvidence, BodyRenders rt ev) ∧
  ∀ required ∈ i.contract.requiredEvidence, ScanRenders rt i required (usableEvidence i)

/-! ### evidence records -/

theorem requireAttr_none {ok : PyVal → Bool} {before after : String} {v : PyVal} :
    requireAttr rt ok before after v = .ok none ↔ ok v = true := by
  unfold requireAttr
  by_cases h : ok v = true
  · rw [if_pos h]
    exact iff_of_true rfl h
  · rw [if_neg h]
    refine iff_of_false (fun he => ?_) h
    obtain ⟨text, _, he⟩ := bind_eq_ok.mp he
    exact absurd (Except.ok.inj he) (by simp)

theorem firstError_none {checks : List (Except PyExc (Option PyStr))} :
    firstError checks = .ok none ↔ ∀ check ∈ checks, check = .ok none := by
  induction checks with
  | nil => exact iff_of_true rfl fun _ h => absurd h List.not_mem_nil
  | cons check checks ih =>
    rw [List.forall_mem_cons, ← ih]
    cases check with
    | error e => exact iff_of_false (fun h => by cases h) (fun h => by cases h.1)
    | ok error =>
      cases error with
      | none => exact ⟨fun h => ⟨rfl, h⟩, fun h => h.2⟩
      | some text => exact iff_of_false (fun h => by cases h) (fun h => by cases h.1)

theorem commandEvidenceError_none {ev : PyVal} :
    commandEvidenceError rt ev = .ok none ↔ wellFormedEvidence ev = true := by
  unfold commandEvidenceError wellFormedEvidence
  rw [firstError_none]
  simp only [List.forall_mem_cons, List.not_mem_nil, false_imp_iff, implies_true, and_true,
    requireAttr_none, Bool.and_eq_true, and_assoc]

theorem wellFormed_id {ev : PyVal} (h : wellFormedEvidence ev = true) :
    strip (CommandEvidence.ofObject ev).evidenceId ≠ [] := by
  have hid : isText (attr ev "evidence_id") = true := by
    unfold wellFormedEvidence at h
    simp only [Bool.and_eq_true] at h
    exact h.1.1.1.2
  unfold CommandEvidence.ofObject
  cases hv : attr ev "evidence_id" with
  | str s =>
    rw [hv] at hid
    exact of_decide_eq_true hid
  | _ =>
    rw [hv] at hid
    exact absurd hid (by simp [isText])

/-! ### pass 3 -/

theorem rejectBody_ok {index : Nat} {ev : PyVal} {r : Option (RejectedEvidence × Finding)}
    (h : rejectBody rt index ev = .ok r) :
    (r = none ↔ wellFormedEvidence ev = true) ∧ ∀ x ∈ r, x.2.severity = block := by
  obtain ⟨malformed, hm, h⟩ := bind_eq_ok.mp h
  rw [← commandEvidenceError_none rt, hm]
  cases malformed with
  | none =>
    rw [← Except.ok.inj h]
    exact ⟨iff_of_true rfl rfl, fun x hx => absurd hx (by simp)⟩
  | some text =>
    obtain ⟨command, _, h⟩ := bind_eq_ok.mp h
    rw [← Except.ok.inj h]
    refine ⟨iff_of_false (by simp) (by simp), fun x hx => ?_⟩
    rw [← Option.mem_some_iff.mp hx]

/-- The checks raise nothing, and what follows a failing one holds, exactly when the value that it quotes can be
rendered and it does. -/
theorem firstError_renders {P : Prop} {checks : List (Except PyExc (Option PyStr))}
    {values : List ((PyVal → Bool) × PyVal)}
    (h : List.Forall₂ (fun check v => ∃ before after, check = requireAttr rt v.1 before after v.2) checks values) :
    (∃ error, firstError checks = .ok error ∧ (error ≠ none → P)) ↔
      ∀ v ∈ values.find? (fun v => !v.1 v.2), (∃ text, reprVal rt v.2 = .ok text) ∧ P := by
  induction h with
  | nil =>
    refine iff_of_true ⟨none, rfl, fun h => absurd rfl h⟩ fun v hv => ?_
    cases hv
  | @cons check v checks values hcheck _ ih =>
    obtain ⟨before, after, rfl⟩ := hcheck
    by_cases hok : v.1 v.2 = true
    · rw [List.find?_cons_of_neg (by rw [hok]; exact Bool.false_ne_true), ← ih, firstError,
        (requireAttr_none rt).mpr hok]
      exact Iff.rfl
    · rw [List.find?_cons_of_pos (by rw [eq_false_of_ne_true hok]; rfl), firstError, requireAttr, if_neg hok]
      cases hrepr : reprVal rt v.2 with
      | error e =>
        refine iff_of_false ?_ fun h => ?_
        · rintro ⟨error, herror, -⟩
          exact nomatch herror
        · obtain ⟨⟨text, htext⟩, -⟩ := h v rfl
          rw [hrepr] at htext
          cases htext
      | ok text =>
        constructor
        · rintro ⟨error, herror, hP⟩ w hw
          obtain rfl := Option.some.inj hw
          refine ⟨⟨text, hrepr⟩, hP ?_⟩
          rw [← Except.ok.inj herror]
          exact Option.some_ne_none _
        · exact fun h => ⟨_, rfl, fun _ => (h v rfl).2⟩

theorem exists_rejectBody {index : Nat} {ev : PyVal} :
    (∃ r, rejectBody rt index ev = .ok r) ↔ BodyRenders rt ev := by
  have hchecks : ∃ checks, commandEvidenceError rt ev = firstError checks ∧ List.Forall₂
      (fun check v => ∃ before after, check = requireAttr rt v.1 before after v.2) checks (evidenceChecks ev) :=
    ⟨_, rfl, .cons ⟨_, _, rfl⟩ (.cons ⟨_, _, rfl⟩ (.cons ⟨_, _, rfl⟩ (.cons ⟨_, _, rfl⟩ (.cons ⟨_, _, rfl⟩
      (.cons ⟨_, _, rfl⟩ (.cons ⟨_, _, rfl⟩ (.cons ⟨_, _, rfl⟩ .nil)))))))⟩
  obtain ⟨checks, herror, hmade⟩ := hchecks
  unfold BodyRenders
  rw [← firstError_renders rt hmade, ← herror]
  unfold rejectBody
  constructor
  · rintro ⟨r, h⟩
    obtain ⟨malformed, hm, h⟩ := bind_eq_ok.mp h
    refine ⟨malformed, hm, fun hne => ?_⟩
    cases malformed with
    | none => exact absurd rfl hne
    | some text =>
      obtain ⟨command, hc, _⟩ := bind_eq_ok.mp h
      exact ⟨command, hc⟩
  · rintro ⟨malformed, hm, h⟩
    rw [hm]
    cases malformed with
    | none => exact ⟨none, rfl⟩
    | some text =>
      obtain ⟨command, hc⟩ := h (by simp)
      show ∃ r, (strVal rt _ >>= fun command => pure (some _)) = .ok r
      rw [hc]
      exact ⟨_, rfl⟩

theorem bodyRenders_of_wellFormed {ev : PyVal} (h : wellFormedEvidence ev = true) : BodyRenders rt ev := by
  refine (@exists_rejectBody rt 0 ev).mp ⟨none, ?_⟩
  unfold rejectBody
  rw [(commandEvidenceError_none rt).mpr h]
  rfl

theorem exists_validateBodies {index : Nat} {evs : List PyVal} :
    (∃ bodies, validateBodies rt index evs = .ok bodies) ↔ ∀ ev ∈ evs, BodyRenders rt ev := by
  induction evs generalizing index with
  | nil => exact iff_of_true ⟨[], rfl⟩ fun _ h => absurd h List.not_mem_nil
  | cons ev evs ih =>
    rw [List.forall_mem_cons, ← @ih (index + 1), ← @exists_rejectBody rt index, validateBodies]
    constructor
    · rintro ⟨bodies, h⟩
      obtain ⟨r, hr, h⟩ := bind_eq_ok.mp h
      obtain ⟨rest, hrest, _⟩ := bind_eq_ok.mp h
      exact ⟨⟨r, hr⟩, rest, hrest⟩
    · rintro ⟨⟨r, hr⟩, rest, hrest⟩
      exact ⟨(ev, r) :: rest, bind_eq_ok.mpr ⟨r, hr, bind_eq_ok.mpr ⟨rest, hrest, rfl⟩⟩⟩

/-- The bodies are the records, each with the verdict on its form. -/
structure BodiesOf (evs : List PyVal)
    (bodies : List (PyVal × Option (RejectedEvidence × Finding))) : Prop where
  records : bodies.map Prod.fst = evs
  verdict : ∀ body ∈ bodies, body.2.isNone = wellFormedEvidence body.1
  severity : ∀ body ∈ bodies, ∀ x ∈ body.2, x.2.severity = block

theorem validateBodies_ok {index : Nat} {evs : List PyVal}
    {bodies : List (PyVal × Option (RejectedEvidence × Finding))}
    (h : validateBodies rt index evs = .ok bodies) : BodiesOf evs bodies := by
  induction evs generalizing index bodies with
  | nil =>
    rw [← Except.ok.inj h]
    exact ⟨rfl, fun _ hb => absurd hb List.not_mem_nil, fun _ hb => absurd hb List.not_mem_nil⟩
  | cons ev evs ih =>
    obtain ⟨r, hr, h⟩ := bind_eq_ok.mp h
    obtain ⟨rest, hrest, h⟩ := bind_eq_ok.mp h
    obtain ⟨h1, h2, h3⟩ := ih hrest
    obtain ⟨hn, hs⟩ := rejectBody_ok rt hr
    rw [← Except.ok.inj h]
    refine ⟨by rw [List.map_cons, h1], ?_, ?_⟩
    · rw [List.forall_mem_cons]
      refine ⟨?_, h2⟩
      rw [Bool.eq_iff_iff, Option.isNone_iff_eq_none]
      exact hn
    · rw [List.forall_mem_cons]
      exact ⟨hs, h3⟩

theorem BodiesOf.usable {i : ChangeGateInput}
    {bodies : List (PyVal × Option (RejectedEvidence × Finding))}
    (h : BodiesOf i.testEvidence bodies) : usableOf bodies = usableEvidence i := by
  have hfilter : (bodies.filter fun body => body.2.isNone) =
      bodies.filter fun body => wellFormedEvidence body.1 :=
    List.filter_congr fun body hb => h.verdict body hb
  unfold usableOf usableEvidence
  rw [hfilter, ← h.records, List.filter_map, List.map_map]
  rfl

theorem BodiesOf.findings_nil {evs : List PyVal}
    {bodies : List (PyVal × Option (RejectedEvidence × Finding))} (h : BodiesOf evs bodies) :
    bodies.filterMap (fun body => body.2.map Prod.snd) = [] ↔
      ∀ ev ∈ evs, wellFormedEvidence ev = true := by
  rw [List.filterMap_eq_nil_iff, ← h.records, List.forall_mem_map]
  refine forall₂_congr fun body hb => ?_
  rw [Option.map_eq_none_iff, ← h.verdict body hb, Option.isNone_iff_eq_none]

theorem BodiesOf.findings_severity {evs : List PyVal}
    {bodies : List (PyVal × Option (RejectedEvidence × Finding))} (h : BodiesOf evs bodies) :
    ∀ f ∈ bodies.filterMap (fun body => body.2.map Prod.snd), f.severity = block := by
  intro f hf
  obtain ⟨body, hb, hf⟩ := List.mem_filterMap.mp hf
  obtain ⟨x, hx, rfl⟩ := Option.map_eq_some_iff.mp hf
  exact h.severity body hb x hx

/-! ### pass 4 -/

theorem evidenceVerdict_none {i : ChangeGateInput} {required : PyStr} {ev : CommandEvidence}
    (hid : strip ev.evidenceId ≠ []) (hc : Counts i required ev) :
    evidenceVerdict rt ev i.expectedCommitSha = .ok none ↔ Satisfies i required ev := by
  unfold evidenceVerdict
  by_cases h1 : ev.completed = false
  · rw [if_pos h1]
    exact iff_of_false (by simp) fun h => by rw [h.completed] at h1; cases h1
  rw [if_neg h1]
  by_cases h2 : ev.exitCode ≠ 0
  · rw [if_pos h2]
    refine iff_of_false (fun h => ?_) fun h => h2 h.exitCode
    obtain ⟨code, _, h⟩ := bind_eq_ok.mp h
    exact absurd (Except.ok.inj h) (by simp)
  rw [if_neg h2, if_neg hid]
  by_cases h3 : i.expectedCommitSha = []
  · rw [if_pos h3]
    exact iff_of_false (by simp) fun h => h.expected h3
  rw [if_neg h3]
  by_cases h4 : ev.commitSha ≠ i.expectedCommitSha
  · rw [if_pos h4]
    exact iff_of_false (by simp) fun h => h4 h.commitSha
  · rw [if_neg h4]
    exact iff_of_true rfl ⟨hc.2, Bool.not_eq_false _ ▸ h1, not_not.mp h2, h3, not_not.mp h4⟩

theorem evidenceVerdict_error {ev : CommandEvidence} {expected : PyStr} :
    (∃ reason, evidenceVerdict rt ev expected = .ok reason) ↔
      ¬ (ev.completed = true ∧ intFits rt ev.exitCode = false) := by
  unfold evidenceVerdict
  by_cases h1 : ev.completed = false
  · rw [if_pos h1]
    exact iff_of_true ⟨_, rfl⟩ fun h => by rw [h.1] at h1; cases h1
  rw [if_neg h1]
  by_cases h2 : ev.exitCode ≠ 0
  · rw [if_pos h2]
    unfold strInt
    by_cases h3 : intFits rt ev.exitCode = true
    · rw [if_pos h3]
      exact iff_of_true ⟨_, rfl⟩ fun h => by rw [h.2] at h3; cases h3
    · rw [if_neg h3]
      refine iff_of_false (fun ⟨_, h⟩ => by cases h) (not_not.mpr ⟨?_, Bool.not_eq_true _ ▸ h3⟩)
      exact Bool.not_eq_false _ ▸ h1
  · rw [if_neg h2]
    refine iff_of_true ?_ ?_
    · split_ifs <;> exact ⟨_, rfl⟩
    · rintro ⟨_, h⟩
      rw [not_not.mp h2, intFits_zero] at h
      cases h

theorem scanRenders_skip {i : ChangeGateInput} {required : PyStr} {ev : CommandEvidence}
    {evs : List CommandEvidence}
    (hskip : Counts i required ev → ¬ Satisfies i required ev ∧
      ¬ (ev.completed = true ∧ intFits rt ev.exitCode = false)) :
    ScanRenders rt i required (ev :: evs) ↔ ScanRenders rt i required evs := by
  constructor
  · intro h before ev' after he hc hcomp hfit
    obtain ⟨ev'', hmem, hc'', hs⟩ := h (ev :: before) ev' after (by rw [he]; rfl) hc hcomp hfit
    rcases List.mem_cons.mp hmem with rfl | hmem
    · exact absurd hs (hskip hc'').1
    · exact ⟨ev'', hmem, hc'', hs⟩
  · intro h before ev' after he hc hcomp hfit
    cases before with
    | nil =>
      obtain ⟨rfl, _⟩ := List.cons.inj he
      exact absurd ⟨hcomp, hfit⟩ (hskip hc).2
    | cons b before =>
      obtain ⟨_, he⟩ := List.cons.inj he
      obtain ⟨ev'', hmem, hs⟩ := h before ev' after he hc hcomp hfit
      exact ⟨ev'', List.mem_cons_of_mem _ hmem, hs⟩

/-- **The scan for one requirement.**  It returns exactly when `ScanRenders` holds, and says
whether some record satisfies the requirement. -/
theorem scanEvidence_spec {i : ChangeGateInput} {required : PyStr} {evs : List CommandEvidence}
    (hids : ∀ ev ∈ evs, strip ev.evidenceId ≠ []) :
    ((∃ r, scanEvidence rt i required evs = .ok r) ↔ ScanRenders rt i required evs) ∧
    ∀ r, scanEvidence rt i required evs = .ok r →
      (r.1 = true ↔ ∃ ev ∈ evs, Counts i required ev ∧ Satisfies i required ev) := by
  induction evs with
  | nil =>
    refine ⟨iff_of_true ⟨_, rfl⟩ fun before ev after he => ?_, fun r h => ?_⟩
    · exact absurd he (by simp)
    · rw [← Except.ok.inj h]
      exact iff_of_false (by simp) (by simp)
  | cons ev evs ih =>
    obtain ⟨hid, hids⟩ := List.forall_mem_cons.mp hids
    obtain ⟨ih1, ih2⟩ := ih hids
    by_cases hc : Counts i required ev
    · rw [scanEvidence, if_neg hc.1, if_neg (not_not.mpr hc.2)]
      have hverdict := evidenceVerdict_none rt hid hc
      have hraise := @evidenceVerdict_error rt ev i.expectedCommitSha
      cases hv : evidenceVerdict rt ev i.expectedCommitSha with
      | error e =>
        rw [hv] at hraise
        have hbad := not_not.mp (mt hraise.mpr fun ⟨_, h⟩ => by cases h)
        refine ⟨iff_of_false (fun ⟨_, h⟩ => by cases h) fun h => ?_, fun r h => by cases h⟩
        obtain ⟨_, hmem, _⟩ := h [] ev evs rfl hc hbad.1 hbad.2
        exact List.not_mem_nil hmem
      | ok reason =>
        rw [hv] at hverdict hraise
        have hgood := hraise.mp ⟨reason, rfl⟩
        cases reason with
        | none =>
          have hs := hverdict.mp rfl
          refine ⟨iff_of_true ⟨_, rfl⟩ fun before ev' after he hc' hcomp hfit => ?_, fun r h => ?_⟩
          · cases before with
            | nil =>
              obtain ⟨rfl, _⟩ := List.cons.inj he
              exact absurd ⟨hcomp, hfit⟩ hgood
            | cons b before =>
              obtain ⟨rfl, _⟩ := List.cons.inj he
              exact ⟨ev, List.mem_cons_self, hc, hs⟩
          · rw [← Except.ok.inj h]
            exact iff_of_true rfl ⟨ev, List.mem_cons_self, hc, hs⟩
        | some text =>
          have hs : ¬ Satisfies i required ev := fun hs => by
            have := hverdict.mpr hs
            cases this
          rw [scanRenders_skip rt fun _ => ⟨hs, hgood⟩, ← ih1]
          show ((∃ r, (scanEvidence rt i required evs >>= fun scanned =>
              pure (scanned.1, ⟨.str ev.evidenceId, ev.command, text⟩ :: scanned.2)) = .ok r) ↔ _) ∧
            ∀ r, (scanEvidence rt i required evs >>= fun scanned =>
              pure (scanned.1, ⟨.str ev.evidenceId, ev.command, text⟩ :: scanned.2)) = .ok r → _
          refine ⟨⟨fun ⟨r, h⟩ => ?_, fun ⟨r, h⟩ => ?_⟩, fun r h => ?_⟩
          · obtain ⟨scanned, h, _⟩ := bind_eq_ok.mp h
            exact ⟨scanned, h⟩
          · exact ⟨_, bind_eq_ok.mpr ⟨r, h, rfl⟩⟩
          · obtain ⟨scanned, hscan, h⟩ := bind_eq_ok.mp h
            rw [← Except.ok.inj h, ih2 scanned hscan]
            simp only [List.exists_mem_cons_iff, hs, and_false, false_or]
    · have hstep : scanEvidence rt i required (ev :: evs) = scanEvidence rt i required evs := by
        rw [scanEvidence]
        by_cases h1 : ev.evidenceId ∈ duplicateIds i.testEvidence
        · rw [if_pos h1]
        · have h2 : normalizeCommand ev.command ≠ normalizeCommand required := fun h => hc ⟨h1, h⟩
          rw [if_neg h1, if_pos h2]
      rw [hstep, scanRenders_skip rt fun h => absurd h hc, ← ih1]
      refine ⟨Iff.rfl, fun r h => ?_⟩
      rw [ih2 r h]
      simp only [List.exists_mem_cons_iff, hc, false_and, false_or]

theorem usable_ids (i : ChangeGateInput) : ∀ ev ∈ usableEvidence i, strip ev.evidenceId ≠ [] := by
  intro ev hev
  obtain ⟨obj, hobj, rfl⟩ := List.mem_map.mp hev
  exact wellFormed_id (List.mem_filter.mp hobj).2

theorem exists_matchRequirements {i : ChangeGateInput} {requireds : List PyStr} :
    (∃ outcomes, matchRequirements rt i (usableEvidence i) requireds = .ok outcomes) ↔
      ∀ required ∈ requireds, ScanRenders rt i required (usableEvidence i) := by
  induction requireds with
  | nil => exact iff_of_true ⟨[], rfl⟩ fun _ h => absurd h List.not_mem_nil
  | cons required requireds ih =>
    rw [List.forall_mem_cons, ← ih, ← (scanEvidence_spec rt (usable_ids i)).1, matchRequirements]
    constructor
    · rintro ⟨outcomes, h⟩
      obtain ⟨scanned, hs, h⟩ := bind_eq_ok.mp h
      obtain ⟨rest, hrest, _⟩ := bind_eq_ok.mp h
      exact ⟨⟨scanned, hs⟩, rest, hrest⟩
    · rintro ⟨⟨scanned, hs⟩, rest, hrest⟩
      exact ⟨_, bind_eq_ok.mpr ⟨scanned, hs, bind_eq_ok.mpr ⟨rest, hrest, rfl⟩⟩⟩

/-- The outcomes are the requirements, each with whether a record satisfies it. -/
structure OutcomesOf (i : ChangeGateInput) (requireds : List PyStr)
    (outcomes : List (PyStr × Bool × List RejectedEvidence)) : Prop where
  requirements : outcomes.map Prod.fst = requireds
  satisfied : ∀ o ∈ outcomes, o.2.1 = true ↔
    ∃ ev ∈ usableEvidence i, Counts i o.1 ev ∧ Satisfies i o.1 ev

theorem matchRequirements_ok {i : ChangeGateInput} {requireds : List PyStr}
    {outcomes : List (PyStr × Bool × List RejectedEvidence)}
    (h : matchRequirements rt i (usableEvidence i) requireds = .ok outcomes) :
    OutcomesOf i requireds outcomes := by
  induction requireds generalizing outcomes with
  | nil =>
    rw [← Except.ok.inj h]
    exact ⟨rfl, fun _ ho => absurd ho List.not_mem_nil⟩
  | cons required requireds ih =>
    obtain ⟨scanned, hs, h⟩ := bind_eq_ok.mp h
    obtain ⟨rest, hrest, h⟩ := bind_eq_ok.mp h
    obtain ⟨h1, h2⟩ := ih hrest
    rw [← Except.ok.inj h]
    refine ⟨by rw [List.map_cons, h1], ?_⟩
    rw [List.forall_mem_cons]
    exact ⟨(scanEvidence_spec rt (usable_ids i)).2 scanned hs, h2⟩

/-! ### the findings and the decision -/

/-- The findings are graded, one of them blocks exactly when `b` holds, and there is none exactly
when `p` does. -/
structure Marks (findings : List Finding) (b p : Prop) : Prop where
  graded : ∀ f ∈ findings, f.severity = block ∨ f.severity = warning
  blocks : (∃ f ∈ findings, f.severity = block) ↔ b
  nil : findings = [] ↔ p

theorem block_ne_warning : block ≠ warning := by simp [block, warning]

theorem Marks.append {fs gs : List Finding} {b p b' p' : Prop} (h : Marks fs b p)
    (h' : Marks gs b' p') : Marks (fs ++ gs) (b ∨ b') (p ∧ p') where
  graded := List.forall_mem_append.mpr ⟨h.graded, h'.graded⟩
  blocks := by
    rw [← h.blocks, ← h'.blocks]
    simp only [List.mem_append, or_and_right, exists_or]
  nil := by rw [List.append_eq_nil_iff, h.nil, h'.nil]

theorem Marks.ofBlock {fs : List Finding} {p : Prop} (h : ∀ f ∈ fs, f.severity = block)
    (hnil : fs = [] ↔ p) : Marks fs (¬ p) p where
  graded f hf := Or.inl (h f hf)
  blocks := by
    rw [← hnil, ← ne_eq, List.ne_nil_iff_exists_cons]
    constructor
    · rintro ⟨f, hf, _⟩
      obtain ⟨l, l', rfl⟩ := List.append_of_mem hf
      cases l with
      | nil => exact ⟨f, l', rfl⟩
      | cons g l => exact ⟨g, _, rfl⟩
    · rintro ⟨f, l, rfl⟩
      exact ⟨f, List.mem_cons_self, h f List.mem_cons_self⟩
  nil := hnil

theorem Marks.ofWarning {fs : List Finding} {p : Prop} (h : ∀ f ∈ fs, f.severity = warning)
    (hnil : fs = [] ↔ p) : Marks fs False p where
  graded f hf := Or.inr (h f hf)
  blocks := iff_false_intro fun ⟨f, hf, hb⟩ => block_ne_warning (hb.symm.trans (h f hf))
  nil := hnil

theorem Marks.flatMap {α : Type} {xs : List α} {g : α → List Finding} {b p : α → Prop}
    (h : ∀ x ∈ xs, Marks (g x) (b x) (p x)) :
    Marks (xs.flatMap g) (∃ x ∈ xs, b x) (∀ x ∈ xs, p x) := by
  induction xs with
  | nil => exact ⟨fun _ hf => absurd hf List.not_mem_nil, by simp, by simp⟩
  | cons x xs ih =>
    obtain ⟨hx, hxs⟩ := List.forall_mem_cons.mp h
    rw [List.flatMap_cons, List.exists_mem_cons_iff, List.forall_mem_cons]
    exact hx.append (ih hxs)

theorem Marks.decision {fs : List Finding} {b p : Prop} (h : Marks fs b p) :
    (decisionOf fs = py "BLOCK" ↔ b) ∧ (decisionOf fs = py "PASS" ↔ p) ∧
      (decisionOf fs = py "REVIEW_REQUIRED" ↔ ¬ b ∧ ¬ p) := by
  rw [← h.blocks, ← h.nil]
  unfold decisionOf
  simp only [List.any_eq_true, decide_eq_true_eq]
  by_cases hb : ∃ f ∈ fs, f.severity = block
  · have hne : fs ≠ [] := fun hn => by
      obtain ⟨f, hf, _⟩ := hb
      rw [hn] at hf
      exact List.not_mem_nil hf
    rw [if_pos hb]
    simp [hb, hne]
  rw [if_neg hb]
  by_cases hw : ∃ f ∈ fs, f.severity = warning
  · have hne : fs ≠ [] := fun hn => by
      obtain ⟨f, hf, _⟩ := hw
      rw [hn] at hf
      exact List.not_mem_nil hf
    rw [if_pos hw]
    simp [hb, hne]
  · have hn : fs = [] := List.eq_nil_iff_forall_not_mem.mpr fun f hf =>
      (h.graded f hf).elim (fun h => hb ⟨f, hf, h⟩) fun h => hw ⟨f, hf, h⟩
    rw [if_neg hw]
    simp [hn]

theorem scanChangedFiles_marks {acc raws : List PyStr} :
    Marks (scanChangedFiles rt acc raws).1 (¬ ∀ raw ∈ raws, ∃ f, normalizeRepoPath rt raw = .ok f)
      (∀ raw ∈ raws, ∃ f, normalizeRepoPath rt raw = .ok f) := by
  refine Marks.ofBlock ?_ ?_
  · induction raws generalizing acc with
    | nil => exact fun _ hf => absurd hf List.not_mem_nil
    | cons raw raws ih =>
      rw [scanChangedFiles]
      cases normalizeRepoPath rt raw with
      | error exc => exact List.forall_mem_cons.mpr ⟨rfl, ih⟩
      | ok normalized => exact ih
  · induction raws generalizing acc with
    | nil => exact iff_of_true rfl fun _ h => absurd h List.not_mem_nil
    | cons raw raws ih =>
      rw [scanChangedFiles, List.forall_mem_cons]
      cases normalizeRepoPath rt raw with
      | error exc => exact iff_of_false (by simp) fun h => by obtain ⟨f, hf⟩ := h.1; cases hf
      | ok normalized =>
        rw [and_iff_right ⟨normalized, rfl⟩]
        exact ih

theorem mem_scanChangedFiles {acc raws : List PyStr} {f : PyStr} :
    f ∈ (scanChangedFiles rt acc raws).2 ↔
      f ∈ acc ∨ ∃ raw ∈ raws, normalizeRepoPath rt raw = .ok f := by
  induction raws generalizing acc with
  | nil => exact (or_iff_left fun ⟨_, h, _⟩ => List.not_mem_nil h).symm
  | cons raw raws ih =>
    rw [scanChangedFiles, List.exists_mem_cons_iff]
    cases normalizeRepoPath rt raw with
    | error exc =>
      show f ∈ (scanChangedFiles rt acc raws).2 ↔ _
      have hraise : ¬ (Except.error exc : Except PyExc PyStr) = .ok f := fun h => by cases h
      rw [ih, or_iff_right hraise]
    | ok normalized =>
      show f ∈ (scanChangedFiles rt _ raws).2 ↔ _
      rw [ih, ← or_assoc]
      refine or_congr ?_ Iff.rfl
      rw [Except.ok.injEq, eq_comm (a := normalized)]
      by_cases h : normalized ∈ acc
      · rw [if_pos h]
        exact ⟨Or.inl, fun h' => h'.elim id fun he => he ▸ h⟩
      · rw [if_neg h, List.mem_append, List.mem_singleton]

theorem scopeFindings_marks (contract : TaskContract) (file : PyStr) :
    Marks (scopeFindings contract file) (matchesAny file contract.forbiddenPaths = true)
      (matchesAny file contract.forbiddenPaths = false ∧ (contract.allowedPaths = [] ∨
        contract.broadScopeAllowed = true ∨ matchesAny file contract.allowedPaths = true)) := by
  unfold scopeFindings
  by_cases h1 : matchesAny file contract.forbiddenPaths = true
  · rw [if_pos h1]
    exact ⟨by simp, by simp [h1], by simp [h1]⟩
  rw [if_neg h1]
  by_cases h2 : contract.allowedPaths ≠ [] ∧ contract.broadScopeAllowed = false ∧
      matchesAny file contract.allowedPaths = false
  · rw [if_pos h2]
    obtain ⟨ha, hs, hm⟩ := h2
    refine ⟨by simp, ?_, by simp [ha, hs, hm]⟩
    simp [h1, block_ne_warning.symm]
  · rw [if_neg h2]
    refine ⟨by simp, by simp [h1], ?_⟩
    rw [not_and_or, not_and_or, not_not, Bool.not_eq_false, Bool.not_eq_false] at h2
    exact iff_of_true rfl ⟨Bool.not_eq_true _ ▸ h1, h2⟩

theorem dependencyFindings_marks (i : ChangeGateInput) (files : List PyStr) :
    Marks (dependencyFindings i files) False
      (py "dependency_change" ∈ i.contract.requiresHumanApprovalFor →
        i.dependencyFilesChanged = [] ∧ ∀ f ∈ files, pathName f ∉ dependencyFiles) := by
  unfold dependencyFindings
  dsimp only
  refine Marks.ofWarning ?_ ?_
  · split_ifs
    · exact List.forall_mem_map.mpr fun _ _ => rfl
    · exact fun _ hf => absurd hf List.not_mem_nil
  · have htouched : (i.dependencyFilesChanged ++
          files.filter fun f => pathName f ∈ dependencyFiles) = [] ↔
        i.dependencyFilesChanged = [] ∧ ∀ f ∈ files, pathName f ∉ dependencyFiles := by
      simp [List.append_eq_nil_iff, List.filter_eq_nil_iff]
    rw [← htouched]
    split_ifs with h
    · rw [List.map_eq_nil_iff]
      refine iff_of_false (fun hn => ?_) fun hn => h.1 (hn h.2)
      obtain ⟨f, hf⟩ := List.exists_mem_of_ne_nil _ h.1
      have hmem := mem_sortedSet.mpr hf
      rw [hn] at hmem
      exact List.not_mem_nil hmem
    · exact iff_of_true rfl fun hreq => by
        by_contra hne
        exact h ⟨hne, hreq⟩

theorem duplicateIds_nil {evs : List PyVal} :
    duplicateIds evs = [] ↔ ¬ ∃ eid, 1 < (validIds evs).count eid := by
  unfold duplicateIds
  simp only [List.filter_eq_nil_iff, List.mem_dedup, decide_eq_true_eq, not_exists]
  refine ⟨fun h eid hc => h eid ?_ hc, fun h eid _ => h eid⟩
  exact List.count_pos_iff.mp (by omega)

theorem duplicateFindings_marks (evs : List PyVal) :
    Marks ((sorted (duplicateIds evs)).map (duplicateFinding rt evs))
      (¬ ¬ ∃ eid, 1 < (validIds evs).count eid) (¬ ∃ eid, 1 < (validIds evs).count eid) := by
  refine Marks.ofBlock (List.forall_mem_map.mpr fun _ _ => rfl) ?_
  rw [List.map_eq_nil_iff, ← duplicateIds_nil, ← List.length_eq_zero_iff, (sorted_perm _).length_eq,
    List.length_eq_zero_iff]

theorem missingFindings_marks {i : ChangeGateInput}
    {outcomes : List (PyStr × Bool × List RejectedEvidence)}
    (h : OutcomesOf i i.contract.requiredEvidence outcomes) :
    Marks ((outcomes.filter fun o => o.2.1 = false).map fun o => missingFinding i o.1) False
      (∀ required ∈ i.contract.requiredEvidence,
        ∃ ev ∈ usableEvidence i, Counts i required ev ∧ Satisfies i required ev) := by
  refine Marks.ofWarning (List.forall_mem_map.mpr fun _ _ => rfl) ?_
  rw [List.map_eq_nil_iff, List.filter_eq_nil_iff, ← h.requirements, List.forall_mem_map]
  refine forall₂_congr fun o ho => ?_
  rw [← h.satisfied o ho, decide_eq_true_eq, Bool.not_eq_false]

theorem Marks.ofIf {c : Prop} [Decidable c] {f : Finding} (h : f.severity = warning) :
    Marks (if c then [f] else []) False (¬ c) := by
  refine Marks.ofWarning ?_ ?_
  · split_ifs
    · exact fun g hg => by rw [List.mem_singleton.mp hg, h]
    · exact fun _ hf => absurd hf List.not_mem_nil
  · by_cases hc : c
    · rw [if_pos hc]
      exact iff_of_false (by simp) (not_not.mpr hc)
    · rw [if_neg hc]
      exact iff_of_true rfl hc

theorem exists_usable_iff {i : ChangeGateInput} {required : PyStr}
    (hwell : ∀ ev ∈ i.testEvidence, wellFormedEvidence ev = true)
    (hdup : ¬ ∃ eid, 1 < (validIds i.testEvidence).count eid) :
    (∃ ev ∈ usableEvidence i, Counts i required ev ∧ Satisfies i required ev) ↔
      ∃ ev ∈ i.testEvidence, Satisfies i required (CommandEvidence.ofObject ev) := by
  have husable : usableEvidence i = i.testEvidence.map CommandEvidence.ofObject := by
    unfold usableEvidence
    rw [List.filter_eq_self.mpr hwell]
  rw [husable]
  constructor
  · rintro ⟨_, hev, _, hs⟩
    obtain ⟨ev, hmem, rfl⟩ := List.mem_map.mp hev
    exact ⟨ev, hmem, hs⟩
  · rintro ⟨ev, hev, hs⟩
    refine ⟨_, List.mem_map.mpr ⟨ev, hev, rfl⟩, ⟨?_, hs.command⟩, hs⟩
    rw [duplicateIds_nil.mpr hdup]
    exact List.not_mem_nil

/-- **The findings of a run**: one blocks exactly when the input is `Blocked`, and there is none
exactly when it is `Passing`. -/
theorem gateFindings_marks {i : ChangeGateInput}
    {bodies : List (PyVal × Option (RejectedEvidence × Finding))}
    {outcomes : List (PyStr × Bool × List RejectedEvidence)}
    (hb : BodiesOf i.testEvidence bodies) (ho : OutcomesOf i i.contract.requiredEvidence outcomes) :
    Marks (gateFindings rt i bodies outcomes) (Blocked rt i) (Passing rt i) := by
  have hscope : ∀ f ∈ (scanChangedFiles rt [] i.changedFiles).2,
      Marks (scopeFindings i.contract f) _ _ := fun f _ => scopeFindings_marks i.contract f
  have hfiles : ∀ f, f ∈ (scanChangedFiles rt [] i.changedFiles).2 ↔
      ∃ raw ∈ i.changedFiles, normalizeRepoPath rt raw = .ok f := fun f => by
    rw [mem_scanChangedFiles, or_iff_right List.not_mem_nil]
  have hmarks := (((((((@scanChangedFiles_marks rt [] i.changedFiles).append
    (@Marks.ofIf (i.changedFiles = []) _ noChangedFiles rfl)).append (Marks.flatMap hscope)).append
    (dependencyFindings_marks i (scanChangedFiles rt [] i.changedFiles).2)).append
    (Marks.ofBlock hb.findings_severity hb.findings_nil)).append
    (duplicateFindings_marks rt i.testEvidence)).append (missingFindings_marks ho)).append
    (@Marks.ofIf (i.testEvidence = [] ∧ i.contract.requiredEvidence = []) _ noEvidence rfl)
  refine ⟨hmarks.graded, hmarks.blocks.trans ?_, hmarks.nil.trans ?_⟩
  · simp only [or_false, not_not, not_forall, hfiles, Bool.not_eq_true]
    unfold Blocked
    constructor
    · rintro (((⟨raw, hraw, h⟩ | ⟨f, ⟨raw, hraw, hf⟩, h⟩) | ⟨ev, hev, h⟩) | h)
      · exact Or.inl ⟨raw, hraw, fun f hf => h ⟨f, hf⟩⟩
      · exact Or.inr (Or.inl ⟨raw, hraw, f, hf, h⟩)
      · exact Or.inr (Or.inr (Or.inl ⟨ev, hev, h⟩))
      · exact Or.inr (Or.inr (Or.inr h))
    · rintro (⟨raw, hraw, h⟩ | ⟨raw, hraw, f, hf, h⟩ | ⟨ev, hev, h⟩ | h)
      · exact Or.inl (Or.inl (Or.inl ⟨raw, hraw, fun ⟨f, hf⟩ => h f hf⟩))
      · exact Or.inl (Or.inl (Or.inr ⟨f, ⟨raw, hraw, hf⟩, h⟩))
      · exact Or.inl (Or.inr ⟨ev, hev, h⟩)
      · exact Or.inr h
  · simp only [hfiles, forall_exists_index, and_imp]
    constructor
    · rintro ⟨⟨⟨⟨⟨⟨⟨hnorm, hne⟩, hsc⟩, hdep⟩, hwell⟩, hdup⟩, hreq⟩, hsome⟩
      refine ⟨?_, hne, fun raw hraw f hf => (hsc f raw hraw hf).2, fun hr => ?_, fun r hr => ?_, ?_⟩
      · rintro (⟨raw, hraw, h⟩ | ⟨raw, hraw, f, hf, h⟩ | ⟨ev, hev, h⟩ | h)
        · obtain ⟨f, hf⟩ := hnorm raw hraw
          exact h f hf
        · rw [(hsc f raw hraw hf).1] at h
          cases h
        · rw [hwell ev hev] at h
          cases h
        · exact hdup h
      · exact ⟨(hdep hr).1, fun raw hraw f hf => (hdep hr).2 f raw hraw hf⟩
      · exact (exists_usable_iff hwell hdup).mp (hreq r hr)
      · exact not_and_or.mp hsome
    · rintro ⟨hnb, hne, hsc, hdep, hreq, hsome⟩
      unfold Blocked at hnb
      simp only [not_or, not_exists, not_and, Bool.not_eq_false, Bool.not_eq_true,
        not_forall, not_not] at hnb
      obtain ⟨hnorm, hforb, hwell, hdup⟩ := hnb
      have hdup' : ¬ ∃ eid, 1 < (validIds i.testEvidence).count eid := fun ⟨eid, h⟩ => hdup eid h
      refine ⟨⟨⟨⟨⟨⟨⟨hnorm, hne⟩, fun f raw hraw hf => ?_⟩, fun hr => ?_⟩, hwell⟩, hdup'⟩,
        fun r hr => ?_⟩, not_and_or.mpr hsome⟩
      · exact ⟨hforb raw hraw f hf, hsc raw hraw f hf⟩
      · exact ⟨(hdep hr).1, fun f raw hraw hf => (hdep hr).2 raw hraw f hf⟩
      · exact (exists_usable_iff hwell hdup').mpr (hreq r hr)

theorem exists_evaluateChangeGate (i : ChangeGateInput) :
    (∃ d, evaluateChangeGate rt i = .ok d) ↔ Renderable rt i := by
  unfold Renderable
  rw [← @exists_validateBodies rt 0, ← exists_matchRequirements rt]
  constructor
  · rintro ⟨d, h⟩
    obtain ⟨bodies, hbodies, h⟩ := bind_eq_ok.mp h
    obtain ⟨outcomes, houtcomes, _⟩ := bind_eq_ok.mp h
    rw [(validateBodies_ok rt hbodies).usable] at houtcomes
    exact ⟨⟨bodies, hbodies⟩, outcomes, houtcomes⟩
  · rintro ⟨⟨bodies, hbodies⟩, outcomes, houtcomes⟩
    rw [← (validateBodies_ok rt hbodies).usable] at houtcomes
    exact ⟨_, bind_eq_ok.mpr ⟨bodies, hbodies, bind_eq_ok.mpr ⟨outcomes, houtcomes, rfl⟩⟩⟩

theorem evaluateChangeGate_ok {i : ChangeGateInput} {d : ChangeGateDecision}
    (h : evaluateChangeGate rt i = .ok d) : ∃ outcomes,
      OutcomesOf i i.contract.requiredEvidence outcomes ∧
      Marks d.findings (Blocked rt i) (Passing rt i) ∧ d.decision = decisionOf d.findings ∧
      d.matchedRequiredEvidence = (outcomes.filter fun o => o.2.1 = true).map Prod.fst ∧
      d.missingRequiredEvidence = (outcomes.filter fun o => o.2.1 = false).map Prod.fst := by
  obtain ⟨bodies, hbodies, h⟩ := bind_eq_ok.mp h
  obtain ⟨outcomes, houtcomes, h⟩ := bind_eq_ok.mp h
  have hb := validateBodies_ok rt hbodies
  rw [hb.usable] at houtcomes
  have ho := matchRequirements_ok rt houtcomes
  rw [← Except.ok.inj h]
  exact ⟨outcomes, ho, gateFindings_marks rt hb ho, rfl, rfl, rfl⟩

theorem evaluateChangeGate_gateSpec {i : ChangeGateInput} {d : ChangeGateDecision}
    (h : evaluateChangeGate rt i = .ok d) : GateSpec rt i d.decision := by
  obtain ⟨_, _, hmarks, hd, _⟩ := evaluateChangeGate_ok rt h
  obtain ⟨h1, h2, h3⟩ := hmarks.decision
  rw [hd]
  exact ⟨h1, h2, h3⟩

/-- **The evaluator.**  It returns the specified decision exactly when every message of the run
can be rendered; otherwise it raises. -/
theorem evaluateChangeGate_spec (i : ChangeGateInput) :
    (∃ d, evaluateChangeGate rt i = .ok d ∧ GateSpec rt i d.decision) ↔ Renderable rt i := by
  rw [← exists_evaluateChangeGate]
  exact ⟨fun ⟨d, h, _⟩ => ⟨d, h⟩, fun ⟨d, h⟩ => ⟨d, h, evaluateChangeGate_gateSpec rt h⟩⟩

end

/-! ### a record that cannot be reported -/

/-- A completed run of `pytest`. -/
def pytestRun (exitCode : Int) : PyVal :=
  .obj (py "CommandEvidence") (py "CommandEvidence(...)")
    [(py "command", .str (py "pytest")), (py "exit_code", .int exitCode),
     (py "completed", .bool true), (py "commit_sha", .str (py "abc")),
     (py "evidence_id", .str (py "e1")), (py "completed_at", .none),
     (py "artifact_digest", .none)]

def pytestInput (exitCode : Int) : ChangeGateInput where
  contract := { taskId := py "t1", title := py "t", goal := py "g",
                requiredEvidence := [py "pytest"] }
  changedFiles := [py "a.py"]
  expectedCommitSha := py "abc"
  testEvidence := [pytestRun exitCode]

theorem pytestRun_wellFormed (exitCode : Int) : wellFormedEvidence (pytestRun exitCode) = true := by
  have hcommand : strip (py "pytest") ≠ [] := by rw [py_ofList]; decide
  have hsha : strip (py "abc") ≠ [] := by rw [py_ofList]; decide
  have hid : strip (py "e1") ≠ [] := by rw [py_ofList]; decide
  have hre : isValidEvidenceId (py "e1") = true := by rw [py_ofList]; decide
  simp [wellFormedEvidence, pytestRun, attr_cons, isText, isInt, isBool, isOptText, isEvidenceId,
    hcommand, hsha, hid, hre]

theorem pytestRun_ofObject (exitCode : Int) : CommandEvidence.ofObject (pytestRun exitCode) =
    ⟨py "pytest", exitCode, true, py "abc", py "e1"⟩ := by
  simp [CommandEvidence.ofObject, pytestRun, attr_cons, PyVal.asStr]

theorem pytestInput_usable (exitCode : Int) : usableEvidence (pytestInput exitCode) =
    [⟨py "pytest", exitCode, true, py "abc", py "e1"⟩] := by
  show (List.filter wellFormedEvidence [pytestRun exitCode]).map _ = _
  rw [List.filter_cons_of_pos (pytestRun_wellFormed exitCode), List.filter_nil, List.map_singleton,
    pytestRun_ofObject]

theorem pytestInput_distinct (exitCode : Int) :
    duplicateIds (pytestInput exitCode).testEvidence = [] := by
  rw [duplicateIds_nil]
  rintro ⟨eid, hc⟩
  have hlen : (validIds (pytestInput exitCode).testEvidence).length ≤ 1 :=
    List.length_filterMap_le _ [pytestRun exitCode]
  exact absurd (hc.trans_le List.count_le_length) (by omega)

theorem pytestInput_raises {rt : Runtime} {exitCode : Int} (hfit : intFits rt exitCode = false) :
    ¬ ∃ d, evaluateChangeGate rt (pytestInput exitCode) = .ok d := by
  rw [exists_evaluateChangeGate]
  rintro ⟨_, hscan⟩
  obtain ⟨_, hmem, _⟩ := hscan (py "pytest") List.mem_cons_self [] _ []
    (pytestInput_usable exitCode) ⟨by rw [pytestInput_distinct]; exact List.not_mem_nil, rfl⟩ rfl hfit
  exact List.not_mem_nil hmem

/-- An exit code of 4301 digits: the record has the form of evidence, and the evaluator raises. -/
theorem hugeExitCode_raises :
    ¬ ∃ d, evaluateChangeGate (small 4300) (pytestInput (10 ^ 4300)) = .ok d ∧
      GateSpec (small 4300) (pytestInput (10 ^ 4300)) d.decision := by
  rintro ⟨d, h, _⟩
  exact pytestInput_raises (tooLong_intFits 4300 (by omega)) ⟨d, h⟩

end Tomtit
