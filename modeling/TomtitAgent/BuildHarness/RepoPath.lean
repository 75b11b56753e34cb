import TomtitAgent.BuildHarness.Canonical
import TomtitAgent.BuildHarness.Validation
import TomtitAgent.Python.SmallRuntime
import TomtitAgent.Python.Text

/-!
# Two validators of repository paths

`normalize_repo_path` of `validation.py` brings a spelling into the form that
`validate_repo_path` of `canonical.py` accepts without changing it.

* `validateRepoPath`   the second validator, with the checks of `canonical.py` it makes;
* `SafePath`           what a canonical path is;
* `CleanEnds`          nothing at the two ends of the path is read anew once its prefix is gone;
* `normalizeRepoPath_settled_iff`   a normalised path is canonical exactly when `CleanEnds` holds.
-/

open Py

namespace Tomtit

section
variable (rt : Runtime)

namespace Canonical

/-- `require_str`; only an exact `str` passes. -/
def requireStr (field : PyStr) (allowEmpty : Bool) : PyVal → Except PyExc PyStr
  | .str s => do
    raiseIf (allowEmpty = false ∧ s = [])
      (p09bValidationError (field ++ py " must be a non-empty string"))
    return s
  | v => .error (p09bValidationError (field ++ py " must be a string, got " ++ v.typeName))

def rejectControlCharacters (field value : PyStr) : Except PyExc Unit := do
  raiseIf (value.any isControl) (p09bValidationError (field ++ py " contains control characters"))
  raiseIf (0 ∈ value) (p09bValidationError (field ++ py " contains a NUL character"))

end Canonical

def validateRepoPath (field : PyStr) (value : PyVal) : Except PyExc PyStr := do
  let text ← Canonical.requireStr field false value
  Canonical.rejectControlCharacters field text
  let shown := field ++ [32] ++ reprStr rt text
  raiseIf (92 ∈ text) (p09bValidationError
    (shown ++ py ": backslash is not a path separator (canonical paths use '/')"))
  raiseIf (windowsDrive text) (p09bValidationError (shown ++ py ": Windows drive path rejected"))
  raiseIf (text.head? = some 47) (p09bValidationError (shown ++ py ": absolute path rejected"))
  raiseIf (rt.nfc text ≠ text) (p09bValidationError
    (shown ++ py ": path must already be NFC-normalized"))
  raiseIf (∃ seg ∈ text.splitOn 47, seg = [] ∨ seg = [46] ∨ seg = [46, 46]) (p09bValidationError
    (shown ++ py ": empty/'.'/'..' path segment rejected"))
  return text

/-- What validation promises of a path besides its characters. -/
structure SafePath (r : PyStr) : Prop where
  relative : r.head? ≠ some 47
  no_drive : windowsDrive r = false
  unpadded : strip r = r
  segments : ∀ seg ∈ r.splitOn 47, seg ≠ [] ∧ seg ≠ [46] ∧ seg ≠ [46, 46]

/-- The segments of `p` that the normal form keeps. -/
def keptSegments (p : PyStr) : List PyStr := pathSegments (replaceChar 92 47 (strip p))

/-- The first kept segment starts neither with a blank nor with a drive, the last ends with no
blank. -/
structure CleanEnds (p : PyStr) : Prop where
  head : ∀ seg ∈ (keptSegments p).head?, seg.head?.any isSpace = false ∧ windowsDrive seg = false
  last : ∀ seg ∈ (keptSegments p).getLast?, seg.getLast?.any isSpace = false

/-! ### segments -/

theorem mem_splitOn {s seg : PyStr} {a : CodePoint} (h : seg ∈ s.splitOn a) :
    ∀ c ∈ seg, c ∈ s ∧ c ≠ a := by
  induction s generalizing seg with
  | nil =>
    rw [List.splitOn_nil, List.mem_singleton] at h
    rw [h]
    exact fun c hc => absurd hc List.not_mem_nil
  | cons d s ih =>
    obtain ⟨first, rest, e⟩ := List.exists_cons_of_ne_nil (List.splitOn_ne_nil a s)
    have htail : ∀ t ∈ s.splitOn a, ∀ c ∈ t, c ∈ d :: s ∧ c ≠ a := fun t ht c hc =>
      ⟨List.mem_cons_of_mem d (ih ht c hc).1, (ih ht c hc).2⟩
    rw [List.splitOn_cons_eq_if_modifyHead] at h
    by_cases hd : d = a
    · rw [if_pos (beq_iff_eq.mpr hd)] at h
      rcases List.mem_cons.mp h with rfl | h
      · exact fun c hc => absurd hc List.not_mem_nil
      · exact htail seg h
    · rw [if_neg (by rw [beq_iff_eq]; exact hd), e] at h
      rw [e] at htail
      rcases List.mem_cons.mp h with rfl | h
      · intro c hc
        rcases List.mem_cons.mp hc with rfl | hc
        · exact ⟨List.mem_cons_self, hd⟩
        · exact htail first List.mem_cons_self c hc
      · exact htail seg (List.mem_cons_of_mem first h)

theorem pathSegments_dropDotSlash (s : PyStr) : pathSegments (dropDotSlash s) = pathSegments s := by
  induction s using dropDotSlash.induct with
  | case1 rest ih =>
    have h := List.splitOn_append_cons_self (a := (47 : CodePoint)) [46] rest
    rw [dropDotSlash, ih]
    unfold pathSegments
    have hdot : (47 : CodePoint) ∉ ([46] : PyStr) := by decide
    rw [List.splitOn_eq_singleton hdot] at h
    show _ = ((([46] : PyStr) ++ 47 :: rest).splitOn 47).filter _
    rw [h]
    rfl
  | case2 s h =>
    rw [dropDotSlash]
    exact h

theorem mem_pathSegments {s seg : PyStr} :
    seg ∈ pathSegments s ↔ seg ∈ s.splitOn 47 ∧ seg ≠ [] ∧ seg ≠ [46] := by
  unfold pathSegments
  rw [List.mem_filter, decide_eq_true_eq]

structure Normalized (p r : PyStr) : Prop where
  relative : (replaceChar 92 47 (strip p)).head? ≠ some 47
  no_drive : windowsDrive (strip p) = false
  printable : ∀ c ∈ strip p, isControl c = false
  kept : keptSegments p ≠ []
  no_parent : [46, 46] ∉ keptSegments p
  result : r = joinWith [47] (keptSegments p)

theorem normalizeRepoPath_eq_ok {p r : PyStr} :
    normalizeRepoPath rt p = .ok r ↔ Normalized p r := by
  have hkept : pathSegments (dropDotSlash (replaceChar 92 47 (strip p))) = keptSegments p :=
    pathSegments_dropDotSlash _
  have hany : (strip p).any isControl = true ↔ ¬ ∀ c ∈ strip p, isControl c = false := by
    rw [List.any_eq_true, not_forall]
    simp only [Classical.not_imp, Bool.not_eq_false]
  unfold normalizeRepoPath
  simp only [bind_eq_ok, raiseIf_eq_ok, exists_const, hkept, hany, not_not, Bool.not_eq_true]
  constructor
  · rintro ⟨-, hc, -, hd, hr, hk, hp, h⟩
    exact ⟨hr, hd, hc, hk, hp, (Except.ok.inj h).symm⟩
  · rintro ⟨hr, hd, hc, hk, hp, rfl⟩
    have hne : strip p ≠ [] := by
      intro e
      apply hk
      unfold keptSegments
      rw [e]
      rfl
    have hunc : ([92, 92] : PyStr).isPrefixOf (strip p) = false := by
      cases hs : strip p with
      | nil => exact absurd hs hne
      | cons c s =>
        have hc92 : c ≠ 92 := by
          rintro rfl
          rw [hs] at hr
          exact hr rfl
        rw [List.isPrefixOf_cons_cons, beq_eq_false_iff_ne.mpr (Ne.symm hc92), Bool.false_and]
    exact ⟨hne, hc, hunc, hd, hr, hk, hp, rfl⟩

/-! ### the ends of a joined path -/

theorem joinWith_head {sep seg : PyStr} {rest : List PyStr} (h : seg ≠ []) :
    (joinWith sep (seg :: rest)).head? = seg.head? := by
  by_cases hr : rest = []
  · rw [hr, joinWith_singleton]
  · rw [joinWith_cons sep seg hr, List.head?_append_of_ne_nil _ h]

theorem joinWith_getLast {sep : PyStr} {segs : List PyStr} {seg : PyStr}
    (hl : segs.getLast? = some seg) (h : seg ≠ []) :
    (joinWith sep segs).getLast? = seg.getLast? := by
  induction segs with
  | nil => cases hl
  | cons s segs ih =>
    by_cases hs : segs = []
    · rw [hs, List.getLast?_singleton] at hl
      rw [hs, joinWith_singleton, Option.some.inj hl]
    · obtain ⟨t, ts, e⟩ := List.exists_cons_of_ne_nil hs
      have hl' : segs.getLast? = some seg := by
        rw [e, List.getLast?_cons_cons, ← e] at hl
        exact hl
      have hne : joinWith sep segs ≠ [] := fun hnil => by
        rw [hnil] at ih
        exact h (List.getLast?_eq_none_iff.mp (ih hl').symm)
      rw [joinWith_cons sep s hs, ← List.append_assoc, List.getLast?_append_of_ne_nil _ hne, ih hl']

theorem windowsDrive_cons_cons (c d : CodePoint) (t : PyStr) :
    windowsDrive (c :: d :: t) = (decide (d = 58) && (isUpper c || isLower c)) := by
  by_cases hd : d = 58
  · subst hd
    rfl
  · rw [decide_eq_false hd, Bool.false_and]
    unfold windowsDrive
    split
    · next e => exact absurd (List.cons.inj (List.cons.inj e).2).1 hd
    · rfl

theorem windowsDrive_joinWith {seg : PyStr} {rest : List PyStr} (h : seg ≠ []) :
    windowsDrive (joinWith [47] (seg :: rest)) = windowsDrive seg := by
  by_cases hr : rest = []
  · rw [hr, joinWith_singleton]
  · obtain ⟨c, t, rfl⟩ := List.exists_cons_of_ne_nil h
    rw [joinWith_cons [47] _ hr]
    cases t with
    | nil =>
      show windowsDrive (c :: 47 :: joinWith [47] rest) = false
      rw [windowsDrive_cons_cons]
      rfl
    | cons d t =>
      show windowsDrive (c :: d :: (t ++ _)) = windowsDrive (c :: d :: t)
      rw [windowsDrive_cons_cons, windowsDrive_cons_cons]

namespace Normalized
variable {p r : PyStr} (h : Normalized p r)
include h

theorem segment {seg : PyStr} (hs : seg ∈ keptSegments p) :
    seg ≠ [] ∧ seg ≠ [46] ∧ seg ≠ [46, 46] ∧ ∀ c ∈ seg, c ≠ 47 ∧ c ≠ 92 ∧ isControl c = false := by
  obtain ⟨hmem, hne, hdot⟩ := mem_pathSegments.mp hs
  refine ⟨hne, hdot, fun e => h.no_parent (e ▸ hs), fun c hc => ?_⟩
  obtain ⟨hin, h47⟩ := mem_splitOn hmem c hc
  obtain ⟨d, hd, e⟩ := List.mem_map.mp hin
  by_cases h92 : d = 92
  · rw [if_pos h92] at e
    exact absurd e.symm h47
  · rw [if_neg h92] at e
    subst e
    exact ⟨h47, h92, h.printable d hd⟩

theorem splitOn : r.splitOn 47 = keptSegments p := by
  rw [h.result]
  exact List.splitOn_intercalate 47 (fun seg hs hin => ((h.segment hs).2.2.2 47 hin).1 rfl) h.kept

theorem segments : ∀ seg ∈ r.splitOn 47, seg ≠ [] ∧ seg ≠ [46] ∧ seg ≠ [46, 46] := by
  rw [h.splitOn]
  intro seg hs
  obtain ⟨h1, h2, h3, _⟩ := h.segment hs
  exact ⟨h1, h2, h3⟩

theorem chars {c : CodePoint} (hc : c ∈ r) : c ≠ 92 ∧ isControl c = false := by
  rw [h.result] at hc
  have key : ∀ segs : List PyStr, (∀ seg ∈ segs, ∀ c ∈ seg, c ≠ 92 ∧ isControl c = false) →
      c ∈ joinWith [47] segs → c ≠ 92 ∧ isControl c = false := by
    intro segs hsegs hc
    induction segs with
    | nil => exact absurd hc List.not_mem_nil
    | cons seg segs ih =>
      by_cases hs : segs = []
      · rw [hs, joinWith_singleton] at hc
        exact hsegs seg List.mem_cons_self c hc
      · rw [joinWith_cons [47] seg hs, List.mem_append, List.mem_append, List.mem_singleton] at hc
        rcases hc with hc | rfl | hc
        · exact hsegs seg List.mem_cons_self c hc
        · exact ⟨by decide, rfl⟩
        · exact ih (fun s hs => hsegs s (List.mem_cons_of_mem seg hs)) hc
  exact key _ (fun seg hs c hc => ⟨((h.segment hs).2.2.2 c hc).2.1, ((h.segment hs).2.2.2 c hc).2.2⟩) hc

theorem first : ∃ seg rest, keptSegments p = seg :: rest ∧ seg ≠ [] ∧ (∀ c ∈ seg, c ≠ 47) ∧
    r.head? = seg.head? ∧ windowsDrive r = windowsDrive seg := by
  obtain ⟨seg, rest, e⟩ := List.exists_cons_of_ne_nil h.kept
  have hs : seg ∈ keptSegments p := by rw [e]; exact List.mem_cons_self
  obtain ⟨hne, _, _, hc⟩ := h.segment hs
  refine ⟨seg, rest, e, hne, fun c hm => (hc c hm).1, ?_, ?_⟩
  · rw [h.result, e, joinWith_head hne]
  · rw [h.result, e, windowsDrive_joinWith hne]

theorem final : ∃ seg, (keptSegments p).getLast? = some seg ∧ r.getLast? = seg.getLast? := by
  obtain ⟨seg, hl⟩ := Option.ne_none_iff_exists'.mp (mt List.getLast?_eq_none_iff.mp h.kept)
  refine ⟨seg, hl, ?_⟩
  rw [h.result, joinWith_getLast hl (h.segment (List.mem_of_getLast? hl)).1]

theorem ends_iff : CleanEnds p ↔
    windowsDrive r = false ∧ r.head?.any isSpace = false ∧ r.getLast?.any isSpace = false := by
  obtain ⟨seg, rest, e, _, _, hhead, hdrive⟩ := h.first
  obtain ⟨seg', hl, hlast⟩ := h.final
  rw [hdrive, hhead, hlast]
  constructor
  · rintro ⟨h1, h2⟩
    rw [e] at h1
    rw [hl] at h2
    exact ⟨(h1 seg rfl).2, (h1 seg rfl).1, h2 seg' rfl⟩
  · rintro ⟨h1, h2, h3⟩
    refine ⟨fun s hs => ?_, fun s hs => ?_⟩
    · rw [e] at hs
      rw [← Option.some.inj hs]
      exact ⟨h2, h1⟩
    · rw [hl] at hs
      rw [← Option.some.inj hs]
      exact h3

theorem relative_result : r.head? ≠ some 47 := by
  obtain ⟨seg, _, _, hne, hc, hhead, _⟩ := h.first
  obtain ⟨c, t, rfl⟩ := List.exists_cons_of_ne_nil hne
  rw [hhead]
  exact fun e => hc c List.mem_cons_self (Option.some.inj e)

theorem again (hs : strip r = r) (hd : windowsDrive r = false) : Normalized r r := by
  have hplain : replaceChar 92 47 r = r := by
    refine (List.map_congr_left fun c hc => ?_).trans (List.map_id r)
    exact if_neg (h.chars hc).1
  have hkept : keptSegments r = keptSegments p := by
    unfold keptSegments
    rw [hs, hplain]
    refine Eq.trans (List.filter_eq_self.mpr fun seg hseg => ?_) h.splitOn
    obtain ⟨h1, h2, _⟩ := h.segments seg hseg
    exact decide_eq_true ⟨h1, h2⟩
  refine ⟨?_, ?_, ?_, ?_, ?_, ?_⟩
  · rw [hs, hplain]
    exact h.relative_result
  · rw [hs]
    exact hd
  · rw [hs]
    exact fun c hc => (h.chars hc).2
  · rw [hkept]
    exact h.kept
  · rw [hkept]
    exact h.no_parent
  · rw [hkept]
    exact h.result

theorem ne_nil : r ≠ [] := by
  obtain ⟨seg, _, _, hne, _, hhead, _⟩ := h.first
  rintro rfl
  exact hne (List.head?_eq_none_iff.mp hhead.symm)

end Normalized

theorem validateRepoPath_normalized {p r : PyStr} (h : Normalized p r) (hd : windowsDrive r = false)
    (hn : rt.nfc r = r) (field : PyStr) : validateRepoPath rt field (.str r) = .ok r := by
  have hcontrol : ¬ r.any isControl = true := by
    rw [List.any_eq_true]
    rintro ⟨c, hc, hx⟩
    rw [(h.chars hc).2] at hx
    cases hx
  have hnul : (0 : CodePoint) ∉ r := fun hc => absurd (h.chars hc).2 (by decide)
  have hsegs : ¬ ∃ seg ∈ r.splitOn 47, seg = [] ∨ seg = [46] ∨ seg = [46, 46] := by
    rintro ⟨seg, hs, hbad⟩
    obtain ⟨h1, h2, h3⟩ := h.segments seg hs
    rcases hbad with e | e | e
    · exact h1 e
    · exact h2 e
    · exact h3 e
  have hstr : Canonical.requireStr field false (.str r) = .ok r :=
    bind_eq_ok.mpr ⟨(), raiseIf_eq_ok.mpr fun he => h.ne_nil he.2, rfl⟩
  have hchars : Canonical.rejectControlCharacters field r = .ok () :=
    bind_eq_ok.mpr ⟨(), raiseIf_eq_ok.mpr hcontrol, raiseIf_eq_ok.mpr hnul⟩
  unfold validateRepoPath
  simp only [bind_eq_ok, raiseIf_eq_ok, exists_const]
  exact ⟨r, hstr, (), hchars, fun hc => (h.chars hc).1 rfl, by rw [hd]; exact Bool.false_ne_true,
    h.relative_result, not_not.mpr hn, hsegs, rfl⟩

/-- **Normalising is idempotent and safe, up to the ends.**  A normalised path is its own normal
form, passes the second validator when it is NFC, and is relative, without a drive, unpadded and
without empty, `.` and `..` segments, exactly when `CleanEnds` holds of the spelling. -/
theorem normalizeRepoPath_settled_iff (p r : PyStr) (h : normalizeRepoPath rt p = .ok r) :
    (normalizeRepoPath rt r = .ok r ∧
      (rt.nfc r = r → ∀ field, validateRepoPath rt field (.str r) = .ok r) ∧ SafePath r) ↔
    CleanEnds p := by
  have hn := (normalizeRepoPath_eq_ok rt).mp h
  rw [hn.ends_iff]
  constructor
  · rintro ⟨_, _, hsafe⟩
    obtain ⟨h1, h2⟩ := Unicode.strip_edges r
    rw [hsafe.unpadded] at h1 h2
    exact ⟨hsafe.no_drive, h1, h2⟩
  · rintro ⟨hd, hhead, hlast⟩
    have hs := strip_of_edges hhead hlast
    refine ⟨(normalizeRepoPath_eq_ok rt).mpr (hn.again hs hd), fun hnfc field => ?_, ?_⟩
    · exact validateRepoPath_normalized rt hn hd hnfc field
    · exact ⟨hn.relative_result, hd, hs, hn.segments⟩

end

/-- `src/a.py`, the normal form of `./src/a.py`, is settled and safe. -/
theorem normalizeRepoPath_settled_src :
    normalizeRepoPath (small 4300) (py "src/a.py") = .ok (py "src/a.py") ∧
    SafePath (py "src/a.py") := by
  have h : normalizeRepoPath (small 4300) (py "./src/a.py") = .ok (py "src/a.py") := by
    rw [py_ofList, py_ofList]
    rfl
  have hends : CleanEnds (py "./src/a.py") := by
    have hk : keptSegments (py "./src/a.py") = [py "src", py "a.py"] := by
      rw [py_ofList, py_ofList, py_ofList]
      rfl
    refine ⟨fun seg hs => ?_, fun seg hs => ?_⟩
    · rw [hk] at hs
      rw [← Option.some.inj hs, py_ofList]
      exact ⟨rfl, rfl⟩
    · rw [hk] at hs
      rw [← Option.some.inj hs, py_ofList]
      rfl
  obtain ⟨h1, _, h3⟩ := (normalizeRepoPath_settled_iff (small 4300) _ _ h).mpr hends
  exact ⟨h1, h3⟩

/-- The prefix of `./C:/x` hides a drive: the path normalises to one that does not normalise. -/
theorem normalizeRepoPath_hidden_drive :
    ¬ ∀ p r, normalizeRepoPath (small 4300) p = .ok r → normalizeRepoPath (small 4300) r = .ok r ∧
      ((small 4300).nfc r = r → ∀ field, validateRepoPath (small 4300) field (.str r) = .ok r) ∧
      SafePath r := by
  intro h
  have hp : normalizeRepoPath (small 4300) (py "./C:/x") = .ok (py "C:/x") := by
    rw [py_ofList, py_ofList]
    rfl
  have hdrive := (h _ _ hp).2.2.no_drive
  rw [py_ofList] at hdrive
  exact absurd hdrive (by decide)

end Tomtit
