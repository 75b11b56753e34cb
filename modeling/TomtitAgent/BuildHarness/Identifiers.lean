import TomtitAgent.BuildHarness.EvidenceStore
import TomtitAgent.BuildHarness.RepoPath
import TomtitAgent.Python.SmallRuntime

/-!
# The identifier grammars

The validators of `validation.py` and of `canonical.py`; each matches `^...$` from the start of the string.

* `Canonical.validateTaskId` … `Canonical.validateGitObjectSha`   the validators of `canonical.py`;
* `Identifier`       all the validators, with their arguments: `Accepts`, and the grammar `Word`;
* `meets_iff`        a validator accepts the words of its grammar, and each word with a line feed after it.
-/

open Py

namespace Tomtit

/-! ### `canonical.py` -/

/-- `_RE_GENERATED_ID` without its anchors. -/
def generatedIdRe : PyStr → Bool :=
  tokenRe (fun c => isLower c || isDigit c) (fun c => isLower c || isDigit c || c == 45) 63

namespace Canonical

section
variable (rt : Runtime) (field : PyStr) (value : PyVal)

/-- `require_str`, then `re.match` of an anchored pattern. -/
def requireMatch (re : PyStr → Bool) (what : PyStr) : Except PyExc PyStr := do
  let text ← requireStr field false value
  raiseIf (dollar re text = false) (p09bValidationError (field ++ py " " ++ reprStr rt text ++ py " " ++ what))
  return text

/-- `validate_task_id` -/
def validateTaskId : Except PyExc PyStr := requireMatch rt field value taskIdRe
  (py "must match the P0-9A task grammar [A-Za-z0-9][A-Za-z0-9._-]\x7b0,127\x7d")

/-- `validate_generated_id` -/
def validateGeneratedId : Except PyExc PyStr := requireMatch rt field value generatedIdRe
  (py "must match the generated-id grammar [a-z0-9][a-z0-9-]\x7b0,63\x7d (lowercase, digits, hyphen only)")

/-- `validate_sha256_digest` -/
def validateSha256Digest : Except PyExc PyStr := requireMatch rt field value digestRe
  (py "must be 'sha256:' + 64 lowercase hex characters")

/-- `validate_git_object_sha` -/
def validateGitObjectSha (objectFormat : PyStr) : Except PyExc PyStr :=
  if objectFormat = py "sha1" then requireMatch rt field value (exactRe isHex 40)
    (py "must be 40 lowercase hex characters for a sha1 object")
  else if objectFormat = py "sha256" then requireMatch rt field value (exactRe isHex 64)
    (py "must be 64 lowercase hex characters for a sha256 object")
  else do
    let _ ← requireStr field false value
    .error (p09bValidationError (field ++ py ": unknown object_format " ++ reprStr rt objectFormat))

end
end Canonical

/-! ### all the validators -/

/-- A validator with its arguments. -/
inductive Identifier where
  | taskId
  | artifactName (kind : PyStr)
  | evidenceId
  | canonicalTaskId (field : PyStr)
  | generatedId (field : PyStr)
  | sha256Digest (field : PyStr)
  | gitObjectSha (field objectFormat : PyStr)

/-- `[first][rest]{0,bound}` -/
def TokenWord (first rest : CodePoint → Prop) (bound : Nat) (s : PyStr) : Prop :=
  ∃ c cs, s = c :: cs ∧ first c ∧ (∀ d ∈ cs, rest d) ∧ cs.length ≤ bound

/-- `[cls]{n}` -/
def ExactWord (cls : CodePoint → Prop) (n : Nat) (s : PyStr) : Prop := (∀ c ∈ s, cls c) ∧ s.length = n

namespace Identifier

/-- The validator returns, or answers true. -/
def Accepts (rt : Runtime) (s : PyStr) : Identifier → Prop
  | taskId => Tomtit.validateTaskId rt s = .ok ()
  | artifactName kind => validateArtifactName rt kind s = .ok ()
  | evidenceId => isValidEvidenceId s = true
  | canonicalTaskId field => Canonical.validateTaskId rt field (.str s) = .ok s
  | generatedId field => Canonical.validateGeneratedId rt field (.str s) = .ok s
  | sha256Digest field => Canonical.validateSha256Digest rt field (.str s) = .ok s
  | gitObjectSha field objectFormat => Canonical.validateGitObjectSha rt field (.str s) objectFormat = .ok s

def IsLetterOrDigit (c : CodePoint) : Prop :=
  (48 ≤ c.val ∧ c.val ≤ 57) ∨ (65 ≤ c.val ∧ c.val ≤ 90) ∨ (97 ≤ c.val ∧ c.val ≤ 122)

def IsLowerOrDigit (c : CodePoint) : Prop := (48 ≤ c.val ∧ c.val ≤ 57) ∨ (97 ≤ c.val ∧ c.val ≤ 122)

def IsLowerHex (c : CodePoint) : Prop := (48 ≤ c.val ∧ c.val ≤ 57) ∨ (97 ≤ c.val ∧ c.val ≤ 102)

/-- The documented grammar. -/
def Word (s : PyStr) : Identifier → Prop
  | taskId | canonicalTaskId _ =>
    TokenWord IsLetterOrDigit (fun c => IsLetterOrDigit c ∨ c = 46 ∨ c = 95 ∨ c = 45) 127 s
  | artifactName _ | evidenceId => TokenWord IsLetterOrDigit (fun c => IsLetterOrDigit c ∨ c = 95 ∨ c = 45) 63 s
  | generatedId _ => TokenWord IsLowerOrDigit (fun c => IsLowerOrDigit c ∨ c = 45) 63 s
  | sha256Digest _ => ∃ w, s = py "sha256:" ++ w ∧ ExactWord IsLowerHex 64 w
  | gitObjectSha _ objectFormat => (objectFormat = py "sha1" ∧ ExactWord IsLowerHex 40 s) ∨
      (objectFormat = py "sha256" ∧ ExactWord IsLowerHex 64 s)

/-- Exactly the words of the grammar are accepted, and nothing accepted holds white space, a control
character or a path separator. -/
structure Meets (rt : Runtime) (s : PyStr) (k : Identifier) : Prop where
  exact : k.Accepts rt s ↔ k.Word s
  clean : k.Accepts rt s → ∀ c ∈ s, isSpace c = false ∧ isControl c = false ∧ c ≠ 47 ∧ c ≠ 92

end Identifier

/-! ### words -/

theorem isLetterOrDigit_iff {c : CodePoint} : isAlnum c = true ↔ Identifier.IsLetterOrDigit c := by
  unfold isAlnum isDigit isUpper isLower Identifier.IsLetterOrDigit
  simp only [Bool.or_eq_true, Bool.and_eq_true, decide_eq_true_eq, or_assoc]

theorem isLowerOrDigit_iff {c : CodePoint} : (isLower c || isDigit c) = true ↔ Identifier.IsLowerOrDigit c := by
  unfold isDigit isLower Identifier.IsLowerOrDigit
  simp only [Bool.or_eq_true, Bool.and_eq_true, decide_eq_true_eq]
  exact or_comm

theorem isLowerHex_iff {c : CodePoint} : isHex c = true ↔ Identifier.IsLowerHex c := by
  unfold isHex isDigit Identifier.IsLowerHex
  simp only [Bool.or_eq_true, Bool.and_eq_true, decide_eq_true_eq]

theorem tokenRe_iff {first rest : CodePoint → Bool} {First Rest : CodePoint → Prop} {bound : Nat} {s : PyStr}
    (hfirst : ∀ c, first c = true ↔ First c) (hrest : ∀ c, rest c = true ↔ Rest c) :
    tokenRe first rest bound s = true ↔ TokenWord First Rest bound s := by
  cases s with
  | nil => exact iff_of_false Bool.false_ne_true fun ⟨_, _, h, _⟩ => absurd h (by simp)
  | cons c cs =>
    simp only [tokenRe, Bool.and_eq_true, List.all_eq_true, decide_eq_true_eq, hfirst, hrest]
    constructor
    · rintro ⟨⟨hc, hcs⟩, hlen⟩
      exact ⟨c, cs, rfl, hc, hcs, hlen⟩
    · rintro ⟨_, _, h, hc, hcs, hlen⟩
      obtain ⟨rfl, rfl⟩ := List.cons.inj h
      exact ⟨⟨hc, hcs⟩, hlen⟩

theorem exactRe_iff {n : Nat} {s : PyStr} :
    exactRe isHex n s = true ↔ ExactWord Identifier.IsLowerHex n s := by
  unfold exactRe ExactWord
  simp only [Bool.and_eq_true, List.all_eq_true, decide_eq_true_eq, isLowerHex_iff]

theorem digestRe_iff {s : PyStr} :
    digestRe s = true ↔ ∃ w, s = py "sha256:" ++ w ∧ ExactWord Identifier.IsLowerHex 64 w := by
  have hlen : (py "sha256:").length = 7 := by rw [py_ofList]; rfl
  unfold digestRe
  rw [Bool.and_eq_true, beq_iff_eq, exactRe_iff]
  constructor
  · rintro ⟨hhead, hword⟩
    exact ⟨s.drop 7, by rw [← hhead, List.take_append_drop], hword⟩
  · rintro ⟨w, rfl, hword⟩
    rw [← hlen, List.take_left, List.drop_left]
    exact ⟨rfl, hword⟩

theorem dollar_iff {re : PyStr → Bool} {s : PyStr} :
    dollar re s = true ↔ re s = true ∨ ∃ w, s = w ++ [newline] ∧ re w = true := by
  unfold dollar
  rw [Bool.or_eq_true, Bool.and_eq_true, beq_iff_eq]
  constructor
  · rintro (h | ⟨hlast, h⟩)
    · exact .inl h
    · exact .inr ⟨s.dropLast, (List.dropLast_append_getLast? newline hlast).symm, h⟩
  · rintro (h | ⟨w, rfl, h⟩)
    · exact .inl h
    · refine .inr ⟨List.getLast?_concat .., ?_⟩
      rw [List.dropLast_concat]
      exact h

namespace Identifier
variable {rt : Runtime} {s : PyStr}

theorem requireMatch_ok {field what : PyStr} {re : PyStr → Bool} (hnil : re [] = false) :
    Canonical.requireMatch rt field (.str s) re what = .ok s ↔ dollar re s = true := by
  unfold Canonical.requireMatch Canonical.requireStr
  simp only [bind_eq_ok, raiseIf_eq_ok]
  constructor
  · rintro ⟨text, ⟨_, -, htext⟩, _, hmatch, -⟩
    rw [← Except.ok.inj htext] at hmatch
    simpa using hmatch
  · intro h
    refine ⟨s, ⟨(), ?_, rfl⟩, (), by simp [h], rfl⟩
    rintro ⟨-, rfl⟩
    have hnone : dollar re [] = false := by
      unfold dollar
      rw [hnil]
      rfl
    rw [hnone] at h
    exact absurd h Bool.false_ne_true

theorem accepts_iff (k : Identifier) :
    k.Accepts rt s ↔ k.Word s ∨ ∃ w, s = w ++ [newline] ∧ k.Word w := by
  have htask : ∀ t, taskIdRe t = true ↔ Word t taskId := by
    intro t
    refine tokenRe_iff (fun c => isLetterOrDigit_iff) fun c => ?_
    simp only [Bool.or_eq_true, beq_iff_eq, isLetterOrDigit_iff, or_assoc]
  have hartifact : ∀ t, artifactNameRe t = true ↔ Word t evidenceId := by
    intro t
    refine tokenRe_iff (fun c => isLetterOrDigit_iff) fun c => ?_
    simp only [Bool.or_eq_true, beq_iff_eq, isLetterOrDigit_iff, or_assoc]
  have hgenerated : ∀ t field, generatedIdRe t = true ↔ Word t (generatedId field) := by
    intro t field
    refine tokenRe_iff (fun c => isLowerOrDigit_iff) fun c => ?_
    rw [Bool.or_eq_true, beq_iff_eq, isLowerOrDigit_iff]
  have hraise : ∀ (b : Bool) (e : PyExc), raiseIf (b = false) e = .ok () ↔ b = true := by
    intro b e
    rw [raiseIf_eq_ok, Bool.not_eq_false]
  cases k with
  | taskId =>
    refine (hraise _ _).trans (dollar_iff.trans ?_)
    simp only [htask]
  | artifactName kind =>
    refine (hraise _ _).trans (dollar_iff.trans ?_)
    simp only [hartifact]
    exact Iff.rfl
  | evidenceId =>
    refine dollar_iff.trans ?_
    simp only [hartifact]
  | canonicalTaskId field =>
    refine (requireMatch_ok rfl).trans (dollar_iff.trans ?_)
    simp only [htask]
    exact Iff.rfl
  | generatedId field =>
    refine (requireMatch_ok rfl).trans (dollar_iff.trans ?_)
    simp only [hgenerated _ field]
  | sha256Digest field =>
    have hnil : digestRe [] = false := by
      rw [Bool.eq_false_iff, Ne, digestRe_iff]
      rintro ⟨w, h, -⟩
      rw [py_ofList] at h
      exact absurd h (by simp)
    refine (requireMatch_ok hnil).trans (dollar_iff.trans ?_)
    simp only [digestRe_iff]
    exact Iff.rfl
  | gitObjectSha field objectFormat =>
    show Canonical.validateGitObjectSha rt field (.str s) objectFormat = .ok s ↔ _
    unfold Canonical.validateGitObjectSha
    by_cases hsha1 : objectFormat = py "sha1"
    · have hword : ∀ t, Word t (gitObjectSha field objectFormat) ↔ ExactWord IsLowerHex 40 t := by
        intro t
        show (_ ∧ _) ∨ (_ ∧ _) ↔ _
        simp [hsha1]
      rw [if_pos hsha1, requireMatch_ok rfl, dollar_iff]
      simp only [exactRe_iff, hword]
    · rw [if_neg hsha1]
      by_cases hsha256 : objectFormat = py "sha256"
      · have hword : ∀ t, Word t (gitObjectSha field objectFormat) ↔ ExactWord IsLowerHex 64 t := by
          intro t
          show (_ ∧ _) ∨ (_ ∧ _) ↔ _
          simp [hsha256]
        rw [if_pos hsha256, requireMatch_ok rfl, dollar_iff]
        simp only [exactRe_iff, hword]
      · have hnone : ∀ t, ¬ Word t (gitObjectSha field objectFormat) := by
          rintro t (⟨h, -⟩ | ⟨h, -⟩)
          · exact hsha1 h
          · exact hsha256 h
        rw [if_neg hsha256]
        refine iff_of_false (fun h => ?_) ?_
        · obtain ⟨_, -, h⟩ := bind_eq_ok.mp h
          exact absurd h (by simp)
        · rintro (h | ⟨w, -, h⟩)
          · exact hnone s h
          · exact hnone w h

/-! ### the characters of a word -/

theorem clean_of_bounds {c : CodePoint} (h : 45 ≤ c.val ∧ c.val ≤ 122 ∧ c.val ≠ 47 ∧ c.val ≠ 92) :
    isSpace c = false ∧ isControl c = false ∧ c ≠ 47 ∧ c ≠ 92 := by
  obtain ⟨hlow, hhigh, hslash, hback⟩ := h
  refine ⟨?_, ?_, fun e => hslash (congrArg Fin.val e), fun e => hback (congrArg Fin.val e)⟩
  · unfold isSpace
    simp only [Bool.or_eq_false_iff, Bool.and_eq_false_iff, decide_eq_false_iff_not, beq_eq_false_iff_ne]
    omega
  · unfold isControl
    rw [Bool.or_eq_false_iff, decide_eq_false_iff_not, beq_eq_false_iff_ne]
    omega

theorem IsLetterOrDigit.bounds {c : CodePoint} (h : IsLetterOrDigit c) :
    45 ≤ c.val ∧ c.val ≤ 122 ∧ c.val ≠ 47 ∧ c.val ≠ 92 := by
  unfold IsLetterOrDigit at h
  omega

theorem IsLowerOrDigit.letter {c : CodePoint} (h : IsLowerOrDigit c) : IsLetterOrDigit c := by
  unfold IsLowerOrDigit at h
  unfold IsLetterOrDigit
  omega

theorem IsLowerHex.letter {c : CodePoint} (h : IsLowerHex c) : IsLetterOrDigit c := by
  unfold IsLowerHex at h
  unfold IsLetterOrDigit
  omega

theorem Word.bounds {k : Identifier} (h : k.Word s) :
    ∀ c ∈ s, 45 ≤ c.val ∧ c.val ≤ 122 ∧ c.val ≠ 47 ∧ c.val ≠ 92 := by
  have hdot : (46 : CodePoint).val = 46 := rfl
  have hunder : (95 : CodePoint).val = 95 := rfl
  have hdash : (45 : CodePoint).val = 45 := rfl
  have htoken : ∀ {first rest : CodePoint → Prop} {bound : Nat},
      (∀ c, first c → IsLetterOrDigit c) → (∀ c, rest c → IsLetterOrDigit c ∨ c = 46 ∨ c = 95 ∨ c = 45) →
      TokenWord first rest bound s → ∀ c ∈ s, 45 ≤ c.val ∧ c.val ≤ 122 ∧ c.val ≠ 47 ∧ c.val ≠ 92 := by
    rintro first rest bound hfirst hrest ⟨a, cs, rfl, ha, hcs, -⟩ c hc
    rcases List.mem_cons.mp hc with rfl | hc
    · exact (hfirst c ha).bounds
    · rcases hrest c (hcs c hc) with hletter | rfl | rfl | rfl
      · exact hletter.bounds
      · omega
      · omega
      · omega
  have hhex : ∀ {n : Nat} {w : PyStr}, ExactWord IsLowerHex n w →
      ∀ c ∈ w, 45 ≤ c.val ∧ c.val ≤ 122 ∧ c.val ≠ 47 ∧ c.val ≠ 92 :=
    fun hw c hc => (hw.1 c hc).letter.bounds
  cases k with
  | taskId => exact htoken (fun _ h => h) (fun _ h => h) h
  | artifactName kind => exact htoken (fun _ h => h) (fun _ h => h.imp_right .inr) h
  | evidenceId => exact htoken (fun _ h => h) (fun _ h => h.imp_right .inr) h
  | canonicalTaskId field => exact htoken (fun _ h => h) (fun _ h => h) h
  | generatedId field =>
    exact htoken (fun _ h => h.letter) (fun _ h => h.imp IsLowerOrDigit.letter fun e => .inr (.inr e)) h
  | sha256Digest field =>
    obtain ⟨w, rfl, hw⟩ := h
    intro c hc
    rcases List.mem_append.mp hc with hc | hc
    · have hall : (py "sha256:").all (fun c => 45 ≤ c.val ∧ c.val ≤ 122 ∧ c.val ≠ 47 ∧ c.val ≠ 92) = true := by
        rw [py_ofList]
        rfl
      exact of_decide_eq_true (List.all_eq_true.mp hall c hc)
    · exact hhex hw c hc
  | gitObjectSha field objectFormat =>
    rcases h with ⟨-, h⟩ | ⟨-, h⟩
    · exact hhex h
    · exact hhex h

theorem not_word_newline {k : Identifier} {w : PyStr} : ¬ k.Word (w ++ [newline]) := by
  intro h
  have hbound := h.bounds newline (List.mem_append_right _ (List.mem_singleton_self _))
  have hten : newline.val = 10 := rfl
  omega

end Identifier

theorem not_meets {rt : Runtime} {k : Identifier} {w : PyStr} (hw : k.Word w) :
    ¬ k.Meets rt (w ++ [newline]) := by
  intro hmeets
  have haccepts : k.Accepts rt (w ++ [newline]) := (Identifier.accepts_iff k).mpr (.inr ⟨w, rfl, hw⟩)
  exact Identifier.not_word_newline (hmeets.exact.mp haccepts)

/-- A validator meets its grammar on a string exactly when this is no word with a line feed after it. -/
theorem meets_iff (rt : Runtime) (k : Identifier) (s : PyStr) :
    k.Meets rt s ↔ ¬ ∃ w, s = w ++ [newline] ∧ k.Word w := by
  constructor
  · rintro hmeets ⟨w, rfl, hw⟩
    exact not_meets hw hmeets
  · intro hnot
    have hexact : k.Accepts rt s ↔ k.Word s := (Identifier.accepts_iff k).trans (or_iff_left hnot)
    exact ⟨hexact, fun haccepts c hc => Identifier.clean_of_bounds ((hexact.mp haccepts).bounds c hc)⟩

/-- Every validator of a name accepts `a` with a line feed after it. -/
theorem meets_fails : ¬ ∃ k ∈ [Identifier.taskId, .artifactName [], .evidenceId, .canonicalTaskId [],
    .generatedId []], k.Meets (small 4300) [97, newline] := by
  have hletter : Identifier.IsLetterOrDigit 97 := isLetterOrDigit_iff.mp rfl
  have hlower : Identifier.IsLowerOrDigit 97 := isLowerOrDigit_iff.mp rfl
  have htoken : ∀ {first rest : CodePoint → Prop} {bound : Nat}, first 97 → TokenWord first rest bound [97] :=
    fun h => ⟨97, [], rfl, h, fun _ hc => absurd hc List.not_mem_nil, Nat.zero_le _⟩
  rintro ⟨k, hk, hmeets⟩
  refine not_meets (w := [97]) ?_ hmeets
  fin_cases hk
  · exact htoken hletter
  · exact htoken hletter
  · exact htoken hletter
  · exact htoken hletter
  · exact htoken hlower

end Tomtit
