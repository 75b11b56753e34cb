import TomtitAgent.Python.Text

/-!
# Profile values

The text functions of `profile_memory.py`, `profile_semantics.py` and `memory_operations.py` that
decide what a value denotes and whether it may be stored or shown: `_norm_cmp`,
`canonicalize_memory_value`, `canonical_person_name`, the guards on unsafe, malformed, dirty and
polluted values, the conflicts between preferences and the keys of goals.

The word lists are the source's, in the source's order.
-/

namespace Tomtit
open Py

section
variable (u : Unicode)

/-! ### comparison keys -/

def normCmp (value : PyStr) : PyStr := collapse (u.lower (strip value))

/-- The characters `.!?？,`. -/
def edgePunctuation : PyStr := py ".!?？,"

def canonicalizeMemoryValue (value : PyStr) : PyStr :=
  u.lower (strip (collapse (rstripOf edgePunctuation (strip value))))

def personDiscourseModifiers : List PyStr := [py "cũng", py "vẫn", py "đều", py "cả", py "thêm",
  py "nữa", py "đang"]

def isDiscourseModifier (token : PyStr) : Bool := u.lower token ∈ personDiscourseModifiers

def canonicalPersonName (name : PyStr) : PyStr :=
  let tokens := split (collapse (strip name))
  let core := ((tokens.dropWhile (isDiscourseModifier u)).reverse.dropWhile
    (isDiscourseModifier u)).reverse
  if core = [] then collapse (strip name) else joinWith [space] core

/-! ### what may be stored -/

def unsafeValuePhrases : List PyStr := [py "thuốc phiện", py "thuoc phien", py "ma túy",
  py "ma tuy", py "cần sa", py "can sa", py "ma đá", py "ma da", py "chất cấm", py "chat cam",
  py "mật khẩu", py "mat khau", py "api key", py "căn cước", py "can cuoc", py "số tài khoản",
  py "so tai khoan", py "số điện thoại", py "so dien thoai", py "địa chỉ nhà", py "dia chi nha"]

def unsafeValueTokens : List PyStr := [py "cocaine", py "cocain", py "coke", py "heroin",
  py "heroine", py "meth", py "methamphetamine", py "amphetamine", py "cannabis", py "marijuana",
  py "weed", py "opium", py "ketamine", py "lsd", py "mdma", py "ecstasy", py "password",
  py "passwd", py "token", py "secret", py "otp", py "cmnd", py "cccd", py "passport"]

def unsafeValueExact : List PyStr := [py "đá", py "da"]

def isUnsafeOrSensitiveAutoValue (value : PyStr) : Bool :=
  let v := u.lower (strip value)
  if v = [] then false
  else if v ∈ unsafeValueExact then true
  else if unsafeValuePhrases.any (contains v) then true
  else (runs u.isWord v).any fun tok => tok ∈ unsafeValueTokens

def vagueRefs : List PyStr := [py "nó", py "đó", py "này", py "kia", py "vậy", py "thế",
  py "cái này", py "cái đó", py "cái kia", py "thứ này", py "thứ kia", py "việc này",
  py "việc đó", py "điều này", py "điều đó"]

def isValidAutoValueShape (value : PyStr) : Bool :=
  let v := strip value
  if v = [] ∨ v.length > 80 then false
  else if v.length < 3 then upperToken 2 5 v
  else decide (u.lower v ∉ vagueRefs)

/-! ### what may be shown -/

def dirtyValueMarkers : List PyStr := [py "tôi biết", py "tôi không biết", py "mình biết",
  py "mình không biết", py "tôi đã nói", py "tôi bảo", py "đã nói:", py "nữa tôi", py ":",
  py "nhưng không", py "mà không biết", py "còn không biết"]

def dirtyValueTerminal : List PyStr := [py " nữa", py " rồi", py " mà", py " đấy", py " đó"]

def dirtyValueQuestionTails : List PyStr := [py "gì", py "gi", py "nào", py "đâu", py "dau",
  py "bao giờ", py "khi nào"]

def isDirtyValue (value : PyStr) : Bool :=
  let v := collapse (u.lower (strip value))
  dirtyValueMarkers.any (contains v) ||
  dirtyValueQuestionTails.any (fun p => v = p || endsWith v (space :: p)) ||
  (split (strip value)).getLast? = some (py "ai") ||
  dirtyValueTerminal.any (endsWith v)

def pollutedPreferenceValues : List PyStr := [py "ai", py "gì", py "gi", py "uống gì",
  py "uong gi", py "ăn gì", py "an gi"]

def pollutedInterrogativeEndings : List PyStr := [py " gì", py " gi", py " đâu", py " nào"]

def pollutedYesnoEndings : List PyStr := [py " đúng không", py " phải không", py " không",
  py " chưa", py " à", py " hả", py " nhỉ"]

def pollutedAffectionMarkers : List PyStr := [py "có nghĩa là tôi thích", py "nghĩa là tôi thích",
  py "tôi thích đơn phương", py "đơn phương", py "chưa là người yêu"]

def isPollutedPreference (val : PyStr) : Bool :=
  let raw := collapse (strip val)
  let v := u.lower raw
  v = [] ||
  raw = py "ai" ||
  decide (v ∈ pollutedPreferenceValues ∧ v ≠ py "ai") ||
  pollutedInterrogativeEndings.any (endsWith v) ||
  pollutedYesnoEndings.any (endsWith v) ||
  pollutedAffectionMarkers.any (contains v)

/-! ### preferences -/

/-- `_KNOWN_PREFERENCE_TOKEN_CANONICALS` -/
def knownPreferenceTokenCanonicals : List (PyStr × PyStr) :=
  [(py "chối", py "chuối"), (py "lem", py "kem")]

def canonicalizeKnownPreferenceValue (value : PyStr) : PyStr :=
  let cleaned := strip (collapse (strip value))
  if cleaned = [] then value
  else joinWith [space] ((split cleaned).map fun part =>
    (knownPreferenceTokenCanonicals.lookup (u.lower part)).getD part)

/-- `_positive_preference_terms`, with the elements of the set in the order they are added. -/
def positivePreferenceTerms (value : PyStr) : List PyStr :=
  let v := normCmp u value
  if v = [] then []
  else
    let afterVerb (pre : PyStr) : List PyStr :=
      if startsWith v pre ∧ strip (v.drop pre.length) ≠ [] then [strip (v.drop pre.length)] else []
    let terms := v :: (afterVerb (py "uống ") ++ afterVerb (py "ăn "))
    let both := startsWith v (py "cả ")
    let w := if both then strip (v.drop 3) else v
    let terms := terms ++ if both then [w] else []
    if contains w (py " hơn ") then
      let left := strip ((splitSep (py " hơn ") w).headD [])
      terms ++ if left = [] then [] else [left]
    else
      let parts := if contains w (py " và ") then
        ((splitSep (py " và ") w).map strip).filter (· ≠ []) else []
      let sugarless := py " không đường"
      let head := strip (w.take (w.length - sugarless.length))
      terms ++ parts ++ if endsWith w sugarless ∧ head ≠ [] then [head] else []

def preferenceConflicts (a b : PyStr) : Bool :=
  let a := canonicalizeKnownPreferenceValue u a
  let b := canonicalizeKnownPreferenceValue u b
  normCmp u a = normCmp u b ||
  (positivePreferenceTerms u a).any fun t => t ∈ positivePreferenceTerms u b

def professionalTokens : List PyStr := [py "ai", py "ml", py "llm", py "build", py "code",
  py "coding", py "lập", py "trình", py "lập trình", py "backend", py "frontend", py "fullstack",
  py "devops", py "agent", py "startup", py "web", py "data", py "research", py "model", py "app",
  py "software", py "engineer", py "engineering", py "python", py "java", py "golang", py "rust",
  py "react", py "sql", py "cloud", py "api", py "planner", py "runtime", py "tool", py "memory",
  py "rag", py "mcp", py "a2a", py "docker", py "git", py "blogger", py "bloger", py "founder",
  py "it", py "dev", py "developer", py "developper"]

def vnProfessionalSingle : List PyStr := [py "nông"]

def personalTokens : List PyStr := [py "uống", py "ăn", py "chơi", py "du", py "lịch",
  py "du lịch", py "phượt", py "thể", py "thao", py "thể thao", py "bơi", py "cafe", py "cà",
  py "phê", py "cà phê", py "đọc", py "sách", py "guitar", py "nhạc", py "phim", py "game",
  py "bóng", py "đá bóng", py "chạy", py "gym", py "yoga"]

/-- A phrase of the list occurs in `v`, or a word of it is among the `words`. -/
def hasToken (tokens : List PyStr) (v : PyStr) (words : List PyStr) : Bool :=
  (tokens.filter (space ∈ ·)).any (contains v) ||
  words.any fun w => w ∈ tokens.filter (space ∉ ·)

def hasProfessionalToken (value : PyStr) : Bool :=
  let v := u.lower value
  hasToken professionalTokens v (runs (fun c => isLower c || isDigit c || c = 43 || c = 35) v) ||
  (split v).any fun w => w ∈ vnProfessionalSingle

def hasPersonalToken (value : PyStr) : Bool :=
  let v := u.lower value
  hasToken personalTokens v (runs u.isWord v)

def classifyPreferenceKind (value : PyStr) : PyStr :=
  if hasProfessionalToken u value && !hasPersonalToken u value then py "professional"
  else py "personal"

def foodContextPrefixes : List PyStr := [py "ăn ", py "uống "]

def isFoodValue (value : PyStr) : Bool :=
  foodContextPrefixes.any (startsWith (u.lower (strip value)))

/-! ### goals -/

def goalKeyVerbPrefixes : List PyStr := [py "làm ", py "build ", py "xây dựng "]

/-- One pass of the loop of `_goal_conflict_key` over the leading verbs. -/
def stripGoalVerbs (key : PyStr) : PyStr :=
  goalKeyVerbPrefixes.foldl
    (fun key pre => if startsWith key pre then strip (key.drop pre.length) else key) key

/-- The loop of `_goal_conflict_key`: a pass that strips a verb makes the key shorter. -/
def stripGoalVerbsLoop (key : PyStr) : PyStr :=
  if (stripGoalVerbs key).length < key.length then stripGoalVerbsLoop (stripGoalVerbs key)
  else stripGoalVerbs key
termination_by key.length

def goalConflictKey (value : PyStr) : PyStr := stripGoalVerbsLoop (canonicalizeMemoryValue u value)

def goalKeysMatch (storedKey queryKey : PyStr) : Bool :=
  let stored := split storedKey
  let query := split queryKey
  !stored.isEmpty && !query.isEmpty &&
    (stored.all (· ∈ query) || query.all (· ∈ stored))

def aiTaxonomyTerms : List PyStr := [py "ai", py "llm", py "slm", py "agent ai", py "ai agent",
  py "ai agent coder", py "machine learning", py "ml", py "deep learning", py "học máy",
  py "học sâu"]

def valueRelatesToAi (value : PyStr) : Bool :=
  let v := normCmp u value
  if v = [] then false
  else (split v).any (· ∈ [py "ai", py "ml", py "llm", py "slm"]) ||
    (aiTaxonomyTerms.filter (space ∈ ·)).any (contains v)

end

/-! ### keys word by word -/

section
variable (u : Unicode)

theorem normCmp_eq (value : PyStr) : normCmp u value = joinWith [space] ((split value).map u.lower) :=
  u.collapse_lower_strip value

theorem map_lower_words (value : PyStr) : ∀ w ∈ (split value).map u.lower, IsWord w := by
  intro w hw
  obtain ⟨v, hv, rfl⟩ := List.mem_map.mp hw
  exact u.isWord_lower (split_words value v hv)

theorem split_normCmp (value : PyStr) : split (normCmp u value) = (split value).map u.lower := by
  rw [normCmp_eq, split_joinWith (map_lower_words u value)]

theorem normCmp_eq_iff {a b : PyStr} :
    normCmp u a = normCmp u b ↔ (split a).map u.lower = (split b).map u.lower := by
  rw [← split_normCmp, ← split_normCmp]
  refine ⟨fun h => by rw [h], fun h => ?_⟩
  rw [split_normCmp, split_normCmp] at h
  rw [normCmp_eq, normCmp_eq, h]

theorem normCmp_normCmp (value : PyStr) : normCmp u (normCmp u value) = normCmp u value := by
  rw [normCmp_eq_iff, split_normCmp, List.map_map]
  exact List.map_congr_left fun w _ => u.lower_lower w

theorem normCmp_word {w : PyStr} (hw : IsWord w) : normCmp u w = u.lower w := by
  rw [normCmp_eq, split_word hw.1 hw.2, List.map_singleton, joinWith_singleton]

/-! ### known preference values -/

def correctWord (part : PyStr) : PyStr :=
  (knownPreferenceTokenCanonicals.lookup (u.lower part)).getD part

theorem canonicalizeKnown_eq {value : PyStr} (h : split value ≠ []) :
    canonicalizeKnownPreferenceValue u value = joinWith [space] ((split value).map (correctWord u)) := by
  have hcleaned : strip (collapse (strip value)) = joinWith [space] (split value) := by
    rw [collapse_strip, strip_joinWith (split_words value)]
  have hne : joinWith [space] (split value) ≠ [] := by
    intro e
    have hsplit := split_joinWith (split_words value)
    rw [e, split_nil] at hsplit
    exact h hsplit.symm
  unfold canonicalizeKnownPreferenceValue
  rw [hcleaned]
  dsimp only
  rw [if_neg hne, split_joinWith (split_words value)]
  rfl

theorem canonicalizeKnown_blank {value : PyStr} (h : split value = []) :
    canonicalizeKnownPreferenceValue u value = value := by
  have hcleaned : strip (collapse (strip value)) = [] := by
    rw [collapse_strip, h]
    rfl
  unfold canonicalizeKnownPreferenceValue
  rw [hcleaned]
  rfl

theorem correctWord_eq (w : PyStr) :
    correctWord u w = if u.lower w = py "chối" then py "chuối"
      else if u.lower w = py "lem" then py "kem" else w := by
  have hlookup : ∀ k : PyStr, knownPreferenceTokenCanonicals.lookup k =
      if k = py "chối" then some (py "chuối") else if k = py "lem" then some (py "kem") else none := by
    intro k
    unfold knownPreferenceTokenCanonicals
    rw [List.lookup_cons, List.lookup_cons, List.lookup_nil]
    by_cases h : k = py "chối"
    · rw [if_pos h, beq_iff_eq.mpr h]
    · rw [if_neg h, beq_eq_false_iff_ne.mpr h]
      by_cases h' : k = py "lem"
      · rw [if_pos h', beq_iff_eq.mpr h']
      · rw [if_neg h', beq_eq_false_iff_ne.mpr h']
  unfold correctWord
  rw [hlookup]
  split_ifs <;> rfl

theorem oAcute_small : 'ố' ∈ vietnameseLetters.toList := by
  rw [← mem_py]
  unfold vietnameseLetters
  rw [py_ofList]
  decide

theorem correctWord_spec {w : PyStr} (hw : IsWord w) :
    IsWord (correctWord u w) ∧ correctWord u (correctWord u w) = correctWord u w := by
  have hchuoi : u.lower (py "chuối") = py "chuối" := u.lower_py (by simp [oAcute_small])
  have hkem : u.lower (py "kem") = py "kem" := u.lower_py (by simp)
  rw [correctWord_eq]
  by_cases h : u.lower w = py "chối"
  · rw [if_pos h, correctWord_eq, hchuoi]
    exact ⟨isWord_py (by simp) (by simp; decide), by simp⟩
  · rw [if_neg h]
    by_cases h' : u.lower w = py "lem"
    · rw [if_pos h', correctWord_eq, hkem]
      exact ⟨isWord_py (by simp) (by simp; decide), by simp⟩
    · rw [if_neg h', correctWord_eq, if_neg h, if_neg h']
      exact ⟨hw, rfl⟩

theorem canonicalizeKnown_idem (value : PyStr) :
    canonicalizeKnownPreferenceValue u (canonicalizeKnownPreferenceValue u value) =
      canonicalizeKnownPreferenceValue u value := by
  by_cases h : split value = []
  · rw [canonicalizeKnown_blank u h, canonicalizeKnown_blank u h]
  · have hwords : ∀ w ∈ (split value).map (correctWord u), IsWord w := by
      intro w hw
      obtain ⟨v, hv, rfl⟩ := List.mem_map.mp hw
      exact (correctWord_spec u (split_words value v hv)).1
    have hsplit : split (canonicalizeKnownPreferenceValue u value) =
        (split value).map (correctWord u) := by
      rw [canonicalizeKnown_eq u h, split_joinWith hwords]
    have hne : split (canonicalizeKnownPreferenceValue u value) ≠ [] := by
      rw [hsplit]
      intro e
      exact h (List.map_eq_nil_iff.mp e)
    have hmap : ((split value).map (correctWord u)).map (correctWord u) =
        (split value).map (correctWord u) := by
      rw [List.map_map]
      exact List.map_congr_left fun w hw => (correctWord_spec u (split_words value w hw)).2
    rw [canonicalizeKnown_eq u hne, hsplit, hmap, canonicalizeKnown_eq u h]

/-! ### safe values -/

theorem unsafeValuePhrases_space : ∀ p ∈ unsafeValuePhrases, space ∈ p := by
  have hspace : space = CodePoint.ofChar ' ' := rfl
  simp [unsafeValuePhrases, hspace, mem_py]

theorem isUnsafe_word {w : PyStr} (hw : IsWord w) (hchars : ∀ c ∈ u.lower w, u.isWord c = true)
    (hexact : u.lower w ∉ unsafeValueExact) (htoken : u.lower w ∉ unsafeValueTokens) :
    isUnsafeOrSensitiveAutoValue u w = false := by
  have hlower := u.isWord_lower hw
  have hstrip : strip w = w := strip_of_edges (isWord_edges hw).1 (isWord_edges hw).2
  have hphrases : unsafeValuePhrases.any (contains (u.lower w)) = false := by
    rw [List.any_eq_false]
    intro p hp h
    have hs := hlower.2 space ((contains_iff.mp h).subset (unsafeValuePhrases_space p hp))
    rw [isSpace_space] at hs
    exact Bool.noConfusion hs
  have hruns : runs u.isWord (u.lower w) = [u.lower w] := by
    have hnone : ∀ c ∈ u.lower w, (!u.isWord c) = false := by
      intro c hc
      rw [hchars c hc]
      rfl
    unfold runs
    rw [List.splitOnP_eq_singleton hnone]
    exact List.filter_cons_of_pos (by simpa using hlower.1)
  unfold isUnsafeOrSensitiveAutoValue
  rw [hstrip]
  dsimp only
  rw [if_neg hlower.1, if_neg hexact, hphrases, if_neg Bool.false_ne_true, hruns]
  simpa using htoken

/-! ### clean values -/

theorem dirtyValueMarkers_space : ∀ m ∈ dirtyValueMarkers, space ∈ m ∨ m = py ":" := by
  have hspace : space = CodePoint.ofChar ' ' := rfl
  simp [dirtyValueMarkers, hspace, mem_py]

theorem dirtyValueTerminal_space : ∀ m ∈ dirtyValueTerminal, space ∈ m := by
  have hspace : space = CodePoint.ofChar ' ' := rfl
  simp [dirtyValueTerminal, hspace, mem_py]

theorem isDirtyValue_word {w : PyStr} (hw : IsWord w) (hcolon : CodePoint.ofChar ':' ∉ u.lower w)
    (htail : u.lower w ∉ dirtyValueQuestionTails) (hai : w ≠ py "ai") : isDirtyValue u w = false := by
  have hnospace : space ∉ u.lower w := by
    intro h
    have hs := (u.isWord_lower hw).2 space h
    rw [isSpace_space] at hs
    exact Bool.noConfusion hs
  have hsuffix : ∀ t : PyStr, space ∈ t → endsWith (u.lower w) t = false := by
    intro t ht
    rw [← Bool.not_eq_true, endsWith_iff]
    rintro ⟨base, e⟩
    exact hnospace (e ▸ List.mem_append_right base ht)
  have hmarkers : dirtyValueMarkers.any (contains (u.lower w)) = false := by
    rw [List.any_eq_false]
    intro m hm h
    have hsub := (contains_iff.mp h).subset
    rcases dirtyValueMarkers_space m hm with hs | rfl
    · exact hnospace (hsub hs)
    · exact hcolon (hsub (mem_py.mpr (by simp)))
  have htails : dirtyValueQuestionTails.any
      (fun p => u.lower w = p || endsWith (u.lower w) (space :: p)) = false := by
    rw [List.any_eq_false]
    intro p hp h
    rw [hsuffix _ List.mem_cons_self, Bool.or_false, decide_eq_true_eq] at h
    exact htail (h ▸ hp)
  have hterminal : dirtyValueTerminal.any (endsWith (u.lower w)) = false := by
    rw [List.any_eq_false]
    intro t ht h
    rw [hsuffix t (dirtyValueTerminal_space t ht)] at h
    exact Bool.noConfusion h
  have hlast : (split (strip w)).getLast? = some w := by
    rw [split_strip, split_word hw.1 hw.2]
    rfl
  unfold isDirtyValue
  rw [show collapse (u.lower (strip w)) = u.lower w from normCmp_word u hw]
  dsimp only
  rw [hmarkers, htails, hterminal, hlast]
  simpa using hai

theorem isDirtyValue_of_chars {value : PyStr}
    (hmarks : ∀ m ∈ dirtyValueMarkers ++ dirtyValueQuestionTails ++ dirtyValueTerminal,
      ¬ m ⊆ normCmp u value)
    (hai : (split (strip value)).getLast? ≠ some (py "ai")) : isDirtyValue u value = false := by
  have hmarkers : dirtyValueMarkers.any (contains (normCmp u value)) = false := by
    rw [List.any_eq_false]
    intro m hm h
    exact hmarks m (List.mem_append_left _ (List.mem_append_left _ hm)) (contains_iff.mp h).subset
  have htails : dirtyValueQuestionTails.any
      (fun p => normCmp u value = p || endsWith (normCmp u value) (space :: p)) = false := by
    rw [List.any_eq_false]
    intro p hp h
    refine hmarks p (List.mem_append_left _ (List.mem_append_right _ hp)) ?_
    rw [Bool.or_eq_true, decide_eq_true_eq] at h
    rcases h with h | h
    · rw [h]
      exact List.Subset.refl p
    · obtain ⟨base, e⟩ := endsWith_iff.mp h
      rw [e]
      exact List.subset_append_of_subset_right base (List.subset_cons_self space p)
  have hterminal : dirtyValueTerminal.any (endsWith (normCmp u value)) = false := by
    rw [List.any_eq_false]
    intro t ht h
    obtain ⟨base, e⟩ := endsWith_iff.mp h
    refine hmarks t (List.mem_append_right _ ht) ?_
    rw [e]
    exact List.subset_append_right base t
  unfold isDirtyValue
  show (dirtyValueMarkers.any (contains (normCmp u value)) || _ || _ ||
    dirtyValueTerminal.any (endsWith (normCmp u value))) = false
  rw [hmarkers, hterminal, Bool.false_or, Bool.or_false, Bool.or_eq_false_iff]
  exact ⟨htails, decide_eq_false hai⟩

end

end Tomtit
