import TomtitAgent.Conversation.NearMatch
import TomtitAgent.Conversation.Snapshot

/-!
# Preference questions

"do I like X?" is answered by one chain of lookups in the snapshot when it names one thing, and by
another, item by item, when it names several.  The chains ask the affections and their negations in
opposite orders, and at their end one compares the favourites by `_norm_cmp` where the other takes them
apart with `_matches_preference_query`.

`agreesAlone_iff`   the snapshots and the items for which both chains come to the same state.
-/

open Py

namespace Tomtit

inductive PreferenceState where
  | positive | negative | unknown
deriving DecidableEq, Repr

section
variable (env : MemoryEnv)

/-! ### the items of a question -/

def itemMarkers : List PyStr := [py "cả", py "cũng", py "còn", py "thêm"]

def dropItemMarker (s : PyStr) : PyStr :=
  match itemMarkers.find? fun m => env.lower (s.take m.length) = m ∧ (s[m.length]?).any isSpace with
  | some m => (s.drop m.length).dropWhile isSpace
  | none => s

def stripBatchItemMarker (value : PyStr) : PyStr :=
  strip (dropItemMarker env (collapse (rstripOf edgePunctuation (strip value))))

/-- `re.split(r'\s+và\s+', chunk, flags=re.IGNORECASE)` of a collapsed text, with what is read of the
present piece backwards. -/
def splitAnd (cur : PyStr) : PyStr → List PyStr
  | a :: b :: c :: d :: s =>
    if isSpace a ∧ env.lower [b] = py "v" ∧ env.lower [c] = py "à" ∧ isSpace d then
      cur.reverse :: splitAnd [] s
    else splitAnd (a :: cur) (b :: c :: d :: s)
  | s => [cur.reverse ++ s]

def preferenceQuerySharedPrefixes : List PyStr := [py "ăn ", py "uống "]

def splitPreferenceQueryItems (value : PyStr) : List PyStr :=
  let raw := strip (collapse (strip value))
  if raw = [] then []
  else
    let chunks := (splitSep (py ",") raw).map strip
    let parts := ((chunks.flatMap (splitAnd env [])).map (stripBatchItemMarker env)).filter (· ≠ [])
    match parts with
    | [] => []
    | first :: _ =>
      match preferenceQuerySharedPrefixes.find? (startsWith (env.lower first)) with
      | some shared => parts.map fun p =>
        if preferenceQuerySharedPrefixes.any (startsWith (env.lower p)) then p else shared ++ p
      | none => parts

/-! ### the object of a question -/

def activePreferenceQueryCandidates (snap : ProfileSnapshot) : List PyStr :=
  (snap.preferencesPersonal ++ snap.preferencesProfessional ++ snap.dislikes).foldl (addValue env) []

def technicalConceptTokens : List PyStr := [py "AI", py "ML", py "LLM", py "SLM", py "NLP", py "Agent"]

def technicalConceptPhrases : List PyStr := [py "AI Agent"]

def looksLikeTechnicalConcept (value : PyStr) : Bool :=
  let stripped := collapse (strip value)
  decide (stripped ∈ technicalConceptPhrases) ||
    (split stripped).any fun tok => decide (tok ∈ technicalConceptTokens) ||
      (tok.all (fun c => isUpper c || isDigit c) && decide (2 ≤ tok.length))

def canonicalizeKnownPreferenceQueryObject (raw : PyStr) (activeCandidates : List PyStr) :
    Option PyStr :=
  let rawClean := canonicalizeKnownPreferenceValue env.toUnicode (strip (collapse (strip raw)))
  let rawKey := env.norm rawClean
  if rawKey = [] ∨ rawKey.length < 5 ∨ looksLikeTechnicalConcept rawClean then none
  else
    let candidates := activeCandidates.map fun c => strip (collapse (strip c))
    match (candidates.filter fun c => env.norm c = rawKey).foldl (addValue env) [] with
    | [exact] => some exact
    | _ :: _ :: _ => some rawClean
    | [] =>
      let near := candidates.filter fun c => env.norm c ≠ [] ∧ env.norm c ≠ rawKey ∧
        5 ≤ (env.norm c).length ∧ looksLikeTechnicalConcept c = false ∧
        editDistanceAtMostOne rawKey (env.norm c) = true
      match near.foldl (addValue env) [] with
      | [only] => some only
      | _ => none

def canonicalizePreferenceQueryObject (value : PyStr) (snap : ProfileSnapshot) : PyStr :=
  let value := canonicalizeKnownPreferenceValue env.toUnicode value
  match canonicalizeKnownPreferenceQueryObject env value (activePreferenceQueryCandidates env snap) with
  | some (c :: cs) => c :: cs
  | _ => value

/-! ### lookups -/

/-- `_preference_query_terms`, with the elements of the set in the order they are added. -/
def preferenceQueryTerms (value : PyStr) : List PyStr :=
  let v := env.norm value
  if v = [] then []
  else v :: [py "uống ", py "ăn "].filterMap fun pre =>
    if startsWith v pre ∧ strip (v.drop pre.length) ≠ [] then some (strip (v.drop pre.length)) else none

def matchesPreferenceQuery (storedValue queryValue : PyStr) : Bool :=
  (positivePreferenceTerms env.toUnicode storedValue).any (· ∈ preferenceQueryTerms env queryValue)

/-- `target in {_norm_cmp(v) for v in values}` -/
def amongKeys (values : List PyStr) (item : PyStr) : Bool := values.any fun v => env.norm v = env.norm item

/-- The key is that of a value, or a value matches the item. -/
def amongValues (values : List PyStr) (item : PyStr) : Bool :=
  amongKeys env values item || values.any fun v => matchesPreferenceQuery env v item

/-- `value and test(value)` of an optional text. -/
def truthyAnd (test : PyStr → Bool) : Option PyStr → Bool
  | some (c :: cs) => test (c :: cs)
  | _ => false

def preferenceItemState (item : PyStr) (snap : ProfileSnapshot) : PreferenceState :=
  let prefValues := snap.preferencesPersonal ++ snap.preferencesProfessional
  if amongKeys env snap.negativeAffections item then .negative
  else if amongKeys env snap.affections item then .positive
  else if amongValues env snap.dislikes item then .negative
  else if amongValues env prefValues item then .positive
  else if (snap.comparatives.map Prod.fst).any fun w => matchesPreferenceQuery env w item then .positive
  else if truthyAnd (matchesPreferenceQuery env · item) snap.favoriteFood then .positive
  else if truthyAnd (matchesPreferenceQuery env · item) snap.favoriteGeneral then .positive
  else .unknown

/-! ### the answers -/

inductive PreferenceReply where
  | loved (item : PyStr)
  | nobody
  | retracted (item : PyStr)
  | disliked (item : PyStr)
  | liked (item : PyStr)
  | onlySkill (item : PyStr)
  | onlyDesire (item : PyStr)
  | unknown (item : PyStr)

def PreferenceReply.text : PreferenceReply → PyStr
  | .loved v => py "Có, mình đang nhớ là bạn thích " ++ v ++ py "."
  | .nobody => py "Mình chưa có thông tin về người bạn thích."
  | .retracted v => py "Không, hiện tại bạn không còn thích/quan tâm " ++ v ++ py "."
  | .disliked v => py "Không, bạn từng nói là không thích " ++ v ++ py "."
  | .liked v => py "Có, mình đang nhớ bạn thích " ++ v ++ py "."
  | .onlySkill v => py "Mình đang nhớ bạn biết " ++ v ++ py ", nhưng chưa lưu \"" ++ v ++
    py "\" như một sở thích."
  | .onlyDesire v => py "Bạn từng nói muốn ăn " ++ v ++ py ", nên hiện tại mình hiểu bạn có hứng " ++
    py "thú với " ++ v ++ py ". Mình chưa có câu rõ ràng rằng đó là sở thích lâu dài."
  | .unknown v => py "Mình chưa thấy thông tin rằng bạn thích " ++ v ++ py "."

def PreferenceReply.state : PreferenceReply → PreferenceState
  | .loved _ | .liked _ => .positive
  | .retracted _ | .disliked _ => .negative
  | .nobody | .onlySkill _ | .onlyDesire _ | .unknown _ => .unknown

/-- The `preference` branch of `answer_yes_no_memory_query` for one item. -/
def answerPreferenceItem (value : PyStr) (snap : ProfileSnapshot) : PreferenceReply :=
  let queryValue := canonicalizePreferenceQueryObject env value snap
  let prefValues := snap.preferencesPersonal ++ snap.preferencesProfessional
  if strip value = py "ai" then
    match snap.affections with
    | first :: _ => .loved first
    | [] => .nobody
  else if amongKeys env snap.affections queryValue then .loved queryValue
  else if amongKeys env snap.negativeAffections queryValue then .retracted queryValue
  else if amongValues env snap.dislikes queryValue then .disliked queryValue
  else if amongValues env prefValues queryValue then .liked queryValue
  else if amongKeys env (snap.comparatives.map Prod.fst) queryValue then .liked queryValue
  else if truthyAnd (fun v => env.norm v = env.norm queryValue) snap.favoriteFood then .liked queryValue
  else if truthyAnd (fun v => env.norm v = env.norm queryValue) snap.favoriteGeneral then
    .liked queryValue
  else if amongKeys env snap.skills queryValue then .onlySkill queryValue
  else if amongKeys env snap.eatDesires queryValue then .onlyDesire queryValue
  else .unknown queryValue

def joinVietnameseItems (items : List PyStr) : PyStr :=
  match items.getLast? with
  | none => []
  | some last =>
    if items.length = 1 then last else joinWith (py ", ") items.dropLast ++ py " và " ++ last

def itemsOf (state : PreferenceState) (items : List PyStr) (snap : ProfileSnapshot) : List PyStr :=
  (items.map fun item => canonicalizePreferenceQueryObject env item snap).filter fun item =>
    preferenceItemState env item snap = state

def answerBatchPreferenceYesno (items : List PyStr) (snap : ProfileSnapshot) : PyStr :=
  let positive := itemsOf env .positive items snap
  let negative := itemsOf env .negative items snap
  let unknown := itemsOf env .unknown items snap
  if positive ≠ [] ∧ negative = [] ∧ unknown = [] then
    py "Có, bạn thích " ++ joinVietnameseItems positive ++ py "."
  else if negative ≠ [] ∧ positive = [] ∧ unknown = [] then
    py "Không, bạn không thích " ++ joinVietnameseItems negative ++ py "."
  else
    let parts :=
      (if positive = [] then [] else [py "Bạn thích " ++ joinVietnameseItems positive]) ++
      (if negative = [] then [] else [(if positive = [] then py "Bạn " else py "nhưng ") ++
        py "không thích " ++ joinVietnameseItems negative])
    if unknown = [] then joinWith (py ", ") parts ++ py "."
    else if positive = [] ∧ negative = [] then
      py "Mình chưa có thông tin về " ++ joinVietnameseItems unknown ++ py "."
    else joinWith (py ", ") parts ++ py "; còn " ++ joinVietnameseItems unknown ++
      py " thì mình chưa có thông tin."

/-- How a preference question is answered: item by item, or as a question about one item. -/
inductive PreferenceAnswer where
  | batch (text : PyStr)
  | alone (reply : PreferenceReply)

/-- The `preference` branch of `answer_yes_no_memory_query`. -/
def answerPreference (value : PyStr) (snap : ProfileSnapshot) : PreferenceAnswer :=
  let items := splitPreferenceQueryItems env (strip value)
  if 2 ≤ items.length then .batch (answerBatchPreferenceYesno env items snap)
  else .alone (answerPreferenceItem env value snap)

def PreferenceAnswer.text : PreferenceAnswer → PyStr
  | .batch text => text
  | .alone reply => reply.text

/-- `answer_yes_no_memory_query` of the category `preference`. -/
def answerYesNoPreference (value : PyStr) (w : World) : PyStr :=
  (answerPreference env value (collectProfileSnapshot env w)).text

/-! ### the condition -/

/-- The question about one item is answered with the state that a batch gives the item. -/
def AgreesAlone (value : PyStr) (snap : ProfileSnapshot) : Prop :=
  ∀ reply, answerPreference env value snap = .alone reply →
    reply.state = preferenceItemState env (canonicalizePreferenceQueryObject env value snap) snap

/-- The winners of comparisons and the favourites, which both chains look up last. -/
def favoured (snap : ProfileSnapshot) : List PyStr :=
  snap.comparatives.map Prod.fst ++ (snap.favoriteFood.toList ++ snap.favoriteGeneral.toList).filter
    (· ≠ [])

/-- One of the lists that both chains ask first knows the item. -/
def decidedFirst (item : PyStr) (snap : ProfileSnapshot) : Prop :=
  amongKeys env snap.affections item = true ∨ amongKeys env snap.negativeAffections item = true ∨
    amongValues env snap.dislikes item = true ∨
    amongValues env (snap.preferencesPersonal ++ snap.preferencesProfessional) item = true

/-- No person is both loved and not; and a winner or favourite that matches the item has its key. -/
structure SameLookup (item : PyStr) (snap : ProfileSnapshot) : Prop where
  apart : amongKeys env snap.affections item = true → amongKeys env snap.negativeAffections item = false
  favoured : decidedFirst env item snap ∨
    (∃ v ∈ favoured snap, env.norm v = env.norm item ∧ env.norm item ≠ []) ∨
    ∀ v ∈ favoured snap, env.norm v ≠ env.norm item ∧ matchesPreferenceQuery env v item = false

/-- What is stored about the word "ai", which a question about one item takes for "who". -/
structure KnowsWho (item : PyStr) (snap : ProfileSnapshot) : Prop where
  notRetracted : amongKeys env snap.negativeAffections item = false
  nobody : snap.affections = [] → ¬ decidedFirst env item snap ∧
    ∀ v ∈ favoured snap, matchesPreferenceQuery env v item = false
  somebody : snap.affections ≠ [] → amongKeys env snap.affections item = true ∨
    amongValues env snap.dislikes item = false ∧
      (decidedFirst env item snap ∨ ∃ v ∈ favoured snap, matchesPreferenceQuery env v item = true)

end

section
variable {env : MemoryEnv} {item : PyStr} {snap : ProfileSnapshot}

/-! ### favourites -/

theorem truthyAnd_eq (test : PyStr → Bool) (value : Option PyStr) :
    truthyAnd test value = (value.toList.filter (· ≠ [])).any test := by
  cases value with
  | none => rfl
  | some v =>
    cases v with
    | nil => rfl
    | cons c cs => exact (Bool.or_false _).symm

/-- Both chains look a test up in the winners, the favourite food and the favourite, one by one. -/
theorem any_favoured (test : PyStr → Bool) (snap : ProfileSnapshot) :
    (favoured snap).any test = ((snap.comparatives.map Prod.fst).any test ||
      (truthyAnd test snap.favoriteFood || truthyAnd test snap.favoriteGeneral)) := by
  rw [favoured, List.any_append, List.filter_append, List.any_append, truthyAnd_eq, truthyAnd_eq]

theorem matches_of_key {v : PyStr} (h : env.norm v = env.norm item) (hne : env.norm item ≠ []) :
    matchesPreferenceQuery env v item = true := by
  have hstored : env.norm v ∈ positivePreferenceTerms env.toUnicode v := by
    unfold positivePreferenceTerms
    rw [if_neg (show env.norm v ≠ [] by rw [h]; exact hne)]
    dsimp only
    split_ifs <;> exact List.mem_append_left _ (List.mem_append_left _ (by simp))
  have hquery : env.norm v ∈ preferenceQueryTerms env item := by
    unfold preferenceQueryTerms
    rw [if_neg hne, h]
    exact List.mem_cons_self
  exact List.any_eq_true.mpr ⟨env.norm v, hstored, decide_eq_true hquery⟩

theorem key_ne_nil_of_matches {v : PyStr} (h : matchesPreferenceQuery env v item = true) :
    env.norm item ≠ [] := by
  intro hnil
  obtain ⟨t, -, ht⟩ := List.any_eq_true.mp h
  rw [preferenceQueryTerms, if_pos hnil] at ht
  exact absurd (of_decide_eq_true ht) List.not_mem_nil

/-! ### the two chains -/

theorem ite_or_or {α : Type} (a b c : Bool) (x y : α) :
    (if a then x else if b then x else if c then x else y) = if a || (b || c) then x else y := by
  cases a <;> cases b <;> cases c <;> rfl

theorem preferenceItemState_eq : preferenceItemState env item snap =
    if amongKeys env snap.negativeAffections item then .negative
    else if amongKeys env snap.affections item then .positive
    else if amongValues env snap.dislikes item then .negative
    else if amongValues env (snap.preferencesPersonal ++ snap.preferencesProfessional) item then
      .positive
    else if (favoured snap).any fun v => matchesPreferenceQuery env v item then .positive
    else .unknown := by
  rw [any_favoured, ← ite_or_or]
  rfl

theorem answerPreferenceItem_state {value : PyStr} (hai : strip value ≠ py "ai")
    (hitem : canonicalizePreferenceQueryObject env value snap = item) :
    (answerPreferenceItem env value snap).state =
    if amongKeys env snap.affections item then .positive
    else if amongKeys env snap.negativeAffections item then .negative
    else if amongValues env snap.dislikes item then .negative
    else if amongValues env (snap.preferencesPersonal ++ snap.preferencesProfessional) item then
      .positive
    else if amongKeys env (favoured snap) item then .positive
    else .unknown := by
  rw [amongKeys.eq_def env (favoured snap), any_favoured, ← ite_or_or]
  unfold answerPreferenceItem
  rw [if_neg hai, hitem]
  simp only [apply_ite PreferenceReply.state]
  simp only [PreferenceReply.state, ite_self]
  rfl

theorem answerPreferenceItem_who {value : PyStr} (hai : strip value = py "ai") :
    (answerPreferenceItem env value snap).state =
      if snap.affections = [] then .unknown else .positive := by
  unfold answerPreferenceItem
  rw [if_pos hai]
  cases snap.affections with
  | nil => rfl
  | cons v vs => rfl

theorem agreesAlone_of_item {value : PyStr} : AgreesAlone env value snap ↔
    ((splitPreferenceQueryItems env (strip value)).length < 2 →
      (answerPreferenceItem env value snap).state =
        preferenceItemState env (canonicalizePreferenceQueryObject env value snap) snap) := by
  unfold AgreesAlone answerPreference
  by_cases h : 2 ≤ (splitPreferenceQueryItems env (strip value)).length
  · rw [if_pos h]
    exact ⟨fun _ hlt => absurd h (Nat.not_le.mpr hlt), fun _ _ hbatch => nomatch hbatch⟩
  · rw [if_neg h]
    constructor
    · intro hall _
      exact hall _ rfl
    · intro hone reply hreply
      rw [← PreferenceAnswer.alone.inj hreply]
      exact hone (Nat.not_le.mp h)

/-! ### agreement -/

theorem favoured_iff : (favoured snap).any (fun v => matchesPreferenceQuery env v item) =
      amongKeys env (favoured snap) item ↔
    (∃ v ∈ favoured snap, env.norm v = env.norm item ∧ env.norm item ≠ []) ∨
      ∀ v ∈ favoured snap, env.norm v ≠ env.norm item ∧ matchesPreferenceQuery env v item = false := by
  by_cases hkey : ∃ v ∈ favoured snap, env.norm v = env.norm item
  · obtain ⟨v, hv, heq⟩ := hkey
    have hamong : amongKeys env (favoured snap) item = true :=
      List.any_eq_true.mpr ⟨v, hv, decide_eq_true heq⟩
    rw [hamong, List.any_eq_true]
    constructor
    · rintro ⟨v', -, hmatch⟩
      exact .inl ⟨v, hv, heq, key_ne_nil_of_matches hmatch⟩
    · rintro (⟨v', hv', heq', hne⟩ | hnone)
      · exact ⟨v', hv', matches_of_key heq' hne⟩
      · exact absurd heq (hnone v hv).1
  · have hamong : amongKeys env (favoured snap) item = false := by
      rw [amongKeys, List.any_eq_false]
      exact fun v hv h => hkey ⟨v, hv, of_decide_eq_true h⟩
    rw [hamong, List.any_eq_false]
    constructor
    · intro hnone
      exact .inr fun v hv => ⟨fun h => hkey ⟨v, hv, h⟩, Bool.eq_false_iff.mpr (hnone v hv)⟩
    · rintro (⟨v, hv, heq, -⟩ | hnone)
      · exact absurd ⟨v, hv, heq⟩ hkey
      · exact fun v hv => Bool.eq_false_iff.mp (hnone v hv).2

theorem sameLookup_iff {value : PyStr} (hai : strip value ≠ py "ai")
    (hitem : canonicalizePreferenceQueryObject env value snap = item) :
    (answerPreferenceItem env value snap).state = preferenceItemState env item snap ↔
      SameLookup env item snap := by
  rw [answerPreferenceItem_state hai hitem, preferenceItemState_eq]
  have hsame : SameLookup env item snap ↔
      (amongKeys env snap.affections item = true →
        amongKeys env snap.negativeAffections item = false) ∧
      (decidedFirst env item snap ∨ (favoured snap).any (fun v => matchesPreferenceQuery env v item) =
        amongKeys env (favoured snap) item) := by
    rw [favoured_iff]
    exact ⟨fun h => ⟨h.apart, h.favoured⟩, fun h => ⟨h.1, h.2⟩⟩
  rw [hsame, decidedFirst]
  generalize (favoured snap).any (fun v => matchesPreferenceQuery env v item) = m
  generalize amongKeys env (favoured snap) item = e
  -- the lists are asked in turn: what one of them decides, the later ones do not change
  cases amongKeys env snap.affections item with
  | true => cases amongKeys env snap.negativeAffections item <;> simp
  | false =>
    cases amongKeys env snap.negativeAffections item with
    | true => simp
    | false =>
      cases amongValues env snap.dislikes item with
      | true => simp
      | false =>
        cases amongValues env (snap.preferencesPersonal ++ snap.preferencesProfessional) item with
        | true => simp
        | false => cases m <;> cases e <;> simp

theorem knowsWho_iff {value : PyStr} (hai : strip value = py "ai") :
    (answerPreferenceItem env value snap).state = preferenceItemState env item snap ↔
      KnowsWho env item snap := by
  rw [answerPreferenceItem_who hai, preferenceItemState_eq]
  have hmatches : (∃ v ∈ favoured snap, matchesPreferenceQuery env v item = true) ↔
      (favoured snap).any (fun v => matchesPreferenceQuery env v item) = true := List.any_eq_true.symm
  have hnone : (∀ v ∈ favoured snap, matchesPreferenceQuery env v item = false) ↔
      (favoured snap).any (fun v => matchesPreferenceQuery env v item) = false := by
    rw [List.any_eq_false]
    exact forall₂_congr fun v _ => Bool.eq_false_iff
  by_cases hnobody : snap.affections = []
  · rw [if_pos hnobody]
    have hwho : KnowsWho env item snap ↔ amongKeys env snap.negativeAffections item = false ∧
        ¬ decidedFirst env item snap ∧
        (favoured snap).any (fun v => matchesPreferenceQuery env v item) = false := by
      rw [← hnone]
      exact ⟨fun h => ⟨h.notRetracted, h.nobody hnobody⟩,
        fun h => ⟨h.1, fun _ => h.2, fun hne => absurd hnobody hne⟩⟩
    have hloved : amongKeys env snap.affections item = false := by
      rw [hnobody]
      rfl
    rw [hwho, decidedFirst, hloved]
    generalize (favoured snap).any (fun v => matchesPreferenceQuery env v item) = m
    cases amongKeys env snap.negativeAffections item with
    | true => simp
    | false =>
      cases amongValues env snap.dislikes item with
      | true => simp
      | false =>
        cases amongValues env (snap.preferencesPersonal ++ snap.preferencesProfessional) item with
        | true => simp
        | false => cases m <;> simp
  · rw [if_neg hnobody]
    have hwho : KnowsWho env item snap ↔ amongKeys env snap.negativeAffections item = false ∧
        (amongKeys env snap.affections item = true ∨ amongValues env snap.dislikes item = false ∧
          (decidedFirst env item snap ∨
            (favoured snap).any (fun v => matchesPreferenceQuery env v item) = true)) := by
      rw [← hmatches]
      exact ⟨fun h => ⟨h.notRetracted, h.somebody hnobody⟩,
        fun h => ⟨h.1, fun hnil => absurd hnil hnobody, fun _ => h.2⟩⟩
    rw [hwho, decidedFirst]
    generalize (favoured snap).any (fun v => matchesPreferenceQuery env v item) = m
    cases amongKeys env snap.negativeAffections item with
    | true => simp
    | false =>
      cases amongKeys env snap.affections item with
      | true => simp
      | false =>
        cases amongValues env snap.dislikes item with
        | true => simp
        | false =>
          cases amongValues env (snap.preferencesPersonal ++ snap.preferencesProfessional) item with
          | true => simp
          | false => cases m <;> simp

variable (env snap) in
/-- A question about one thing is answered as a batch would answer it exactly when the thing is no
person both loved and not, the favourites that match it have its key, and, for "ai", what is stored about
that word is what is stored about whom the user loves. -/
theorem agreesAlone_iff (value : PyStr) : AgreesAlone env value snap ↔
    ((splitPreferenceQueryItems env (strip value)).length < 2 →
      if strip value = py "ai" then
        KnowsWho env (canonicalizePreferenceQueryObject env value snap) snap
      else SameLookup env (canonicalizePreferenceQueryObject env value snap) snap) := by
  rw [agreesAlone_of_item]
  refine imp_congr_right fun _ => ?_
  by_cases hai : strip value = py "ai"
  · rw [if_pos hai]
    exact knowsWho_iff hai
  · rw [if_neg hai]
    exact sameLookup_iff hai rfl

end

def eatsRice : ProfileSnapshot := { favoriteFood := some (py "ăn cơm") }

/-- "tôi có thích cơm không?": asked alone nothing is known, asked beside another item it is liked. -/
theorem not_agreesAlone_rice : ¬ AgreesAlone plainEnv (py "cơm") eatsRice := by
  intro h
  have hrice : (splitPreferenceQueryItems plainEnv (strip (py "cơm"))).length < 2 ∧
      canonicalizePreferenceQueryObject plainEnv (py "cơm") eatsRice = py "cơm" ∧
      (answerPreferenceItem plainEnv (py "cơm") eatsRice).state = .unknown ∧
      preferenceItemState plainEnv (py "cơm") eatsRice = .positive := by
    unfold splitPreferenceQueryItems stripBatchItemMarker dropItemMarker itemMarkers
      preferenceQuerySharedPrefixes edgePunctuation answerPreferenceItem canonicalizePreferenceQueryObject
      canonicalizeKnownPreferenceQueryObject canonicalizeKnownPreferenceValue knownPreferenceTokenCanonicals
      looksLikeTechnicalConcept technicalConceptTokens technicalConceptPhrases preferenceItemState
      amongValues matchesPreferenceQuery positivePreferenceTerms preferenceQueryTerms eatsRice
    repeat rw [py_ofList]
    decide +kernel
  obtain ⟨hone, hobject, halone, hbatch⟩ := hrice
  have hsame := agreesAlone_of_item.mp h hone
  rw [hobject, halone, hbatch] at hsame
  exact PreferenceState.noConfusion hsame

end Tomtit
