import TomtitAgent.Conversation.CanonicalKeys
import TomtitAgent.Conversation.MemoryOperations
import TomtitAgent.Conversation.SemanticContract
import TomtitAgent.Python.RegexScan

/-!
# The operations of a preference sentence

`RuleBasedSemanticOperationExtractor` cuts a preference sentence at its clause heads ("thích", "không
thích"), each clause into items, and proposes an operation for each valid item.  An item that looks like
the name of a person becomes a positive affection, in a negated clause too.

* `detectMemoryComplexity`   which sentences are preference sentences;
* `mem_extract`              the operations of a preference sentence, by the items of its clauses.
-/

namespace Tomtit
open Py

/-- The character tests of `str` that the extractor uses, and the tables of `re`; white space has no letter case. -/
structure ExtractorRuntime extends Unicode where
  tables : ReTables
  fold_space : ∀ c, isSpace (tables.fold c) = isSpace c
  charIsDigit : CodePoint → Bool
  charIsUpper : CodePoint → Bool
  charIsAlpha : CodePoint → Bool

inductive ComplexityReason where
  | correctionName | correctionRelationship | removeAllAffection | inverseAffection | contrastSkill
  | multiSkill | mixedPolarityPreference | multiFactPreference | mixedPolarityGoal | compoundGoal
deriving DecidableEq, Repr

/-! ### patterns -/

def reCxCorrectionName : Re := Re.compile (py r"\bmới\s+đúng\b")

def reCxCorrectionRel : Re := Re.compile (py r"đã\s+đổi\s+.+?\s+(?:thành|sang)\s+\S+")

def reCxRemoveAllAffection : Re :=
  Re.compile (py r"không\s+(?:còn\s+)?thích\s+ai(?:\s+nữa|\s+cả)?\s*[.!]*\s*$")

def reCxInverseAffection : Re :=
  Re.compile (py r"^(\S+(?:\s+\S+)?)\s+là\s+người\s+(?:mà\s+)?(?:tôi|mình)\s+thích\s*[.!]*\s*$")

/-- `_RE_CX_RELATION_ADJACENT_AFFECTION` with a second group where the source refers back to the first;
both stand between white space. -/
def reCxRelationAdjacentAffection : Re := Re.compile
  (py r"^(?:tôi|mình)\s+thích\s+(\S+)\s+và\s+(\S+)\s+cũng\s+thích\s+(?:tôi|mình)\s*[.!]*\s*$")

def reCxGoalVerb : Re :=
  Re.compile (py r"(?:muốn|định|sẽ)\s+(?:làm|build)|(?:muốn|định|sẽ)\s+.*\bbuild\b")

def reCxMixedGoalPolarity : Re := Re.compile
  (py r"^(?:tôi|mình)\s+(?:đang\s+)?(?:còn\s+|cũng\s+|vẫn\s+)?(?:muốn|định)\s+(?:làm|build)\s+.+\s+" ++
    py r"(?:nhưng|mà)\s+không\s+(?:còn\s+)?muốn\s+(?:làm|build)\s+.+$")

def reCxContrastSkill : Re := Re.compile
  (py r"^(?:tôi|mình)\s+biết\s+.+\s+(?:nhưng|mà|còn)\s+(?:tôi\s+|mình\s+)?không\s+biết\s+.+$")

def reTechnicalExplanationLead : Re :=
  Re.compile (py r"^(?:hãy\s+|vui\s+lòng\s+|giúp\s+(?:tôi|mình)\s+)?(?:giải|giai)\s+thích\b")

def reTechnicalComparison : Re := Re.compile
  (py r"\b(?:khác\s+nhau\s+(?:thế\s+nào|như\s+thế\s+nào|ra\s+sao)|" ++
    py r"khác\s+gì\s+nhau|khác\s+.+?\s+(?:thế\s+nào|như\s+thế\s+nào)|" ++
    py r"phân\s+biệt|so\s+sánh|là\s+gì)\b")

def rePreferenceLead : Re := Re.compile (py r"^(?:tôi|mình)\s+(?:không\s+)?thích\b")

def reSkillLead : Re := Re.compile (py r"^(?:tôi|mình)\s+(?:không\s+)?biết\b")

def reCoKhongQuestion : Re := Re.compile
  (py r"^\S.*\bcó\b.+\bkh[ôo]ng\b\s*(?:nh[ỉể]|ạ|à|vậy|hả)?\s*[?？!.]*\s*$")

def reBareAI : Re := Re.compile (py r"\bAI\b")

/-- The head of a clause: the group is set where "không" stands before "thích". -/
def rePrefClauseHead : Re := Re.compile
  (py r"(?:(?:nhưng|và|,)\s+)?(?:(?:tôi|mình)\s+)?(?:(?:cũng|còn|vẫn)\s+)?" ++ py r"(không\s+)?thích\s+")

def reAsWell : Re := Re.compile (py r"\s+(?:tôi|mình)\s+cũng\s+vậy\s*$")

def explanationGuards : List PyStr := [py "có nghĩa là", py "nghĩa là", py "tức là", py "đơn phương",
  py "chúng tôi"]

section
variable (rt : ExtractorRuntime)

def ExtractorRuntime.anyCase (rt : ExtractorRuntime) : Mode := ignoringCase rt.tables

def ExtractorRuntime.exactCase (rt : ExtractorRuntime) : Mode where
  tables := rt.tables

/-! ### which sentences are taken apart -/

def isTechnicalExplanationRequest (text : PyStr) : Bool :=
  let stripped := collapse (strip text)
  if stripped = [] then false
  else if (rePreferenceLead.matchStart rt.exactCase (rt.lower stripped)).isSome then false
  else if (reTechnicalExplanationLead.matchStart rt.anyCase stripped).isSome then true
  else (reTechnicalComparison.search rt.anyCase stripped).isSome

def isCoKhongQuestion (text : PyStr) : Bool :=
  (reCoKhongQuestion.matchStart rt.anyCase (strip text)).isSome

/-- "tôi thích X và X cũng thích tôi", with the same word twice. -/
def isRelationAdjacentAffection (text : PyStr) : Bool :=
  (reCxRelationAdjacentAffection.matchStart rt.anyCase text).any fun q =>
    decide ((q.group 1).map (List.map rt.tables.fold) = (q.group 2).map (List.map rt.tables.fold))

/-- `_RE_CX_REMOVE_ALL_AFFECTION` with the tests that go with it. -/
def isRemoveAllAffection (stripped low : PyStr) : Bool :=
  (reCxRemoveAllAffection.search rt.anyCase low).isSome &&
  (reBareAI.search rt.exactCase stripped).isNone &&
  (contains low (py "nữa") || contains low (py "không còn") ||
    [py "bây giờ", py "hiện tại", py "giờ"].any (startsWith low))

/-- "thích" on both sides: what is left without "không thích" still has a "thích". -/
def isMixedPolarity (low : PyStr) : Bool :=
  contains low (py "không thích") && contains (splitSep (py "không thích") low).flatten (py "thích")

def detectMemoryComplexity (text : PyStr) : Option ComplexityReason :=
  let stripped := collapse (strip text)
  let low := rt.lower stripped
  let hasList := contains low (py ",") || contains low (py " và ")
  if stripped = [] ∨ contains stripped (py "?") ∨ contains stripped (py "？") then none
  else if isCoKhongQuestion rt stripped then none
  else if isTechnicalExplanationRequest rt stripped then none
  else if explanationGuards.any (contains low) then none
  else if (reCxCorrectionName.search rt.anyCase low).isSome then some .correctionName
  else if (reCxCorrectionRel.search rt.anyCase low).isSome then some .correctionRelationship
  else if isRemoveAllAffection rt stripped low then some .removeAllAffection
  else if (reCxInverseAffection.matchStart rt.anyCase stripped).isSome then some .inverseAffection
  else if isRelationAdjacentAffection rt stripped then none
  else if (reCxContrastSkill.matchStart rt.anyCase low).isSome then some .contrastSkill
  else if hasList && (reSkillLead.matchStart rt.exactCase low).isSome then some .multiSkill
  else if contains low (py "thích") && isMixedPolarity low then some .mixedPolarityPreference
  else if contains low (py "thích") && hasList then some .multiFactPreference
  else if (reCxMixedGoalPolarity.matchStart rt.anyCase low).isSome then some .mixedPolarityGoal
  else if hasList && (reCxGoalVerb.search rt.anyCase low).isSome then some .compoundGoal
  else none

/-! ### items -/

def discourseMarkerSuffixes : List PyStr := [py "mà", py "đó", py "nhé", py "nha", py "nữa"]

def additiveTargetPrefixes : List PyStr := [py "cả", py "cũng", py "còn", py "thêm"]

/-- `while len(tokens) >= 2 and tokens[0].lower() in markers: tokens = tokens[1:]` -/
def dropMarkers (markers : List PyStr) : List PyStr → List PyStr
  | a :: b :: tokens =>
    if rt.lower a ∈ markers then dropMarkers markers (b :: tokens) else a :: b :: tokens
  | tokens => tokens

def stripDiscourseMarker (value : PyStr) : PyStr :=
  strip (joinWith [space] (dropMarkers rt discourseMarkerSuffixes (split value).reverse).reverse)

def stripAdditiveTargetMarker (value : PyStr) : PyStr :=
  stripDiscourseMarker rt (strip (joinWith [space] (dropMarkers rt additiveTargetPrefixes (split value))))

def foodVerbPrefixes : List PyStr := [py "ăn ", py "uống "]

/-- One item of a list: what the loop of `_split_items` makes of it. -/
def cleanItem (item : PyStr) : PyStr :=
  let item := strip (collapse (rstripOf (py ".!,") (strip item)))
  let item := if item = [] then item else stripAdditiveTargetMarker rt item
  strip (reAsWell.removeAll rt.anyCase item)

/-- The food verb of the first item, for the items that have none. -/
def distributeVerb : List PyStr → List PyStr
  | [] => []
  | first :: rest =>
    match foodVerbPrefixes.find? (startsWith (rt.lower first)) with
    | some verb => (first :: rest).map fun p =>
      if foodVerbPrefixes.any (startsWith (rt.lower p)) then p else verb ++ p
    | none => first :: rest

/-- `_split_items` of a text whose white space is collapsed. -/
def splitItems (raw : PyStr) : List PyStr :=
  let chunks := (splitSep (py ",") raw).flatMap (splitSep (py " và "))
  let parts := (chunks.map (cleanItem rt)).filter (· ≠ [])
  distributeVerb rt parts

def validItem (item : PyStr) : Bool :=
  if item = [] ∨ item.length < 2 ∨ item.length > 60 then false
  else !isUnsafeOrSensitiveAutoValue rt.toUnicode item

def commonObjectTokens : List PyStr := [py "kem", py "trà", py "tra", py "cafe", py "cà phê",
  py "ca phe", py "bánh", py "banh", py "phở", py "pho", py "bún", py "bun", py "cơm", py "com",
  py "game", py "sách", py "sach", py "nhạc", py "nhac", py "phim", py "bóng đá", py "bong da",
  py "lạnh", py "lanh"]

def knownNonPersonConcepts : List PyStr := [py "planner", py "runtime", py "tool", py "memory",
  py "ai", py "ml", py "llm", py "agent", py "api", py "rag", py "mcp", py "a2a", py "python",
  py "docker", py "git"]

def isPersonAffinityValue (value : PyStr) : Bool :=
  let v := strip value
  let low := rt.lower v
  let letters := v.filter (· ≠ 45)
  if v = [] ∨ space ∈ v then false
  else if v.any rt.charIsDigit then false
  else if !(v.head?.any rt.charIsUpper) && decide (v.length < 3) then false
  else if v.length > 15 then false
  else if low ∈ knownNonPersonConcepts then false
  else if low ∈ professionalTokens ∨ low ∈ personalTokens then false
  else if low ∈ commonObjectTokens then false
  else if hasProfessionalToken rt.toUnicode v || hasPersonalToken rt.toUnicode v then false
  else decide (letters ≠ []) && letters.all rt.charIsAlpha

/-! ### clauses -/

/-- A clause of a preference sentence: its head, whether "không" stands in it, and its objects. -/
structure Clause where
  head : PyStr
  negated : Bool
  segment : PyStr
deriving DecidableEq

def clauses (text : PyStr) : List Clause :=
  (rePrefClauseHead.cut rt.anyCase text).map fun piece =>
    ⟨piece.head, (piece.groups.lookup 1).isSome, piece.tail⟩

def Clause.items (c : Clause) : List PyStr := splitItems rt (rstripOf (py ",") (strip c.segment))

/-- The valid items of the clauses, each with its clause, in the order of the text. -/
def statedItems (text : PyStr) : List (Clause × PyStr) :=
  (clauses rt text).flatMap fun c => ((c.items rt).filter (validItem rt)).map (c, ·)

/-- The operation that is proposed for an item of a clause. -/
def itemOperation (text : PyStr) (stated : Clause × PyStr) : MemoryOperation where
  op := .add
  domain := if isPersonAffinityValue rt stated.2 then .affection else .preference
  value := stated.2
  canonicalKey := canonicalizeMemoryValue rt.toUnicode stated.2
  polarity := some
    (if isPersonAffinityValue rt stated.2 then py "positive"
    else if stated.1.negated then py "negative" else py "positive")
  source := py "rule_based_semantic_extractor"
  rawText := text

def extractPreferenceClauses (text : PyStr) : List MemoryOperation :=
  let ops := (statedItems rt text).map (itemOperation rt text)
  if 2 ≤ ops.length then ops else []

/-- The sentences that `extract` takes for preference sentences. -/
def preferenceSentence (text : PyStr) : Bool :=
  detectMemoryComplexity rt text ∈ [some .mixedPolarityPreference, some .multiFactPreference]

/-- The operations of `RuleBasedSemanticOperationExtractor.extract`; `others` are those of the branches
for sentences that state no preference. -/
def extract (others : ComplexityReason → PyStr → List MemoryOperation) (rawText : PyStr) :
    List MemoryOperation :=
  let text := collapse (strip rawText)
  match detectMemoryComplexity rt text with
  | none => []
  | some reason =>
    let ops := if reason = .mixedPolarityPreference ∨ reason = .multiFactPreference then
      extractPreferenceClauses rt text else others reason text
    ops.take maxOperationsPerUtterance

/-- The operation asserts its value with the polarity, as a preference or an affection. -/
def MemoryOperation.asserts (op : MemoryOperation) (polarity : PyStr) : Prop :=
  op.op = .add ∧ (op.domain = .preference ∨ op.domain = .affection) ∧ op.polarity = some polarity

end

section
variable {rt : ExtractorRuntime} {text : PyStr}

theorem mem_statedItems {stated : Clause × PyStr} (h : stated ∈ statedItems rt text) :
    stated.1 ∈ clauses rt text ∧ stated.2 ∈ stated.1.items rt := by
  obtain ⟨c, hc, hitem⟩ := List.mem_flatMap.mp h
  obtain ⟨item, hmem, rfl⟩ := List.mem_map.mp hitem
  exact ⟨hc, (List.mem_filter.mp hmem).1⟩

theorem extract_preference {others : ComplexityReason → PyStr → List MemoryOperation} {rawText : PyStr}
    (h : preferenceSentence rt (collapse (strip rawText)) = true) :
    extract rt others rawText =
      if 2 ≤ (statedItems rt (collapse (strip rawText))).length then
        ((statedItems rt (collapse (strip rawText))).take maxOperationsPerUtterance).map
          (itemOperation rt (collapse (strip rawText)))
      else [] := by
  have hreason : ∃ reason, detectMemoryComplexity rt (collapse (strip rawText)) = some reason ∧
      (reason = .mixedPolarityPreference ∨ reason = .multiFactPreference) := by
    have hmem := of_decide_eq_true h
    rcases List.mem_cons.mp hmem with hmixed | hmem
    · exact ⟨_, hmixed, .inl rfl⟩
    · exact ⟨_, List.mem_singleton.mp hmem, .inr rfl⟩
  obtain ⟨reason, hdetect, hpreference⟩ := hreason
  unfold extract
  dsimp only
  rw [hdetect]
  dsimp only
  rw [if_pos hpreference, extractPreferenceClauses, List.length_map,
    apply_ite (List.take maxOperationsPerUtterance), List.map_take, List.take_nil]

/-- An operation of a preference sentence comes from an item of one of its clauses. -/
theorem mem_extract {others : ComplexityReason → PyStr → List MemoryOperation} {rawText : PyStr}
    (h : preferenceSentence rt (collapse (strip rawText)) = true) {op : MemoryOperation} :
    op ∈ extract rt others rawText ↔ 2 ≤ (statedItems rt (collapse (strip rawText))).length ∧
      ∃ stated ∈ (statedItems rt (collapse (strip rawText))).take maxOperationsPerUtterance,
        itemOperation rt (collapse (strip rawText)) stated = op := by
  rw [extract_preference h]
  by_cases htwo : 2 ≤ (statedItems rt (collapse (strip rawText))).length
  · rw [if_pos htwo, List.mem_map]
    exact ⟨fun hop => ⟨htwo, hop⟩, fun hop => hop.2⟩
  · rw [if_neg htwo]
    exact ⟨fun hop => absurd hop List.not_mem_nil, fun hop => absurd hop.1 htwo⟩

theorem itemOperation_negative {stated : Clause × PyStr}
    (h : (itemOperation rt text stated).polarity = some (py "negative")) : stated.1.negated = true := by
  have h := Option.some.inj h
  by_cases hperson : isPersonAffinityValue rt stated.2 = true
  · rw [if_pos hperson] at h
    simp at h
  · rw [if_neg hperson] at h
    by_cases hneg : stated.1.negated = true
    · exact hneg
    · rw [if_neg hneg] at h
      simp at h

theorem itemOperation_positive {stated : Clause × PyStr} :
    (itemOperation rt text stated).polarity = some (py "positive") ↔
      isPersonAffinityValue rt stated.2 = true ∨ stated.1.negated = false := by
  show some _ = some (py "positive") ↔ _
  rw [Option.some.injEq]
  by_cases hperson : isPersonAffinityValue rt stated.2 = true
  · rw [if_pos hperson]
    exact ⟨fun _ => .inl hperson, fun _ => rfl⟩
  · rw [if_neg hperson]
    cases stated.1.negated with
    | true => simp [hperson]
    | false => simp

theorem itemOperation_asserts {stated : Clause × PyStr} {polarity : PyStr} :
    (itemOperation rt text stated).asserts polarity ↔
      (itemOperation rt text stated).polarity = some polarity := by
  refine ⟨fun h => h.2.2, fun h => ⟨rfl, ?_, h⟩⟩
  show (if isPersonAffinityValue rt stated.2 then MemoryDomain.affection else .preference) = .preference ∨ _
  split_ifs with hperson
  · exact .inr (if_pos hperson)
  · exact .inl rfl

end

end Tomtit
