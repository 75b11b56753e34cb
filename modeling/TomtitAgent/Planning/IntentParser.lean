import TomtitAgent.Planning.Intents
import TomtitAgent.Python.Regex

/-!
# `RuleBasedIntentParser` (`planning/intent_parser.py`)

The patterns of the source, in its order, and what each branch takes from the text.

* `Patterns`   `re.compile` under the tables of the interpreter;
* `parse`      the dispatch;
* `parse_noteName`   the name of a parsed WRITE_NOTE has no white space.
-/

open Py

namespace Tomtit

/-- The literals of `confidence`. -/
def confidence0 : PyFloat := ⟨0#64⟩
def confidence80 : PyFloat := ⟨0x3FE999999999999A#64⟩
def confidence85 : PyFloat := ⟨0x3FEB333333333333#64⟩
def confidence90 : PyFloat := ⟨0x3FECCCCCCCCCCCCD#64⟩

namespace IntentParser

/-! ### the patterns -/

def saveSuffix : Re := Re.compile (py r"\s+rồi\s+lưu\s+vào\s+ghi\s+chú(?:\s+(\S+))?")

def summarizeSuffix : Re := Re.compile (py r"\s+rồi\s+tóm\s+tắt")

def mathExpr : Re := Re.compile (py r"[\d(][0-9()\s+\-*/. ]*")

def projectQueryCue : Re := Re.compile (py r"(đã\s+chốt|đã\s+quyết\s+định|quyết\s+định\s+nào|dùng\s+gì|" ++
  py r"dùng\s+cơ\s+chế\s+nào|context|ngữ\s+cảnh)")

def calcPrefix : Re := Re.compile (py r"^calc(?:ulate)?\s+")

def vietMathSuffix : Re :=
  Re.compile (py r"\s+(?:bằng\s+(?:mấy|bao\s+nhiêu)|là\s+bao\s+nhiêu)\s*\??\s*$")

def arithOnly : Re := Re.compile (py r"^[0-9(][0-9\s.()+\-*/%=xX×?]*$")

def greetingWords : Re := Re.compile (
  py r"^(?:hi|hello|hey|xin\s+chào|chào|alo|ê\s*lô|lô|ê(?:\s+ê)?|helo|ê\s*lo|hê\s*lo)" ++
  py r"(?:\s+(?:bạn|mọi\s+người|anh|chị|em|buổi\s+(?:sáng|trưa|chiều|tối)))?" ++
  py r"\s*[!?.]*\s*$")

def identityCue : Re := Re.compile (
  py r"(?:^|\b)(?:bạn|mày|tomtit)\s+(?:là\s+ai|là\s+g[ìi]|tên\s+(?:là\s+)?g[ìi]|tên\s+g[ìi])\b" ++
  py r"|tên\s+(?:bạn|mày)\s+(?:là\s+)?g[ìi]\b" ++
  py r"|who\s+are\s+you|what\s+are\s+you" ++
  py r"|ai\s+(?:tạo|xây\s+dựng)\s+(?:ra\s+)?(?:bạn|mày|tomtit)\b" ++
  py r"|(?:bạn|mày|tomtit)\s+do\s+ai\b" ++
  py r"|(?:bạn|mày|tomtit)\s+được\s+(?:tạo|xây\s+dựng)")

def capabilityCue : Re := Re.compile (
  py r"(?:(?:làm|giúp|hỗ\s+trợ)\s+được\s+(?:những\s+)?g[ìi]|làm\s+gì\s+được|" ++
  py r"có\s+thể\s+(?:làm|giúp|hỗ\s+trợ)\s+(?:được\s+)?(?:những\s+)?g[ìi]|" ++
  py r"khác\s+(?:gì\s+)?(?:so\s+với\s+)?chatbot|dùng\s+bạn|giới\s+hạn|" ++
  py r"what\s+can\s+you\s+do|^help\b|" ++
  py r"(?:giúp|hỗ\s+trợ)\s+g[ìi]\s+(?:được\s+)?(?:cho\s+)?tôi\b|" ++
  py r"(?:giúp|hỗ\s+trợ)\s+tôi\s+được\s+g[ìi]|" ++
  py r"(?:có\s+)?biết\s+nói\s+không|" ++
  py r"(?:bạn|mày|tomtit)\s+là\s+được\s+g[ìi])")

def memoryReadCue : Re := Re.compile (
  py r"(?:(?:đang\s+)?nhớ\s+gì|bạn\s+biết\s+.+\s+của\s+tôi|" ++
  py r"thông\s+tin\s+nào.*(?:assumption|giả\s+định)|" ++
  py r"what\s+do\s+you\s+remember|remember\s+about)")

def memoryWriteCue : Re := Re.compile (
  py r"^(?:hãy\s+)?(?:nhớ|ghi\s+nhớ)\s+(?:rằng|là|giùm|giúp|cho)\b" ++
  py r"|^remember\s+that\b" ++
  py r"|(?:lưu|ghi)\s+[^\n]*?(?:vào\s+)?(?:memory|bộ\s+nhớ)\b" ++
  py r"|save\s+this\s+to\s+memory")

def codeReviewCue : Re := Re.compile (
  py r"(?:review\s+.*code|review\s+đoạn\s+code|kiểm\s+tra\s+code|đoạn\s+code|" ++
  py r"tìm\s+bug|bug\s+trong\s+code|tìm\s+lỗi.*code|fix\s+bug|debug\b|" ++
  py r"test\s+cho\s+function|cho\s+function\s+này)")

def planningCue : Re := Re.compile (
  py r"(?:lên\s+kế\s+hoạch|lập\s+kế\s+hoạch|kế\s+hoạch|roadmap|checklist|" ++
  py r"ưu\s+tiên|nên\s+làm\s+gì|giúp\s+(?:tôi\s+)?focus|quá\s+tải|" ++
  py r"plan\s+for|create\s+a\s+plan|chia\s+.*\s+thành)")

def summarizeCue : Re := Re.compile (py r"(?:tóm\s+tắt|summari[sz]e)")

def translateCue : Re := Re.compile (py r"(?:(?:^|\b)dịch\b|translate)")

def technicalCue : Re := Re.compile (py r"(?:giải\s+thích|explain|phân\s+tích|analy[sz]e|" ++
  py r"thiết\s+kế\s+architecture|architecture)")

def writingCue : Re := Re.compile (py r"(?:^|\b)(?:viết|soạn|draft|write)\b")

def clarificationCue : Re := Re.compile (py r"(?:^làm\s+cái\s+(?:đó|này)|cái\s+(?:đó|này)\s+đi|" ++
  py r"cần\s+thêm\s+thông\s+tin)")

def aboutMeNoteGuard : Re := Re.compile (
  py r"^(?:Lưu|Ghi)\s+(?:vào\s+)?ghi\s+(?:chú|chứ)\s+về\s+(?:tôi|bản\s+thân|mình)\s*:\s*(.+)")

def calculateVerb : Re := Re.compile (py r"^Tính\b")
def calculateHead : Re := Re.compile (py r"^Tính\s+")
def readNoteVerb : Re := Re.compile (py r"^Đọc\s+ghi\s+chú\b")
def readNoteHead : Re := Re.compile (py r"^Đọc\s+ghi\s+chú\s+")
def writeNoteVerb : Re := Re.compile (py r"^(?:Lưu|Ghi)\s+")
def writeNoteForm : Re := Re.compile (py r"^(?:Lưu|Ghi)\s+(?:vào\s+)?ghi\s+chú\s+(\S+)(?:\s+(.+))?")
def webSearchVerb : Re := Re.compile (py r"^Tìm\b")
def webSearchHead : Re := Re.compile (py r"^Tìm\s+")
def projectVerb : Re := Re.compile (py r"^Dự\s+án\b")
def arithTail : Re := Re.compile (py r"[=?\s]+$")
def spaces : Re := Re.compile (py r"\s+")

/-! ### the branches -/

section
variable (tb : ReTables)

def exact : Mode := ⟨tb, false, false, false⟩
/-- `re.IGNORECASE` -/
def anyCase : Mode := ⟨tb, true, false, false⟩
/-- `re.IGNORECASE | re.DOTALL` -/
def anyCaseLine : Mode := ⟨tb, true, true, false⟩

def found (m : Mode) (re : Re) (text : PyStr) : Bool := (re.search m text).isSome

/-- `s or None` -/
def orNone (s : PyStr) : Option PyStr := if s = [] then none else some s

def absent (slots : List (PyStr × Option PyStr)) : List PyStr :=
  (slots.filter fun slot => slot.2 = none).map Prod.fst

def rule (intent : IntentName) (confidence : PyFloat) (text : PyStr) : ParsedIntent where
  intent := intent
  confidence := confidence
  source := py "rule"
  rawText := text

/-- `_conv_intent` -/
def convIntent (intent : IntentName) (text : PyStr) : ParsedIntent := rule intent confidence80 text

/-- `_normalize_arith` -/
def normalizeArith (exprText : PyStr) : PyStr :=
  replaceChar 88 42 (replaceChar 120 42 (replaceChar 215 42 (arithTail.removeAll (exact tb) (strip exprText))))

/-- `_extract_expr`; among the characters that the pattern admits `isdigit` is `\d`. -/
def extractExpr (text : PyStr) : Option PyStr :=
  match mathExpr.search (exact tb) (strip text) with
  | none => none
  | some (p, q) =>
    let raw := strip (p.spanned q)
    if raw.any tb.isDecimal then some (spaces.removeAll (exact tb) raw) else none

/-- `rest[:m.start()]` and `m.group(1)` of the suffix that saves the result. -/
def splitSave (rest : PyStr) : Option (PyStr × Option PyStr) :=
  (saveSuffix.search (anyCase tb) rest).map fun m => (m.1.before.reverse, m.2.group 1)

/-- `_parse_calculate` -/
def parseCalculate (text : PyStr) : ParsedIntent :=
  let rest := calculateHead.removeAll (anyCase tb) text
  match splitSave tb rest with
  | some (exprText, noteName) =>
    let expression := extractExpr tb exprText
    { rule .calculateThenSaveNote confidence90 text with
      expression, noteName
      missingSlots := absent [(py "expression", expression), (py "note_name", noteName)] }
  | none =>
    let expression := extractExpr tb rest
    { rule .calculate confidence90 text with
      expression
      missingSlots := absent [(py "expression", expression)] }

/-- `_parse_read_note` -/
def parseReadNote (text : PyStr) : ParsedIntent :=
  let rest := readNoteHead.removeAll (anyCase tb) text
  let parsed (intent : IntentName) (noteText : PyStr) : ParsedIntent :=
    { rule intent confidence90 text with
      noteName := orNone noteText
      missingSlots := absent [(py "note_name", orNone noteText)] }
  match summarizeSuffix.search (anyCase tb) rest with
  | some (p, _) => parsed .readNoteThenSummarize (strip p.before.reverse)
  | none => parsed .readNote (strip rest)

/-- `_parse_write_note` -/
def parseWriteNote (text : PyStr) : ParsedIntent :=
  let parsed (noteName content : Option PyStr) : ParsedIntent :=
    { rule .writeNote confidence90 text with
      noteName, content
      missingSlots := absent [(py "note_name", noteName), (py "content", content)] }
  match aboutMeNoteGuard.matchStart (anyCaseLine tb) text with
  | some m => parsed none (orNone (strip ((m.group 1).getD [])))
  | none =>
    match writeNoteForm.matchStart (anyCase tb) text with
    | some m => parsed (m.group 1) (m.group 2)
    | none => parsed none none

/-- `_parse_web_search` -/
def parseWebSearch (text : PyStr) : ParsedIntent :=
  let rest := webSearchHead.removeAll (anyCase tb) text
  match splitSave tb rest with
  | some (queryText, noteName) =>
    let query := orNone (strip queryText)
    { rule .webSearchThenSaveNote confidence90 text with
      query, noteName
      missingSlots := absent [(py "query", query), (py "note_name", noteName)] }
  | none =>
    let query := orNone (strip rest)
    { rule .webSearch confidence90 text with
      query
      missingSlots := absent [(py "query", query)] }

/-- `_parse_project_context_query` -/
def parseProjectContextQuery (text : PyStr) : ParsedIntent :=
  { rule .projectContextQuery confidence80 text with query := some text }

/-- `_parse_as_calculate` -/
def parseAsCalculate (original exprText : PyStr) : ParsedIntent :=
  let expression := extractExpr tb exprText
  { rule .calculate confidence90 original with
    expression
    missingSlots := absent [(py "expression", expression)] }

/-! ### the dispatch -/

def parseConversation (text : PyStr) : Option ParsedIntent :=
  if (greetingWords.matchStart (anyCase tb) text).isSome then some (rule .greeting confidence85 text)
  else if found (anyCase tb) identityCue text then some (convIntent .identityQuery text)
  else if found (anyCase tb) capabilityCue text then some (convIntent .capabilityQuery text)
  else if found (anyCase tb) memoryReadCue text then some (convIntent .memoryRead text)
  else if found (anyCase tb) memoryWriteCue text then some (convIntent .memoryWriteRequest text)
  else none

def parseVerb (text : PyStr) : Option ParsedIntent :=
  if (calculateVerb.matchStart (anyCase tb) text).isSome then some (parseCalculate tb text)
  else if (readNoteVerb.matchStart (anyCase tb) text).isSome then some (parseReadNote tb text)
  else if (writeNoteVerb.matchStart (anyCase tb) text).isSome then some (parseWriteNote tb text)
  else if found (anyCase tb) codeReviewCue text then some (convIntent .codeReviewRequest text)
  else if (webSearchVerb.matchStart (anyCase tb) text).isSome then some (parseWebSearch tb text)
  else if (projectVerb.matchStart (anyCase tb) text).isSome ∧ found (anyCase tb) projectQueryCue text then
    some (parseProjectContextQuery text)
  else none

def parseRequest (text : PyStr) : Option ParsedIntent :=
  if found (anyCase tb) planningCue text then some (convIntent .planningRequest text)
  else if found (anyCase tb) summarizeCue text then some (convIntent .summarizationRequest text)
  else if found (anyCase tb) translateCue text then some (convIntent .translationRequest text)
  else if found (anyCase tb) technicalCue text then some (convIntent .technicalExplanationRequest text)
  else if found (anyCase tb) writingCue text then some (convIntent .writingRequest text)
  else if found (anyCase tb) clarificationCue text then some (convIntent .clarificationRequest text)
  else none

/-- The forms of a calculation without its verb, and what no rule knows. -/
def parseArithmetic (text : PyStr) : ParsedIntent :=
  if (calcPrefix.matchStart (anyCase tb) text).isSome then
    parseAsCalculate tb text (normalizeArith tb (calcPrefix.removeAll (anyCase tb) text))
  else if found (anyCase tb) vietMathSuffix text then
    parseAsCalculate tb text (normalizeArith tb (strip (vietMathSuffix.removeAll (anyCase tb) text)))
  else if (arithOnly.matchStart (exact tb) text).isSome then
    parseAsCalculate tb text (normalizeArith tb text)
  else rule .unknown confidence0 text

/-- `RuleBasedIntentParser.parse` -/
def parse (goal : PyStr) : ParsedIntent :=
  let text := strip goal
  (parseConversation tb text).getD ((parseVerb tb text).getD ((parseRequest tb text).getD
    (parseArithmetic tb text)))

end

theorem parse_of_verb {tb : ReTables} {goal : PyStr} {p : ParsedIntent}
    (hconversation : parseConversation tb (strip goal) = none) (hverb : parseVerb tb (strip goal) = some p) :
    parse tb goal = p := by
  unfold parse
  dsimp only
  rw [hconversation, hverb, Option.getD_none, Option.getD_some]

/-! ### what a parsed note looks like -/

section
variable {tb : ReTables} {goal : PyStr}

theorem parseRequest_intent {text : PyStr} {p : ParsedIntent} (h : parseRequest tb text = some p) :
    p.intent ≠ .writeNote := by
  unfold parseRequest at h
  split_ifs at h <;> (rw [← Option.some.inj h]; simp [convIntent, rule])

theorem parseConversation_intent {text : PyStr} {p : ParsedIntent} (h : parseConversation tb text = some p) :
    p.intent ≠ .writeNote := by
  unfold parseConversation at h
  split_ifs at h <;> (rw [← Option.some.inj h]; simp [convIntent, rule])

theorem parseArithmetic_intent (text : PyStr) : (parseArithmetic tb text).intent ≠ .writeNote := by
  unfold parseArithmetic
  split_ifs <;> simp [parseAsCalculate, rule]

theorem parseVerb_intent {text : PyStr} {p : ParsedIntent} (h : parseVerb tb text = some p)
    (hp : p.intent = .writeNote) : p = parseWriteNote tb text := by
  have hcalculate : (parseCalculate tb text).intent ≠ .writeNote := by
    unfold parseCalculate
    dsimp only
    split <;> simp [rule]
  have hread : (parseReadNote tb text).intent ≠ .writeNote := by
    unfold parseReadNote
    dsimp only
    split <;> simp [rule]
  have hsearch : (parseWebSearch tb text).intent ≠ .writeNote := by
    unfold parseWebSearch
    dsimp only
    split <;> simp [rule]
  unfold parseVerb at h
  split_ifs at h
  · exact absurd hp (Option.some.inj h ▸ hcalculate)
  · exact absurd hp (Option.some.inj h ▸ hread)
  · exact (Option.some.inj h).symm
  · exact absurd hp (Option.some.inj h ▸ by simp [convIntent, rule])
  · exact absurd hp (Option.some.inj h ▸ hsearch)
  · exact absurd hp (Option.some.inj h ▸ by simp [parseProjectContextQuery, rule])

theorem parse_writeNote (h : (parse tb goal).intent = .writeNote) :
    parse tb goal = parseWriteNote tb (strip goal) := by
  unfold parse at h ⊢
  dsimp only at h ⊢
  cases hconversation : parseConversation tb (strip goal) with
  | some p =>
    rw [hconversation, Option.getD_some] at h
    exact absurd h (parseConversation_intent hconversation)
  | none =>
    rw [hconversation, Option.getD_none] at h
    rw [Option.getD_none]
    cases hverb : parseVerb tb (strip goal) with
    | some p =>
      rw [hverb, Option.getD_some] at h
      rw [Option.getD_some]
      exact parseVerb_intent hverb h
    | none =>
      rw [hverb, Option.getD_none] at h
      cases hrequest : parseRequest tb (strip goal) with
      | some p =>
        rw [hrequest, Option.getD_some] at h
        exact absurd h (parseRequest_intent hrequest)
      | none =>
        rw [hrequest, Option.getD_none] at h
        exact absurd h (parseArithmetic_intent (strip goal))

/-- `\S+` -/
def word : Re := .seq (.seq (.one false [.notSpace]) (.star true (.one false [.notSpace]))) .eps

/-- `.+` -/
def line : Re := .seq (.seq .any (.star true .any)) .eps

theorem writeNoteForm_bodies : writeNoteForm.bodies = [(1, word), (2, line)] := by
  unfold writeNoteForm word line
  repeat rw [py_ofList]
  rfl

theorem word_reads (m : Mode) : ReadsOnly m (fun c => isSpace c = false) word := by
  have hone : ReadsOnly m (fun c => isSpace c = false) (.one false [.notSpace]) := by
    refine ReadsOnly.one fun c hc => ?_
    have hnot : (!isSpace c) = true := by
      rw [List.any_cons, List.any_nil, Bool.or_false, Bool.bne_false] at hc
      exact hc
    rw [Bool.not_eq_true'] at hnot
    exact hnot
  exact (hone.seq hone.star).seq ReadsOnly.eps

/-- The name of a note has no white space. -/
theorem parse_noteName {name : PyStr} (h : (parse tb goal).intent = .writeNote)
    (hname : (parse tb goal).noteName = some name) : ∀ c ∈ name, isSpace c = false := by
  rw [parse_writeNote h] at hname
  unfold parseWriteNote at hname
  dsimp only at hname
  split at hname
  · exact absurd hname (by simp)
  · split at hname
    · next q hq =>
      obtain ⟨a, p', q', ha, hruns, hw⟩ := matchStart_group hq hname
      rw [writeNoteForm_bodies] at ha
      have hbody : a = word := by
        rcases List.mem_pair.mp ha with ha | ha
        · exact (Prod.mk.inj ha).2
        · exact absurd (Prod.mk.inj ha).1 (by decide)
      rw [hbody] at hruns
      obtain ⟨w, hreads, hspace, -⟩ := word_reads _ p' q' hruns
      rw [hw, hreads.spanned]
      exact hspace
    · exact absurd hname (by simp)

end

/-- Tables for ASCII and the Vietnamese letters; of the capitals outside ASCII they fold `Đ`. -/
def plainTables : ReTables where
  isWord c := isAlnum c || c = 95 || (0xC0 ≤ c.val && c.val < 0x2000)
  isDecimal := isDigit
  fold c := if isUpper c then c + 32 else if c = 0x110 then 0x111 else c

/-- The verb at the start settles the utterances that read a note, once no conversational cue is found. -/
theorem parse_of_readNote {text : PyStr} (hstrip : strip text = text)
    (hconversation : (parseConversation plainTables text).isNone = true)
    (hcalculate : (calculateVerb.matchStart (anyCase plainTables) text).isSome = false)
    (hread : (readNoteVerb.matchStart (anyCase plainTables) text).isSome = true) :
    parse plainTables text = parseReadNote plainTables text := by
  have hverb : parseVerb plainTables text = some (parseReadNote plainTables text) := by
    unfold parseVerb
    rw [hcalculate, hread, if_neg Bool.false_ne_true, if_pos rfl]
  exact parse_of_verb (hstrip.symm ▸ Option.isNone_iff_eq_none.mp hconversation) (hstrip.symm ▸ hverb)

theorem parse_readNote : parse plainTables (py "Đọc ghi chú a") =
    parseReadNote plainTables (py "Đọc ghi chú a") := by
  refine parse_of_readNote ?_ ?_ ?_ ?_
  · repeat rw [py_ofList]
    rfl
  · unfold parseConversation greetingWords identityCue capabilityCue memoryReadCue memoryWriteCue
    repeat rw [py_ofList]
    decide +kernel
  · unfold calculateVerb
    repeat rw [py_ofList]
    decide
  · unfold readNoteVerb
    repeat rw [py_ofList]
    decide

theorem parseReadNote_a : (parseReadNote plainTables (py "Đọc ghi chú a")).intent = .readNote ∧
    (parseReadNote plainTables (py "Đọc ghi chú a")).noteName = some (py "a") ∧
    (parseReadNote plainTables (py "Đọc ghi chú a")).missingSlots = [] := by
  unfold parseReadNote readNoteHead summarizeSuffix
  repeat rw [py_ofList]
  decide

theorem parse_summary : parse plainTables (py "Đọc ghi chú a rồi tóm tắt") =
    parseReadNote plainTables (py "Đọc ghi chú a rồi tóm tắt") := by
  refine parse_of_readNote ?_ ?_ ?_ ?_
  · repeat rw [py_ofList]
    rfl
  · unfold parseConversation greetingWords identityCue capabilityCue memoryReadCue memoryWriteCue
    repeat rw [py_ofList]
    decide +kernel
  · unfold calculateVerb
    repeat rw [py_ofList]
    decide
  · unfold readNoteVerb
    repeat rw [py_ofList]
    decide

theorem parseReadNote_summary :
    (parseReadNote plainTables (py "Đọc ghi chú a rồi tóm tắt")).intent = .readNoteThenSummarize ∧
    (parseReadNote plainTables (py "Đọc ghi chú a rồi tóm tắt")).noteName = some (py "a") ∧
    (parseReadNote plainTables (py "Đọc ghi chú a rồi tóm tắt")).missingSlots = [] := by
  unfold parseReadNote readNoteHead summarizeSuffix
  repeat rw [py_ofList]
  decide +kernel

end IntentParser
end Tomtit
