import TomtitAgent.Memory.Records
import TomtitAgent.Python.Dict
import TomtitAgent.Python.StrEnum

/-!
# Tools: names, results, values (`state/enums.py`, `tools/schemas.py`)

* `ToolName`, `RiskLevel`, `ToolResultKind`, `StepStatus`   the enumerations;
* `ToolOutput`   the dataclasses a tool puts into its result, and any other value;
* `ToolResult`, `Source`;
* `Value`        what the arguments of a step can hold: plain data, and results of earlier steps;
* `strData`, `stringifyOutput`   `stringify_output`, which raises where `str` does.
-/

open Py

namespace Tomtit

inductive ToolName where
  | calculate | writeNote | readNote | listNotes | saveFact | savePreference | saveDecision
  | searchMemory | summarizeMemory | summarize | webSearch | finish | answerFromContext
deriving DecidableEq, Repr

def ToolName.value : ToolName → PyStr
  | .calculate => py "calculate"
  | .writeNote => py "write_note"
  | .readNote => py "read_note"
  | .listNotes => py "list_notes"
  | .saveFact => py "save_fact"
  | .savePreference => py "save_preference"
  | .saveDecision => py "save_decision"
  | .searchMemory => py "search_memory"
  | .summarizeMemory => py "summarize_memory"
  | .summarize => py "summarize"
  | .webSearch => py "web_search"
  | .finish => py "finish"
  | .answerFromContext => py "answer_from_context"

instance : StrEnum ToolName where
  clsName := py "ToolName"
  members := [.calculate, .writeNote, .readNote, .listNotes, .saveFact, .savePreference, .saveDecision,
    .searchMemory, .summarizeMemory, .summarize, .webSearch, .finish, .answerFromContext]
  value := ToolName.value
  mem_members a := by cases a <;> simp
  value_inj a b h := by cases a <;> cases b <;> simp [ToolName.value] at h ⊢
  value_ascii a := by cases a <;> exact ascii_lit _ (by decide)

theorem ToolName.value_ne_nil (t : ToolName) : t.value ≠ [] := by
  cases t <;> (simp only [ToolName.value]; rw [py_ofList]; exact List.cons_ne_nil _ _)

inductive RiskLevel where
  | low | medium | high | critical
deriving DecidableEq, Repr

def RiskLevel.value : RiskLevel → PyStr
  | .low => py "low"
  | .medium => py "medium"
  | .high => py "high"
  | .critical => py "critical"

inductive ToolResultKind where
  | text | number | json | search | action | file | empty
deriving DecidableEq, Repr

structure Source where
  title : PyStr
  url : Option PyStr := none
  snippet : Option PyStr := none
  sourceType : PyStr := py "web"
  metadata : List (PyStr × PyVal) := []

/-- `ToolResult.output`: the dataclasses of `tools/schemas.py` by what `stringify_output` reads of
them, and any other object. -/
inductive ToolOutput where
  | webSearch (answer : PyStr) (snippets sources : List PyStr)
  | calculate (expression : PyStr) (value : PyVal)
  | writeNote (name : PyStr) (saved : Bool) (message : PyStr) (memoryId : Option PyStr)
  | readNote (name content : PyStr)
  | listNotes (names : List PyStr)
  | memoryWrite (id type content : PyStr)
  | searchMemory (records : List PyVal) (query : PyStr) (count : Nat)
  | summarize (summary : PyStr) (originalLength summaryLength sentenceCount : Nat)
  | finish (answer : PyStr)
  | answerFromContext (answer : PyStr) (usedItemCount : Nat)
  | other (v : PyVal)

structure ToolResult where
  success : Bool
  output : ToolOutput := .other .none
  error : Option PyStr := none
  toolName : Option PyStr := none
  kind : ToolResultKind := .json
  sources : List Source := []
  metadata : List (PyStr × PyVal) := []

/-- `type(exc).__name__` -/
def excName (e : PyExc) : PyStr := py (e.mro.headD "Exception")

/-- A value inside the arguments of a step. -/
inductive Value where
  | data (v : PyVal)
  | result (r : ToolResult)
  | output (o : ToolOutput)

section
variable (rt : Runtime)

/-- `"\n".join(str(record) for record in records)`, the texts before they are joined. -/
def strRecords : List PyVal → Except PyExc (List PyStr)
  | [] => .ok []
  | v :: vs => do
    let t ← strVal rt v
    let ts ← strRecords vs
    return t :: ts

/-- `stringify_output` of plain data. -/
def strData : PyVal → Except PyExc PyStr
  | .none => .ok []
  | v => strVal rt v

/-- `stringify_output` of an output; the dataclasses without a branch of their own print their
`asdict`. -/
def stringifyOutput : ToolOutput → Except PyExc PyStr
  | .calculate _ value => strVal rt value
  | .readNote _ content => .ok content
  | .summarize summary _ _ _ => .ok summary
  | .webSearch answer _ _ => .ok answer
  | .finish answer => .ok answer
  | .listNotes names => .ok (joinWith (py "\n") names)
  | .memoryWrite _ _ content => .ok content
  | .searchMemory records _ _ => do
    let ts ← strRecords rt records
    return joinWith (py "\n") ts
  | .writeNote name saved message memoryId => strVal rt (.record [(py "name", .str name),
      (py "saved", .bool saved), (py "message", .str message), (py "memory_id", .optStr memoryId)])
  | .answerFromContext answer usedItemCount => strVal rt (.record [(py "answer", .str answer),
      (py "used_item_count", .int usedItemCount)])
  | .other v => strData rt v

/-- `stringify_output` of a result, or of `None` where there is none. -/
def stringifyResult : Option ToolResult → Except PyExc PyStr
  | none => .ok []
  | some r => stringifyOutput rt r.output

def stringifyValue : Value → Except PyExc PyStr
  | .data v => strData rt v
  | .result r => stringifyOutput rt r.output
  | .output o => stringifyOutput rt o

end

end Tomtit
