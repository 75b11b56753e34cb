import TomtitAgent.Python.Value
import TomtitAgent.Python.Order

/-!
# Intents and their slots (`planning/intents.py`, `planning/slot_validator.py`)

* `IntentName`, `ParsedIntent`   what the parser makes of an utterance;
* `requiredSlots`, `SlotValidator.validate`   the slots that an intent needs, and the mark of the missing ones;
* `SlotsFilled`   an intent has every slot it needs: what a validated intent without missing slots is.
-/

open Py

namespace Tomtit

inductive IntentName where
  | calculate | calculateThenSaveNote | readNote | readNoteThenSummarize | writeNote | webSearch
  | webSearchThenSaveNote | projectContextQuery | greeting | identityQuery | capabilityQuery | memoryRead
  | memoryWriteRequest | planningRequest | writingRequest | summarizationRequest | translationRequest
  | technicalExplanationRequest | codeReviewRequest | clarificationRequest | unknown
deriving DecidableEq, Repr

def IntentName.value : IntentName → PyStr
  | .calculate => py "calculate"
  | .calculateThenSaveNote => py "calculate_then_save_note"
  | .readNote => py "read_note"
  | .readNoteThenSummarize => py "read_note_then_summarize"
  | .writeNote => py "write_note"
  | .webSearch => py "web_search"
  | .webSearchThenSaveNote => py "web_search_then_save_note"
  | .projectContextQuery => py "project_context_query"
  | .greeting => py "greeting"
  | .identityQuery => py "identity_query"
  | .capabilityQuery => py "capability_query"
  | .memoryRead => py "memory_read"
  | .memoryWriteRequest => py "memory_write_request"
  | .planningRequest => py "planning_request"
  | .writingRequest => py "writing_request"
  | .summarizationRequest => py "summarization_request"
  | .translationRequest => py "translation_request"
  | .technicalExplanationRequest => py "technical_explanation_request"
  | .codeReviewRequest => py "code_review_request"
  | .clarificationRequest => py "clarification_request"
  | .unknown => py "unknown"

structure ParsedIntent where
  intent : IntentName
  confidence : PyFloat
  source : PyStr
  rawText : PyStr
  expression : Option PyStr := none
  noteName : Option PyStr := none
  content : Option PyStr := none
  query : Option PyStr := none
  missingSlots : List PyStr := []

namespace ParsedIntent

def withMissingSlots (slots : List PyStr) (p : ParsedIntent) : ParsedIntent :=
  { p with missingSlots := slots }

/-- `getattr(parsed, name)` of a slot. -/
def slot (p : ParsedIntent) (name : PyStr) : Option PyStr :=
  if name = py "expression" then p.expression
  else if name = py "note_name" then p.noteName
  else if name = py "content" then p.content
  else if name = py "query" then p.query
  else none

end ParsedIntent

/-- `REQUIRED_SLOTS.get(intent, ())` -/
def requiredSlots : IntentName → List PyStr
  | .calculate => [py "expression"]
  | .calculateThenSaveNote => [py "expression", py "note_name"]
  | .readNote => [py "note_name"]
  | .readNoteThenSummarize => [py "note_name"]
  | .writeNote => [py "note_name", py "content"]
  | .webSearch => [py "query"]
  | .webSearchThenSaveNote => [py "query", py "note_name"]
  | .projectContextQuery => [py "query"]
  | _ => []

namespace SlotValidator

/-- `_is_missing` -/
def isMissing : Option PyStr → Bool
  | none => true
  | some value => strip value = []

/-- `validate` -/
def validate (p : ParsedIntent) : ParsedIntent :=
  p.withMissingSlots
    (sortedSet (p.missingSlots ++ (requiredSlots p.intent).filter fun slot => isMissing (p.slot slot)))

@[simp] theorem validate_intent (p : ParsedIntent) : (validate p).intent = p.intent := rfl
@[simp] theorem validate_noteName (p : ParsedIntent) : (validate p).noteName = p.noteName := rfl
@[simp] theorem validate_content (p : ParsedIntent) : (validate p).content = p.content := rfl

end SlotValidator

/-- Nothing is missing: the parser found every slot, and no required one is blank. -/
structure SlotsFilled (p : ParsedIntent) : Prop where
  found : p.missingSlots = []
  filled : ∀ slot ∈ requiredSlots p.intent, ∃ value, p.slot slot = some value ∧ strip value ≠ []

theorem isMissing_eq_false {o : Option PyStr} :
    SlotValidator.isMissing o = false ↔ ∃ value, o = some value ∧ strip value ≠ [] := by
  cases o with
  | none => exact ⟨fun h => absurd h (by simp [SlotValidator.isMissing]), fun ⟨_, h, _⟩ => absurd h (by simp)⟩
  | some value =>
    unfold SlotValidator.isMissing
    rw [decide_eq_false_iff_not]
    exact ⟨fun h => ⟨value, rfl, h⟩, fun ⟨_, h, h'⟩ => by rw [Option.some.inj h]; exact h'⟩

theorem validate_missingSlots_eq_nil {p : ParsedIntent} :
    (SlotValidator.validate p).missingSlots = [] ↔ SlotsFilled p := by
  have hmem : (SlotValidator.validate p).missingSlots = [] ↔
      p.missingSlots ++ (requiredSlots p.intent).filter (fun slot => SlotValidator.isMissing (p.slot slot)) = [] := by
    show sortedSet _ = [] ↔ _
    rw [List.eq_nil_iff_forall_not_mem, List.eq_nil_iff_forall_not_mem]
    exact forall_congr' fun slot => not_congr mem_sortedSet
  rw [hmem, List.append_eq_nil_iff, List.filter_eq_nil_iff]
  constructor
  · intro h
    refine ⟨h.1, fun slot hslot => isMissing_eq_false.mp ?_⟩
    exact Bool.eq_false_iff.mpr (h.2 slot hslot)
  · intro h
    refine ⟨h.found, fun slot hslot => ?_⟩
    exact Bool.eq_false_iff.mp (isMissing_eq_false.mpr (h.filled slot hslot))

end Tomtit
