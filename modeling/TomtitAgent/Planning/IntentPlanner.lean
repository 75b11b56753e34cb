import TomtitAgent.Planning.IntentParser
import TomtitAgent.Planning.PlanValidator
import TomtitAgent.Skills.Catalog
import TomtitAgent.Tools.Registry

/-!
# From an utterance to a plan

`ClarificationComposer`, `IntentPlanner`, `SkillAwareIntentPlanner` and `RuleBasedPlanner.make_plan`.

* `IntentPlanner.makePlan`   the plan of an intent, whatever tools there are;
* `SkillAwareIntentPlanner.makePlan`   the plan of the skill, or the answer that a tool is missing, or that plan;
* `RuleBasedPlanner.makePlan`   parser, slot validation, planner.
-/

open Py

namespace Tomtit

/-- `ClarificationComposer.compose` -/
def composeClarification (p : ParsedIntent) : PyStr :=
  if py "intent" ∈ p.missingSlots then py "Bạn muốn tôi làm việc gì?"
  else if py "expression" ∈ p.missingSlots then py "Bạn muốn tôi tính biểu thức nào?"
  else if py "note_name" ∈ p.missingSlots then py "Bạn muốn dùng tên ghi chú là gì?"
  else if py "content" ∈ p.missingSlots then py "Bạn muốn lưu nội dung gì?"
  else if py "query" ∈ p.missingSlots then py "Bạn muốn tôi tìm thông tin gì?"
  else py "Bạn hãy mô tả rõ hơn việc bạn muốn tôi làm."

section
variable (newId : Nat → PyStr)

def answerPlan (thought answer : PyStr) : List Step :=
  [newStep newId 0 thought .finish [(py "answer", .str answer)]]

/-! ### `IntentPlanner` -/

namespace IntentPlanner

def clarificationPlan (p : ParsedIntent) : List Step :=
  answerPlan newId (py "Intent rõ nhưng thiếu slot; hỏi lại user") (composeClarification p)

def calculatePlan (p : ParsedIntent) : List Step := [
  newStep newId 0 (py "Cần tính toán biểu thức") .calculate [(py "expression", .optStr p.expression)],
  newStep newId 1 (py "Trả kết quả tính toán cho user") .finish
    [(py "answer", .str (py "Kết quả: $\x7blast.output.value\x7d"))]]

def readNotePlan (p : ParsedIntent) : List Step := [
  newStep newId 0 (py "Đọc nội dung ghi chú") .readNote [(py "name", .optStr p.noteName)],
  newStep newId 1 (py "Trả nội dung ghi chú cho user") .finish [(py "answer", .str (py "$last_text"))]]

def writeNotePlan (p : ParsedIntent) : List Step := [
  newStep newId 0 (py "Lưu nội dung vào ghi chú") .writeNote
    [(py "name", .optStr p.noteName), (py "content", .optStr p.content)],
  newStep newId 1 (py "Thông báo đã lưu ghi chú") .finish
    [(py "answer", .str (py "Đã lưu vào ghi chú '" ++ p.noteName.getD (py "None") ++ py "'."))]]

def projectContextQueryPlan (p : ParsedIntent) : List Step := [
  newStep newId 0 (py "Đọc project context từ ContextPack để trả lời") .answerFromContext
    [(py "query", .optStr p.query)],
  newStep newId 1 (py "Trả câu trả lời dựa trên project context") .finish
    [(py "answer", .str (py "$last.output.answer"))]]

def greetingPlan : List Step :=
  answerPlan newId (py "Chào hỏi người dùng và giới thiệu khả năng hiện có") (
    py "Chào bạn! Tôi là TomTit Agent. " ++
    py "Bạn có thể thử: \"Tính 1 + 1\", \"calculate 2 + 2\", " ++
    py "\"Tìm Python tutorials\", \"Lưu ghi chú [tên] [nội dung]\", " ++
    py "hoặc \"Đọc ghi chú [tên]\".")

def unknownPlan : List Step :=
  answerPlan newId (py "Không hiểu rõ task nên kết thúc an toàn với gợi ý") (
    py "Tôi chưa xử lý được yêu cầu này trong bản rule-based MVP hiện tại. " ++
    py "Bạn có thể thử: \"Tính 1 + 1\", \"calculate 2 + 2\", " ++
    py "\"Tìm Python tutorials\", \"Lưu ghi chú ...\", hoặc \"Đọc ghi chú ...\".")

def makePlan (p : ParsedIntent) : List Step :=
  if p.missingSlots ≠ [] then clarificationPlan newId p
  else match p.intent with
    | .calculate => calculatePlan newId p
    | .readNote => readNotePlan newId p
    | .writeNote => writeNotePlan newId p
    | .projectContextQuery => projectContextQueryPlan newId p
    | .greeting => greetingPlan newId
    | _ => unknownPlan newId

end IntentPlanner

/-! ### `SkillAwareIntentPlanner` -/

namespace SkillAwareIntentPlanner

/-- `_extract_inputs` -/
def extractInputs (spec : SkillSpec) (p : ParsedIntent) : Dict PyStr (Option PyStr) :=
  Dict.ofItems (spec.requiredInputs.map fun name => (name, p.slot name))

/-- `_capability_unavailable_plan` -/
def capabilityUnavailablePlan (disabled : DisabledSkill) : List Step :=
  answerPlan newId (py "Thông báo skill không khả dụng với backend hiện tại") (
    py "Skill '" ++ disabled.name.value ++ py "' không khả dụng với backend hiện tại. Thiếu capability: " ++
    joinWith (py ", ") (disabled.missingTools.map ToolName.value) ++ py ".")

/-- The loop of `_validate_skill_plan`. -/
def validateSkillSteps (spec : SkillSpec) : Nat → List Step → Except PyExc Unit
  | _, [] => .ok ()
  | i, step :: steps => do
    raiseIf (step.action ∉ spec.requiredTools) (skillError "InvalidSkillPlanError" (
      py "Skill " ++ memberRepr (py "SkillName") spec.name.value ++ py " step[" ++ natText i ++
      py "] action " ++ memberRepr (py "ToolName") step.action.value ++
      py " not declared in required_tools"))
    validateSkillSteps spec (i + 1) steps

/-- `_validate_skill_plan` -/
def validateSkillPlan (spec : SkillSpec) (steps : List Step) : Except PyExc Unit := do
  raiseIf (steps = []) (skillError "InvalidSkillPlanError" (py "Skill " ++
    memberRepr (py "SkillName") spec.name.value ++ py " plan_factory returned an empty plan"))
  validateSkillSteps spec 0 steps

def makePlan (catalog : SkillCatalog) (p : ParsedIntent) : Except PyExc (List Step) :=
  if p.missingSlots ≠ [] then .ok (IntentPlanner.makePlan newId p)
  else match catalog.activeForIntent p.intent with
    | some active => do
      let steps ← active.planFactory newId (extractInputs active p)
      validateSkillPlan active steps
      return steps
    | none =>
      match catalog.unavailableForIntent p.intent with
      | some disabled => .ok (capabilityUnavailablePlan newId disabled)
      | none => .ok (IntentPlanner.makePlan newId p)

end SkillAwareIntentPlanner

/-! ### `RuleBasedPlanner` -/

/-- `make_plan` of the planner that `build_rule_based_planner` makes for a registry. -/
def RuleBasedPlanner.makePlan (tb : ReTables) (available : List ToolName) (goal : PyStr) :
    Except PyExc (List Step) := do
  let catalog ← buildSkillCatalog available
  SkillAwareIntentPlanner.makePlan newId catalog (SlotValidator.validate (IntentParser.parse tb goal))

end

end Tomtit
