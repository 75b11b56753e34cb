import TomtitAgent.Conversation.Snapshot

/-!
# Applying one memory operation

`validate_memory_operation`, the resolvers and `apply_memory_operation` of `memory_operations.py`.
Each branch of `apply_memory_operation` is a function of its own; a result `none` lets the turn
fall through to the handlers after it.
-/

namespace Tomtit
open Py

inductive MemoryOpType where
  | add | updateCurrent | remove | negate | query | correct | switch | removePart | removeAll
deriving DecidableEq, Repr

/-- The domains of `MemoryDomain`, and `skill`, which the batch accepts besides. -/
inductive MemoryDomain where
  | name | occupation | preference | negativePreference | affection | relationship | goal | favorite
  | skill
deriving DecidableEq, Repr

structure MemoryOperation where
  op : MemoryOpType
  domain : MemoryDomain
  value : PyStr
  canonicalKey : PyStr
  polarity : Option PyStr := none
  relation : Option PyStr := none
  source : PyStr := py "user_explicit"
  rawText : PyStr := []

structure MemoryOperationOutcome where
  responseText : PyStr
  traceMarker : PyStr
  saved : Bool := false
deriving DecidableEq

section
variable (env : MemoryEnv)

def validateMemoryOperation (op : MemoryOperation) : Bool :=
  if strip op.value = [] then false
  else if isUnsafeOrSensitiveAutoValue env.toUnicode op.value then false
  else if op.op ∈ [MemoryOpType.add, .switch] ∧ isValidAutoValueShape env.toUnicode op.value = false
    then false
  else true

/-! ### resolvers -/

/-- `_confirmed_profile_facts` -/
def confirmedProfileFacts (w : World) : List MemoryRecord :=
  (w.profileRecords env .fact 200).filter fun r => r.metadata.confirmedProfile

def deleteAffectionFact (value : PyStr) (w : World) : Option PyStr × World :=
  let cond (r : MemoryRecord) : Bool := r.concerns self (py "affection") &&
    env.norm r.metadata.value = canonicalizeMemoryValue env.toUnicode value
  let records := confirmedProfileFacts env w
  (matchedValue cond records, w.deleteEach env cond (py "user_removal") records)

def deleteAllAffectionFacts (w : World) : Nat × World :=
  let cond (r : MemoryRecord) : Bool := r.concerns self (py "affection")
  let records := confirmedProfileFacts env w
  ((records.filter cond).length, w.deleteEach env cond (py "user_removal") records)

/-- `subject == "self"` and `relation in ("goal", "goal_focus")` -/
def MemoryRecord.isGoal (r : MemoryRecord) : Bool :=
  r.concerns self (py "goal") || r.concerns self (py "goal_focus")

/-- The test `hit` of `delete_goal_facts`. -/
def goalHit (conflictKey stored : PyStr) : Bool :=
  goalKeysMatch (goalConflictKey env.toUnicode stored) conflictKey ||
  (conflictKey = py "ai" && goalConflictKey env.toUnicode stored ≠ py "ml" &&
    valueRelatesToAi env.toUnicode stored)

def deleteGoalFacts (conflictKey : PyStr) (w : World) : Option PyStr × World :=
  let cond (r : MemoryRecord) : Bool :=
    r.isGoal && r.metadata.value ≠ [] && goalHit env conflictKey r.metadata.value
  let records := confirmedProfileFacts env w
  (matchedValue cond records, w.deleteEach env cond (py "goal_superseded") records)

def deleteAllGoalFacts (w : World) : Nat × World :=
  let records := confirmedProfileFacts env w
  ((records.filter (·.isGoal)).length, w.deleteEach env (·.isGoal) (py "goal_replaced") records)

def goalAlreadyActive (value : PyStr) (w : World) : Bool :=
  (confirmedProfileFacts env w).any fun r => r.isGoal &&
    goalConflictKey env.toUnicode r.metadata.value = goalConflictKey env.toUnicode value

def saveGoalFocus (value sessionId rawText : PyStr) (w : World) : Bool × World :=
  saveAutoProfileFact env
    { relation := py "goal_focus", value := value, originalText := rawText } sessionId
    (w.deleteEach env (·.concerns self (py "goal_focus")) (py "focus_superseded")
      (confirmedProfileFacts env w))

end

/-! ### responses -/

def buildOccupationStopAck (value : PyStr) : PyStr :=
  py "Đã ghi nhận bạn không còn làm " ++ value ++
    py " nữa. Mình đã cập nhật lại thông tin nghề nghiệp của bạn."

def buildAffectionRemovedAck (value : PyStr) : PyStr :=
  py "Đã ghi nhận bạn không còn thích/quan tâm " ++ value ++
    py " nữa. Mình đã cập nhật lại thông tin này."

def buildGoalSavedAck (value : PyStr) : PyStr :=
  py "Đã nhớ dự định hiện tại của bạn: " ++ value ++
    py ". Mình sẽ tính đến điều này khi hỗ trợ bạn."

def buildGoalSwitchedAck (newValue : PyStr) : PyStr :=
  py "Đã cập nhật dự định của bạn: hiện tại bạn muốn " ++ newValue ++
    py ". Mình không còn giữ dự định cũ như mục tiêu hiện tại nữa."

def buildGoalRemovedAck (value : PyStr) : PyStr :=
  py "Đã ghi nhận: bạn không còn theo đuổi mục tiêu '" ++ value ++
    py "' nữa. Mình đã bỏ mục tiêu này khỏi hồ sơ của bạn."

def buildGoalNegationNoopResponse (value : PyStr) : PyStr :=
  py "Đã ghi nhận: bạn không làm " ++ value ++ py " nữa. Hiện mình cũng không thấy " ++
    py "mục tiêu hay công việc nào về " ++ value ++ py " đang được lưu."

def buildRelationUpdateAck (label newName : PyStr) : PyStr :=
  py "Đã cập nhật " ++ label ++ py " của bạn thành " ++ newName ++ py "."

/-- `f"Đã nhớ là bạn có tình cảm/thích {value}."` -/
def affectionKept (value : PyStr) : PyStr := py "Đã nhớ là bạn có tình cảm/thích " ++ value ++ py "."

def preferenceUpdated : PyStr := py "conv:memop_preference_updated"

/-! ### the branches -/

section
variable (env : MemoryEnv) (op : MemoryOperation) (sessionId : PyStr) (w : World)

abbrev Applied := Option MemoryOperationOutcome × World

/-- `if not save(…): return None` and the outcome after it. -/
def afterSave (saved : Bool × World) (outcome : MemoryOperationOutcome) : Applied :=
  if saved.1 then (some outcome, saved.2) else (none, saved.2)

def occupationRemoved (removed : PyStr) : MemoryOperationOutcome :=
  { responseText := buildOccupationStopAck removed, traceMarker := py "conv:memop_occupation_removed" }

def goalRemoved (removed : PyStr) : MemoryOperationOutcome :=
  { responseText := buildGoalRemovedAck removed, traceMarker := py "conv:memop_goal_removed" }

def applyRemoveOccupation : Applied :=
  match deleteOccupationFact env op.value w with
  | (some removed, w1) => (some (occupationRemoved removed), w1)
  | (none, w1) =>
    match deleteGoalFacts env (goalConflictKey env.toUnicode op.value) w1 with
    | (some removed, w2) => (some (goalRemoved removed), w2)
    | (none, w2) => (none, w2)

def applyRemoveGoal : Applied :=
  match deleteGoalFacts env op.canonicalKey w with
  | (some removed, w1) => (some (goalRemoved removed), w1)
  | (none, w1) =>
    match deleteOccupationFact env op.value w1 with
    | (some removed, w2) => (some (occupationRemoved removed), w2)
    | (none, w2) =>
      if op.source = py "goal_negation_se" then
        (some { responseText := buildGoalNegationNoopResponse op.value
                traceMarker := py "conv:memop_goal_negation_noop" }, w2)
      else (none, w2)

/-- `any(_norm_cmp(a) == op.canonical_key for a in values)` -/
def keyAmong (values : List PyStr) : Bool := values.any fun a => env.norm a = op.canonicalKey

def applyRemoveAffection : Applied :=
  if !keyAmong env op (collectProfileSnapshot env w).affections then (none, w)
  else
    match deleteAffectionFact env op.value w with
    | (none, w1) => (none, w1)
    | (some removed, w1) =>
      (some { responseText := buildAffectionRemovedAck removed
              traceMarker := py "conv:memop_affection_removed" },
        (saveNegativeAffectionFact env removed sessionId op.rawText w1).2)

def applyAddAffection : Applied :=
  let marker := py "conv:memop_affection_saved"
  if keyAmong env op (collectProfileSnapshot env w).affections then
    (some { responseText := affectionKept op.value, traceMarker := marker }, w)
  else
    afterSave (saveAffectionFact env op.value sessionId op.rawText w)
      (if op.source = py "one_sided_affection" then
        { responseText := py "Đã nhớ là bạn có tình cảm đơn phương với " ++ op.value ++ py "."
          traceMarker := marker, saved := true }
      else { responseText := affectionKept op.value, traceMarker := marker, saved := true })

def applyUpdateRelationship : Applied :=
  match op.relation.getD [] with
  | [] => (none, w)
  | c :: cs =>
    afterSave (saveRelationUpdate env (c :: cs) op.value sessionId op.rawText w)
      { responseText := buildRelationUpdateAck (c :: cs) op.value
        traceMarker := py "conv:memop_relation_updated", saved := true }

def applyUpdateFavorite : Applied :=
  let domain := if isFoodValue env.toUnicode op.value then py "food" else py "general"
  afterSave (saveFavoriteFact env op.value domain sessionId op.rawText w)
    { responseText := py "Đã ghi nhận: hiện tại bạn thích " ++ op.value ++ py " hơn cả."
      traceMarker := py "conv:memop_favorite_updated", saved := true }

/-- `resolve_preference_conflicts` and the save of the new preference. -/
def replacePreference (relation : PyStr) (kind : Option PyStr) (w : World) : Bool × World :=
  saveAutoProfileFact env
    { relation := relation, value := op.value, originalText := op.rawText, preferenceKind := kind }
    sessionId (resolvePreferenceConflicts env op.value relation w)

/-- The operation asserts a dislike that the snapshot shows already, or a change that needs one. -/
def dislikedNow : Bool := keyAmong env op (collectProfileSnapshot env w).dislikes

def applyUpdatePreference : Applied :=
  if op.polarity = some (py "negative") then
    if dislikedNow env op w then
      (some { responseText := py "Đã ghi nhận: bạn vẫn không thích " ++ op.value ++ py "."
              traceMarker := preferenceUpdated }, w)
    else
      let text := if upperToken 2 (strip op.value).length (strip op.value) then
          py "Đã ghi nhận: " ++ op.value ++ py " hiện là mục bạn không còn thích."
        else py "Đã ghi nhận: hiện tại bạn không thích " ++ op.value ++ py " nữa."
      afterSave (replacePreference env op sessionId (py "negative_preference") none w)
        { responseText := text, traceMarker := preferenceUpdated, saved := true }
  else if op.source = py "pref_state_change_conditional" ∧ dislikedNow env op w = false then (none, w)
  else
    afterSave (replacePreference env op sessionId (py "preference")
        (some (classifyPreferenceKind env.toUnicode op.value)) w)
      { responseText := py "Đã ghi nhận: hiện tại bạn thích " ++ op.value ++
          py ". Mình đã cập nhật lại sở thích của bạn."
        traceMarker := preferenceUpdated, saved := true }

def applyUpdateGoal : Applied :=
  afterSave (saveGoalFocus env op.value sessionId op.rawText w)
    { responseText := py "Đã ghi nhận mục tiêu chính hiện tại của bạn là " ++ op.value ++
        py ". Mình vẫn giữ các mục tiêu khác của bạn."
      traceMarker := py "conv:memop_goal_focus_set", saved := true }

/-- The save of `op.value` as a goal. -/
def saveGoal (originalText : PyStr) (w : World) : Bool × World :=
  saveAutoProfileFact env
    { relation := py "goal", value := op.value, originalText := originalText } sessionId w

/-- The goals that a switch takes out: all of them, or those that the old key matches. -/
def clearGoals : World :=
  if op.source = py "goal_replace_all" then (deleteAllGoalFacts env w).2
  else (deleteGoalFacts env op.canonicalKey w).2

def applySwitchGoal : Applied :=
  let outcome : MemoryOperationOutcome :=
    { responseText := buildGoalSwitchedAck op.value, traceMarker := py "conv:memop_goal_switched"
      saved := true }
  let cleared := clearGoals env op w
  if goalAlreadyActive env op.value cleared then (some outcome, cleared)
  else afterSave (saveGoal env op sessionId op.rawText cleared) outcome

def applyAddGoal : Applied :=
  let marker := py "conv:memop_goal_saved"
  if goalAlreadyActive env op.value w then
    (some { responseText := buildGoalSavedAck op.value, traceMarker := marker }, w)
  else
    afterSave (saveGoal env op sessionId op.rawText w)
      { responseText := buildGoalSavedAck op.value, traceMarker := marker, saved := true }

def applyMemoryOperation : Applied :=
  if !validateMemoryOperation env op then (none, w)
  else match op.op, op.domain with
    | .remove, .occupation => applyRemoveOccupation env op w
    | .remove, .goal => applyRemoveGoal env op w
    | .remove, .affection => applyRemoveAffection env op sessionId w
    | .add, .affection => applyAddAffection env op sessionId w
    | .updateCurrent, .relationship => applyUpdateRelationship env op sessionId w
    | .updateCurrent, .favorite => applyUpdateFavorite env op sessionId w
    | .updateCurrent, .preference => applyUpdatePreference env op sessionId w
    | .updateCurrent, .goal => applyUpdateGoal env op sessionId w
    | .switch, .goal => applySwitchGoal env op sessionId w
    | .add, .goal => applyAddGoal env op sessionId w
    | _, _ => (none, w)

end

end Tomtit
