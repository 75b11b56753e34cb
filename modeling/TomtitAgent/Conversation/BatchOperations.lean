import TomtitAgent.Conversation.AffectionPolarity
import TomtitAgent.Conversation.DomainFrame

/-!
# A batch of memory operations

`apply_memory_operations` of `memory_operations.py`: the operations of one message, applied in a loop that
counts them and collects the acknowledgement.  The affections that are active before the batch are read once.

* `BatchState`, `batchStep`    the variables of the loop, and one turn of it;
* `applyMemoryOperations`   the whole function;
* `Counted`               what the counts say;
* `Current`               the cached affections agree with the memory at each affection that is added;
* `batch_counts`          every operation is counted once, and touches only the facts of its domain;
* `batch_sequential`      a batch that is current does what its operations do one after another.
-/

namespace Tomtit
open Py

structure BatchApplyResult where
  applied : Nat
  failed : Nat
  savedCount : Nat
  responseText : Option PyStr
deriving DecidableEq

/-- The variables of the loop. -/
structure BatchState where
  memory : World
  applied : Nat := 0
  failed : Nat := 0
  saved : Nat := 0
  posPrefs : List PyStr := []
  negPrefs : List PyStr := []
  goalsAdded : List PyStr := []
  affectionsAdded : List PyStr := []
  skillsAdded : List PyStr := []
  negSkillsAdded : List PyStr := []
  ackParts : List PyStr := []
  currentName : Option PyStr
  activeAffections : List PyStr

namespace BatchState

def fail (w : World) (b : BatchState) : BatchState := { b with memory := w, failed := b.failed + 1 }

def apply (w : World) (b : BatchState) : BatchState := { b with memory := w, applied := b.applied + 1 }

def save (w : World) (b : BatchState) : BatchState :=
  { b with memory := w, applied := b.applied + 1, saved := b.saved + 1 }

def ack (text : PyStr) (b : BatchState) : BatchState := { b with ackParts := b.ackParts ++ [text] }

/-- `if save(…): applied += 1; saved += 1; … else: failed += 1` -/
def afterSave (saved : Bool × World) (note : BatchState → BatchState) (b : BatchState) : BatchState :=
  if saved.1 then note (b.save saved.2) else b.fail saved.2

end BatchState

section
variable (env : MemoryEnv)

def buildNameUpdateAck (oldName newName : PyStr) : PyStr :=
  if env.norm oldName = env.norm newName then py "Mình vẫn đang nhớ tên bạn là " ++ newName ++ py "."
  else py "Đã cập nhật tên bạn từ " ++ oldName ++ py " thành " ++ newName ++ py "."

def BatchState.start (w : World) : BatchState where
  memory := w
  currentName := (collectProfileSnapshot env w).name
  activeAffections := (collectProfileSnapshot env w).affections.map env.norm

/-! ### the branches -/

section
variable (rawText sessionId : PyStr) (op : MemoryOperation) (b : BatchState)

/-- `raw_text or op.raw_text` -/
def batchText : PyStr := if rawText = [] then op.rawText else rawText

def batchRemoveAllAffections : BatchState :=
  let removed := deleteAllAffectionFacts env b.memory
  (b.apply removed.2).ack (if removed.1 ≠ 0 then
      py "Đã ghi nhận: hiện tại bạn không thích ai nữa. " ++
        py "Mình đã xóa thông tin về người bạn thích."
    else py "Đã ghi nhận: hiện tại bạn không thích ai. " ++
      py "Mình cũng không thấy thông tin nào về người bạn thích đang được lưu.")

/-- `relation` of the branch of the skills. -/
def batchSkillRelation : PyStr := if op.polarity = some (py "negative") then py "negative_skill" else py "skill"

def batchSkill : BatchState :=
  b.afterSave (saveAutoProfileFact env
      { relation := batchSkillRelation op, value := op.value, originalText := batchText rawText op } sessionId
      (resolveSkillConflicts env op.value (batchSkillRelation op) b.memory)) fun b =>
    if batchSkillRelation op = py "skill" then { b with skillsAdded := b.skillsAdded ++ [op.value] }
    else { b with negSkillsAdded := b.negSkillsAdded ++ [op.value] }

def batchPreference : BatchState :=
  if op.polarity = some (py "negative") ∨ op.op = .negate then
    b.afterSave (saveAutoProfileFact env
        { relation := py "negative_preference", value := op.value, originalText := batchText rawText op } sessionId
        (resolvePreferenceConflicts env op.value (py "negative_preference") b.memory)) fun b =>
      { b with negPrefs := b.negPrefs ++ [op.value] }
  else
    b.afterSave (saveAutoProfileFact env
        { relation := py "preference", value := op.value, originalText := batchText rawText op
          preferenceKind := some (classifyPreferenceKind env.toUnicode op.value) } sessionId
        (resolvePreferenceConflicts env op.value (py "preference") b.memory)) fun b =>
      { b with posPrefs := b.posPrefs ++ [op.value] }

def batchAddAffection : BatchState :=
  if env.norm op.value ∈ b.activeAffections then
    { b.apply b.memory with affectionsAdded := b.affectionsAdded ++ [op.value] }
  else
    b.afterSave (saveAffectionFact env op.value sessionId (batchText rawText op) b.memory) fun b =>
      { b with activeAffections := env.norm op.value :: b.activeAffections
               affectionsAdded := b.affectionsAdded ++ [op.value] }

def batchRemoveAffection : BatchState :=
  match deleteAffectionFact env op.value b.memory with
  | (none, w) => b.fail w
  | (some removed, w) =>
    (b.apply (saveNegativeAffectionFact env removed sessionId (batchText rawText op) w).2).ack
      (py "Đã ghi nhận bạn không còn thích/quan tâm " ++ op.value ++ py " nữa.")

def batchName : BatchState :=
  b.afterSave (saveSelfNameUpdate env op.value sessionId (batchText rawText op) b.memory) fun b =>
    { b.ack (match b.currentName with
        | some (c :: cs) => buildNameUpdateAck env (c :: cs) op.value
        | _ => py "Đã nhớ tên bạn là " ++ op.value ++ py ".") with currentName := some op.value }

def batchRelationship : BatchState :=
  match op.relation.getD [] with
  | [] => b.fail b.memory
  | c :: cs =>
    b.afterSave (saveRelationUpdate env (c :: cs) op.value sessionId (batchText rawText op) b.memory) fun b =>
      b.ack (buildRelationUpdateAck (c :: cs) op.value)

def batchGoalAdd : BatchState :=
  if goalAlreadyActive env op.value b.memory then
    { b.apply b.memory with goalsAdded := b.goalsAdded ++ [op.value] }
  else
    b.afterSave (saveGoal env op sessionId (batchText rawText op) b.memory) fun b =>
      { b with goalsAdded := b.goalsAdded ++ [op.value] }

def batchGoalRemove : BatchState :=
  let removed := deleteGoalFacts env op.canonicalKey b.memory
  (b.apply removed.2).ack (if removed.1.isSome then buildGoalRemovedAck op.value
    else py "Đã ghi nhận: bạn không muốn làm " ++ op.value ++ py ".")

/-- One turn of the loop. -/
def batchStep : BatchState :=
  if op.op = .removeAll ∧ op.domain = .affection then batchRemoveAllAffections env b
  else if !validateMemoryOperation env op then b.fail b.memory
  else if op.domain = .skill ∧ op.op ∈ [MemoryOpType.add, .negate] then batchSkill env rawText sessionId op b
  else if op.domain = .preference ∧ op.op ∈ [MemoryOpType.add, .negate] then
    batchPreference env rawText sessionId op b
  else if op.domain = .affection ∧ op.op = .add then batchAddAffection env rawText sessionId op b
  else if op.domain = .affection ∧ op.op ∈ [MemoryOpType.remove, .removePart] then
    batchRemoveAffection env rawText sessionId op b
  else if op.domain = .name ∧ op.op ∈ [MemoryOpType.correct, .updateCurrent, .add] then
    batchName env rawText sessionId op b
  else if op.domain = .relationship ∧ op.op ∈ [MemoryOpType.updateCurrent, .correct, .add] then
    batchRelationship env rawText sessionId op b
  else if op.domain = .goal ∧ op.op = .add then batchGoalAdd env rawText sessionId op b
  else if op.domain = .goal ∧ op.op ∈ [MemoryOpType.remove, .removePart] then batchGoalRemove env op b
  else b.fail b.memory

end

def batchRun (rawText sessionId : PyStr) (ops : List MemoryOperation) (b : BatchState) : BatchState :=
  ops.foldl (fun b op => batchStep env rawText sessionId op b) b

def listText (before : PyStr) (values : List PyStr) (after : PyStr) : PyStr :=
  before ++ joinWith (py ", ") values ++ after

/-- The acknowledgement parts with those of the collected values. -/
def BatchState.parts (b : BatchState) : List PyStr :=
  (if b.posPrefs ≠ [] ∧ b.negPrefs ≠ [] then
      [listText (py "Đã nhớ: bạn thích ") b.posPrefs [] ++ listText (py "; bạn không thích ") b.negPrefs (py ".")]
    else if b.posPrefs ≠ [] then [listText (py "Đã nhớ là bạn thích ") b.posPrefs (py ".")]
    else if b.negPrefs ≠ [] then [listText (py "Đã nhớ là bạn không thích ") b.negPrefs (py ".")]
    else []) ++
  b.ackParts ++
  (if b.goalsAdded ≠ [] then [listText (py "Đã nhớ dự định hiện tại của bạn: ") b.goalsAdded (py ".")] else []) ++
  (if b.affectionsAdded ≠ [] then [listText (py "Đã nhớ là bạn có tình cảm/thích ") b.affectionsAdded
      (py ". Mình sẽ không xếp thông tin này vào sở thích thông thường.")] else []) ++
  (if b.skillsAdded ≠ [] then [listText (py "Đã nhớ là bạn biết ") b.skillsAdded (py ".")] else []) ++
  (if b.negSkillsAdded ≠ [] then [listText (py "Đã nhớ là bạn không biết ") b.negSkillsAdded (py ".")] else [])

def BatchState.result (b : BatchState) : BatchApplyResult where
  applied := b.applied
  failed := b.failed
  savedCount := b.saved
  responseText := if b.applied ≠ 0 ∧ b.parts ≠ [] then some (joinWith (py " ") b.parts) else none

def applyMemoryOperations (ops : List MemoryOperation) (rawText sessionId : PyStr) (w : World) :
    BatchApplyResult × World :=
  ((batchRun env rawText sessionId ops (BatchState.start env w)).result,
    (batchRun env rawText sessionId ops (BatchState.start env w)).memory)

/-! ### what one turn counts and changes -/

/-- `n` operations more are counted; what is saved is applied, what is applied is acknowledged, and only such
facts change. -/
structure Counted (facts : List (PyStr × PyStr)) (n : Nat) (b b' : BatchState) : Prop where
  each : b'.applied + b'.failed = b.applied + b.failed + n
  applied : b.applied ≤ b'.applied
  saved : b'.saved + b.applied ≤ b'.applied + b.saved
  spoken : b.parts ≠ [] ∨ b.applied < b'.applied → b'.parts ≠ []
  confined : ChangesOnly env facts b.memory b'.memory

variable {env : MemoryEnv} {facts : List (PyStr × PyStr)} {b : BatchState} {w : World}

theorem parts_ne_nil (h : b.ackParts ≠ [] ∨ b.posPrefs ≠ [] ∨ b.negPrefs ≠ [] ∨ b.goalsAdded ≠ [] ∨
    b.affectionsAdded ≠ [] ∨ b.skillsAdded ≠ [] ∨ b.negSkillsAdded ≠ []) : b.parts ≠ [] := by
  unfold BatchState.parts
  rcases h with h | h | h | h | h | h | h
  · simp [h]
  · by_cases hneg : b.negPrefs = []
    · simp [h, hneg]
    · simp [h, hneg]
  · by_cases hpos : b.posPrefs = []
    · simp [h, hpos]
    · simp [h, hpos]
  · simp [h]
  · simp [h]
  · simp [h]
  · simp [h]

theorem counted_fail (h : ChangesOnly env facts b.memory w) : Counted env facts 1 b (b.fail w) := by
  refine ⟨rfl, le_rfl, ?_, ?_, h⟩
  · show b.saved + b.applied ≤ b.applied + b.saved
    omega
  · rintro (hparts | happlied)
    · exact hparts
    · exact absurd happlied (lt_irrefl _)

theorem Counted.refl : Counted env [] 0 b b :=
  ⟨rfl, le_rfl, (Nat.add_comm _ _).le, fun h => h.resolve_right (lt_irrefl _), .refl _⟩

theorem Counted.trans {facts' : List (PyStr × PyStr)} {n m : Nat} {b' b'' : BatchState}
    (h : Counted env facts n b b') (h' : Counted env facts' m b' b'') :
    Counted env (facts ++ facts') (n + m) b b'' := by
  have heach := h.each
  have heach' := h'.each
  have happlied := h.applied
  have happlied' := h'.applied
  have hsaved := h.saved
  have hsaved' := h'.saved
  refine ⟨by omega, by omega, by omega, fun hspoken => h'.spoken ?_, ?_⟩
  · by_cases hlater : b'.applied < b''.applied
    · exact .inr hlater
    · refine .inl (h.spoken (hspoken.imp_right fun hlt => ?_))
      omega
  · exact (h.confined.mono (List.subset_append_left _ _)).trans (h'.confined.mono (List.subset_append_right _ _))

/-- A note changes neither the counts nor the memory, and says something. -/
structure Noted (note : BatchState → BatchState) : Prop where
  counts : ∀ b, (note b).applied = b.applied ∧ (note b).failed = b.failed ∧ (note b).saved = b.saved
  memory : ∀ b, (note b).memory = b.memory
  parts : ∀ b, (note b).parts ≠ []

namespace Noted
variable {note : BatchState → BatchState} (hnote : Noted note)
include hnote

theorem apply (h : ChangesOnly env facts b.memory w) : Counted env facts 1 b (note (b.apply w)) := by
  obtain ⟨happlied, hfailed, hsaved⟩ := hnote.counts (b.apply w)
  have happlied : (note (b.apply w)).applied = b.applied + 1 := happlied
  have hfailed : (note (b.apply w)).failed = b.failed := hfailed
  have hsaved : (note (b.apply w)).saved = b.saved := hsaved
  refine ⟨by omega, by omega, by omega, fun _ => hnote.parts _, ?_⟩
  rw [hnote.memory]
  exact h

theorem save (h : ChangesOnly env facts b.memory w) : Counted env facts 1 b (note (b.save w)) := by
  obtain ⟨happlied, hfailed, hsaved⟩ := hnote.counts (b.save w)
  have happlied : (note (b.save w)).applied = b.applied + 1 := happlied
  have hfailed : (note (b.save w)).failed = b.failed := hfailed
  have hsaved : (note (b.save w)).saved = b.saved + 1 := hsaved
  refine ⟨by omega, by omega, by omega, fun _ => hnote.parts _, ?_⟩
  rw [hnote.memory]
  exact h

theorem afterSave {saved : Bool × World} (h : ChangesOnly env facts b.memory saved.2) :
    Counted env facts 1 b (b.afterSave saved note) := by
  unfold BatchState.afterSave
  split_ifs
  · exact hnote.save h
  · exact counted_fail h

end Noted

theorem noted_ack (text : PyStr) : Noted (BatchState.ack text) where
  counts _ := ⟨rfl, rfl, rfl⟩
  memory _ := rfl
  parts _ := parts_ne_nil (.inl (by simp [BatchState.ack]))

theorem noted_posPref (value : PyStr) : Noted fun c : BatchState => { c with posPrefs := c.posPrefs ++ [value] } :=
  ⟨fun _ => ⟨rfl, rfl, rfl⟩, fun _ => rfl, fun _ => parts_ne_nil (by simp)⟩

theorem noted_negPref (value : PyStr) : Noted fun c : BatchState => { c with negPrefs := c.negPrefs ++ [value] } :=
  ⟨fun _ => ⟨rfl, rfl, rfl⟩, fun _ => rfl, fun _ => parts_ne_nil (by simp)⟩

theorem noted_affection (value : PyStr) :
    Noted fun c : BatchState => { c with affectionsAdded := c.affectionsAdded ++ [value] } :=
  ⟨fun _ => ⟨rfl, rfl, rfl⟩, fun _ => rfl, fun _ => parts_ne_nil (by simp)⟩

theorem noted_saved (value key : PyStr) : Noted fun c : BatchState =>
    { c with activeAffections := key :: c.activeAffections, affectionsAdded := c.affectionsAdded ++ [value] } :=
  ⟨fun _ => ⟨rfl, rfl, rfl⟩, fun _ => rfl, fun _ => parts_ne_nil (by simp)⟩

theorem noted_name (text : BatchState → PyStr) (value : PyStr) : Noted fun c : BatchState =>
    { c.ack (text c) with currentName := some value } :=
  ⟨fun _ => ⟨rfl, rfl, rfl⟩, fun _ => rfl, fun _ => parts_ne_nil (.inl (by simp [BatchState.ack]))⟩

theorem noted_goal (value : PyStr) : Noted fun c : BatchState => { c with goalsAdded := c.goalsAdded ++ [value] } :=
  ⟨fun _ => ⟨rfl, rfl, rfl⟩, fun _ => rfl, fun _ => parts_ne_nil (by simp)⟩

section
variable (rawText sessionId : PyStr) (op : MemoryOperation) (b : BatchState)

theorem noted_skill : Noted fun c : BatchState =>
    if batchSkillRelation op = py "skill" then { c with skillsAdded := c.skillsAdded ++ [op.value] }
    else { c with negSkillsAdded := c.negSkillsAdded ++ [op.value] } := by
  by_cases hskill : batchSkillRelation op = py "skill"
  · simp only [if_pos hskill]
    exact ⟨fun _ => ⟨rfl, rfl, rfl⟩, fun _ => rfl, fun _ => parts_ne_nil (by simp)⟩
  · simp only [if_neg hskill]
    exact ⟨fun _ => ⟨rfl, rfl, rfl⟩, fun _ => rfl, fun _ => parts_ne_nil (by simp)⟩

theorem counted_skill : Counted env MemoryDomain.skill.facts 1 b (batchSkill env rawText sessionId op b) := by
  have hrelation : (self, batchSkillRelation op) ∈ MemoryDomain.skill.facts ∧
      (self, oppositeSkill (batchSkillRelation op)) ∈ MemoryDomain.skill.facts ∧
      isPreferenceRelation (batchSkillRelation op) = false := by
    unfold batchSkillRelation
    split_ifs
    · simp [MemoryDomain.facts, oppositeSkill, isPreferenceRelation]
    · simp [MemoryDomain.facts, oppositeSkill, isPreferenceRelation]
  unfold batchSkill
  refine (noted_skill op).afterSave ((confined_resolveSkill hrelation.2.1 op.value b.memory).trans ?_)
  exact confined_saveAuto hrelation.1 hrelation.2.2 sessionId _

theorem counted_preference :
    Counted env MemoryDomain.preference.facts 1 b (batchPreference env rawText sessionId op b) := by
  unfold batchPreference
  split_ifs
  · refine (noted_negPref op.value).afterSave ?_
    refine (confined_resolvePreference op.value (py "negative_preference") b.memory).trans ?_
    exact confined_savePreference (List.mem_cons_of_mem _ List.mem_cons_self) sessionId _
  · refine (noted_posPref op.value).afterSave ?_
    refine (confined_resolvePreference op.value (py "preference") b.memory).trans ?_
    exact confined_savePreference List.mem_cons_self sessionId _

theorem counted_addAffection :
    Counted env MemoryDomain.affection.facts 1 b (batchAddAffection env rawText sessionId op b) := by
  unfold batchAddAffection
  split_ifs
  · exact (noted_affection op.value).apply (.refl b.memory)
  · exact (noted_saved op.value _).afterSave (confined_saveAffection _ sessionId _ b.memory)

theorem counted_removeAffection :
    Counted env MemoryDomain.affection.facts 1 b (batchRemoveAffection env rawText sessionId op b) := by
  unfold batchRemoveAffection
  have hfirst := @confined_deleteAffection env MemoryDomain.affection.facts List.mem_cons_self op.value b.memory
  rcases hrun : deleteAffectionFact env op.value b.memory with ⟨removed, w⟩
  rw [hrun] at hfirst
  cases removed with
  | none => exact counted_fail hfirst
  | some removed =>
    exact (noted_ack _).apply (hfirst.trans (confined_saveNegativeAffection removed sessionId _ w))

theorem counted_name : Counted env MemoryDomain.name.facts 1 b (batchName env rawText sessionId op b) := by
  unfold batchName
  exact (noted_name _ op.value).afterSave (confined_saveName op.value sessionId _ b.memory)

theorem counted_relationship :
    Counted env MemoryDomain.relationship.facts 1 b (batchRelationship env rawText sessionId op b) := by
  unfold batchRelationship
  cases op.relation.getD [] with
  | nil => exact counted_fail (.refl _)
  | cons c cs => exact (noted_ack _).afterSave (confined_saveRelation (c :: cs) _ sessionId _ b.memory)

theorem counted_addGoal : Counted env MemoryDomain.goal.facts 1 b (batchGoalAdd env rawText sessionId op b) := by
  unfold batchGoalAdd
  split_ifs
  · exact (noted_goal op.value).apply (.refl b.memory)
  · exact (noted_goal op.value).afterSave (confined_saveGoal op sessionId _ b.memory)

theorem batchStep_branch {P : BatchState → BatchState → Prop} (c : BatchState)
    (hfail : P (b.fail b.memory) (c.fail c.memory))
    (hall : op.domain = .affection → P (batchRemoveAllAffections env b) (batchRemoveAllAffections env c))
    (hskill : op.domain = .skill → P (batchSkill env rawText sessionId op b) (batchSkill env rawText sessionId op c))
    (hpreference : op.domain = .preference →
      P (batchPreference env rawText sessionId op b) (batchPreference env rawText sessionId op c))
    (hadd : op.domain = .affection ∧ op.op = .add →
      P (batchAddAffection env rawText sessionId op b) (batchAddAffection env rawText sessionId op c))
    (hremove : op.domain = .affection →
      P (batchRemoveAffection env rawText sessionId op b) (batchRemoveAffection env rawText sessionId op c))
    (hname : op.domain = .name → P (batchName env rawText sessionId op b) (batchName env rawText sessionId op c))
    (hrelation : op.domain = .relationship →
      P (batchRelationship env rawText sessionId op b) (batchRelationship env rawText sessionId op c))
    (hgoal : op.domain = .goal →
      P (batchGoalAdd env rawText sessionId op b) (batchGoalAdd env rawText sessionId op c))
    (hdrop : op.domain = .goal → P (batchGoalRemove env op b) (batchGoalRemove env op c)) :
    P (batchStep env rawText sessionId op b) (batchStep env rawText sessionId op c) := by
  unfold batchStep
  by_cases h : op.op = .removeAll ∧ op.domain = .affection
  · rw [if_pos h, if_pos h]
    exact hall h.2
  rw [if_neg h, if_neg h]
  by_cases h : (!validateMemoryOperation env op) = true
  · rw [if_pos h, if_pos h]
    exact hfail
  rw [if_neg h, if_neg h]
  by_cases h : op.domain = .skill ∧ op.op ∈ [MemoryOpType.add, .negate]
  · rw [if_pos h, if_pos h]
    exact hskill h.1
  rw [if_neg h, if_neg h]
  by_cases h : op.domain = .preference ∧ op.op ∈ [MemoryOpType.add, .negate]
  · rw [if_pos h, if_pos h]
    exact hpreference h.1
  rw [if_neg h, if_neg h]
  by_cases h : op.domain = .affection ∧ op.op = .add
  · rw [if_pos h, if_pos h]
    exact hadd h
  rw [if_neg h, if_neg h]
  by_cases h : op.domain = .affection ∧ op.op ∈ [MemoryOpType.remove, .removePart]
  · rw [if_pos h, if_pos h]
    exact hremove h.1
  rw [if_neg h, if_neg h]
  by_cases h : op.domain = .name ∧ op.op ∈ [MemoryOpType.correct, .updateCurrent, .add]
  · rw [if_pos h, if_pos h]
    exact hname h.1
  rw [if_neg h, if_neg h]
  by_cases h : op.domain = .relationship ∧ op.op ∈ [MemoryOpType.updateCurrent, .correct, .add]
  · rw [if_pos h, if_pos h]
    exact hrelation h.1
  rw [if_neg h, if_neg h]
  by_cases h : op.domain = .goal ∧ op.op = .add
  · rw [if_pos h, if_pos h]
    exact hgoal h.1
  rw [if_neg h, if_neg h]
  by_cases h : op.domain = .goal ∧ op.op ∈ [MemoryOpType.remove, .removePart]
  · rw [if_pos h, if_pos h]
    exact hdrop h.1
  rw [if_neg h, if_neg h]
  exact hfail

theorem counted_step : Counted env op.domain.facts 1 b (batchStep env rawText sessionId op b) := by
  have hdomain : ∀ {d b'}, op.domain = d → Counted env d.facts 1 b b' → Counted env op.domain.facts 1 b b' := by
    rintro d b' rfl h
    exact h
  apply @batchStep_branch env rawText sessionId op b (fun b' _ => Counted env op.domain.facts 1 b b') b
  case hfail => exact counted_fail (.refl _)
  case hall =>
    exact fun h => hdomain h ((noted_ack _).apply (confined_deleteAllAffections List.mem_cons_self b.memory))
  case hskill => exact fun h => hdomain h (counted_skill rawText sessionId op b)
  case hpreference => exact fun h => hdomain h (counted_preference rawText sessionId op b)
  case hadd => exact fun h => hdomain h.1 (counted_addAffection rawText sessionId op b)
  case hremove => exact fun h => hdomain h (counted_removeAffection rawText sessionId op b)
  case hname => exact fun h => hdomain h (counted_name rawText sessionId op b)
  case hrelation => exact fun h => hdomain h (counted_relationship rawText sessionId op b)
  case hgoal => exact fun h => hdomain h (counted_addGoal rawText sessionId op b)
  case hdrop =>
    exact fun h => hdomain h ((noted_ack _).apply (confined_deleteGoals goal_mem focus_mem op.canonicalKey b.memory))

theorem counted_run (ops : List MemoryOperation) :
    Counted env (ops.flatMap fun op => op.domain.facts) ops.length b (batchRun env rawText sessionId ops b) := by
  induction ops generalizing b with
  | nil => exact .refl
  | cons op ops ih =>
    rw [List.flatMap_cons, List.length_cons, Nat.add_comm]
    exact (counted_step rawText sessionId op b).trans (ih _)

end

/-- What the result of a batch says, and what the batch may change. -/
structure BatchCounts (env : MemoryEnv) (ops : List MemoryOperation) (w : World) (r : BatchApplyResult × World) :
    Prop where
  counted : r.1.applied + r.1.failed = ops.length
  saved : r.1.savedCount ≤ r.1.applied
  acknowledged : r.1.responseText.isSome = true ↔ r.1.applied ≠ 0
  confined : ChangesOnly env (ops.flatMap fun op => op.domain.facts) w r.2

/-- **The counts of a batch.**  Every operation is applied or fails, what is saved is applied, the user is
answered exactly if something is applied, and only facts of the domains of the operations change. -/
theorem batch_counts (ops : List MemoryOperation) (rawText sessionId : PyStr) (w : World) :
    BatchCounts env ops w (applyMemoryOperations env ops rawText sessionId w) := by
  have h := @counted_run env rawText sessionId (BatchState.start env w) ops
  refine ⟨?_, ?_, ?_, h.confined⟩
  · have heach := h.each
    rw [show (BatchState.start env w).applied + (BatchState.start env w).failed = 0 from rfl, Nat.zero_add] at heach
    exact heach
  · have hsaved := h.saved
    rw [show (BatchState.start env w).applied = 0 from rfl, show (BatchState.start env w).saved = 0 from rfl] at hsaved
    exact hsaved
  · show (BatchState.result _).responseText.isSome = true ↔ (batchRun env rawText sessionId ops _).applied ≠ 0
    unfold BatchState.result
    dsimp only
    by_cases happlied : (batchRun env rawText sessionId ops (BatchState.start env w)).applied = 0
    · rw [if_neg fun hboth => hboth.1 happlied]
      exact iff_of_false (by simp) (not_not.mpr happlied)
    · rw [if_pos ⟨happlied, h.spoken (.inr (Nat.pos_of_ne_zero happlied))⟩]
      exact iff_of_true rfl happlied

/-! ### a batch and its operations one after another -/

/-- The counts of `b'` are those of `b` and `c` together, and its memory is that of `c`. -/
structure Sums (b c b' : BatchState) : Prop where
  applied : b'.applied = b.applied + c.applied
  failed : b'.failed = b.failed + c.failed
  saved : b'.saved = b.saved + c.saved
  memory : b'.memory = c.memory

/-- Each affection that is added is active in the loop exactly if the memory shows it. -/
def Current (env : MemoryEnv) (rawText sessionId : PyStr) : List MemoryOperation → BatchState → Prop
  | [], _ => True
  | op :: ops, b => (op.domain = .affection ∧ op.op = .add → (env.norm op.value ∈ b.activeAffections ↔
      env.norm op.value ∈ (BatchState.start env b.memory).activeAffections)) ∧
    Current env rawText sessionId ops (batchStep env rawText sessionId op b)

/-- The operations one after another, each as a batch of its own: their counts, and the memory after them. -/
def oneByOne (env : MemoryEnv) (rawText sessionId : PyStr) :
    List MemoryOperation → World → (Nat × Nat × Nat) × World
  | [], w => ((0, 0, 0), w)
  | op :: ops, w =>
    let first := applyMemoryOperations env [op] rawText sessionId w
    let rest := oneByOne env rawText sessionId ops first.2
    ((first.1.applied + rest.1.1, first.1.failed + rest.1.2.1, first.1.savedCount + rest.1.2.2), rest.2)

section
variable {w₀ : World}

theorem sums_fail : Sums b ((BatchState.start env w₀).fail w) (b.fail w) :=
  ⟨rfl, rfl, rfl, rfl⟩

theorem Noted.sums {note note' : BatchState → BatchState} (hnote : Noted note) (hnote' : Noted note')
    {c b' : BatchState} (h : Sums b c b') : Sums b (note c) (note' b') := by
  obtain ⟨happlied, hfailed, hsaved⟩ := hnote.counts c
  obtain ⟨happlied', hfailed', hsaved'⟩ := hnote'.counts b'
  refine ⟨?_, ?_, ?_, ?_⟩
  · rw [happlied', happlied, h.applied]
  · rw [hfailed', hfailed, h.failed]
  · rw [hsaved', hsaved, h.saved]
  · rw [hnote'.memory, hnote.memory, h.memory]

theorem sums_apply {note note' : BatchState → BatchState} (hnote : Noted note) (hnote' : Noted note') :
    Sums b (note ((BatchState.start env w₀).apply w)) (note' (b.apply w)) :=
  hnote.sums hnote' ⟨rfl, rfl, rfl, rfl⟩

theorem sums_save {note note' : BatchState → BatchState} (hnote : Noted note) (hnote' : Noted note')
    (saved : Bool × World) :
    Sums b ((BatchState.start env w₀).afterSave saved note) (b.afterSave saved note') := by
  unfold BatchState.afterSave
  split_ifs
  · exact hnote.sums hnote' ⟨rfl, rfl, rfl, rfl⟩
  · exact sums_fail

end

section
variable (rawText sessionId : PyStr) (op : MemoryOperation) (b : BatchState)

theorem sums_step (hcached : op.domain = .affection ∧ op.op = .add → (env.norm op.value ∈ b.activeAffections ↔
      env.norm op.value ∈ (BatchState.start env b.memory).activeAffections)) :
    Sums b (batchStep env rawText sessionId op (BatchState.start env b.memory))
      (batchStep env rawText sessionId op b) := by
  apply @batchStep_branch env rawText sessionId op (BatchState.start env b.memory) (Sums b) b
  case hfail => exact sums_fail
  case hall => exact fun _ => sums_apply (noted_ack _) (noted_ack _)
  case hskill => exact fun _ => sums_save (noted_skill op) (noted_skill op) _
  case hpreference =>
    intro _
    unfold batchPreference
    by_cases hpolarity : op.polarity = some (py "negative") ∨ op.op = .negate
    · rw [if_pos hpolarity, if_pos hpolarity]
      exact sums_save (noted_negPref op.value) (noted_negPref op.value) _
    · rw [if_neg hpolarity, if_neg hpolarity]
      exact sums_save (noted_posPref op.value) (noted_posPref op.value) _
  case hadd =>
    intro h
    unfold batchAddAffection
    by_cases hactive : env.norm op.value ∈ b.activeAffections
    · rw [if_pos hactive, if_pos ((hcached h).mp hactive)]
      exact sums_apply (noted_affection op.value) (noted_affection op.value)
    · rw [if_neg hactive, if_neg fun hshown => hactive ((hcached h).mpr hshown)]
      exact sums_save (noted_saved _ _) (noted_saved _ _) _
  case hremove =>
    intro _
    unfold batchRemoveAffection
    rw [show (BatchState.start env b.memory).memory = b.memory from rfl]
    rcases deleteAffectionFact env op.value b.memory with ⟨removed, w⟩
    cases removed with
    | none => exact sums_fail
    | some removed => exact sums_apply (noted_ack _) (noted_ack _)
  case hname => exact fun _ => sums_save (noted_name _ _) (noted_name _ _) _
  case hrelation =>
    intro _
    unfold batchRelationship
    cases op.relation.getD [] with
    | nil => exact sums_fail
    | cons c cs => exact sums_save (noted_ack _) (noted_ack _) _
  case hgoal =>
    intro _
    unfold batchGoalAdd
    rw [show (BatchState.start env b.memory).memory = b.memory from rfl]
    by_cases hactive : goalAlreadyActive env op.value b.memory = true
    · rw [if_pos hactive, if_pos hactive]
      exact sums_apply (noted_goal op.value) (noted_goal op.value)
    · rw [if_neg hactive, if_neg hactive]
      exact sums_save (noted_goal op.value) (noted_goal op.value) _
  case hdrop => exact fun _ => sums_apply (noted_ack _) (noted_ack _)

theorem sums_run {ops : List MemoryOperation} (h : Current env rawText sessionId ops b) :
    (batchRun env rawText sessionId ops b).applied = b.applied + (oneByOne env rawText sessionId ops b.memory).1.1 ∧
    (batchRun env rawText sessionId ops b).failed = b.failed + (oneByOne env rawText sessionId ops b.memory).1.2.1 ∧
    (batchRun env rawText sessionId ops b).saved = b.saved + (oneByOne env rawText sessionId ops b.memory).1.2.2 ∧
    (batchRun env rawText sessionId ops b).memory = (oneByOne env rawText sessionId ops b.memory).2 := by
  induction ops generalizing b with
  | nil => exact ⟨rfl, rfl, rfl, rfl⟩
  | cons op ops ih =>
    have hstep := sums_step rawText sessionId op b h.1
    obtain ⟨happlied, hfailed, hsaved, hmemory⟩ := ih _ h.2
    have hfirst : (applyMemoryOperations env [op] rawText sessionId b.memory).2 =
        (batchStep env rawText sessionId op b).memory := hstep.memory.symm
    have hone : oneByOne env rawText sessionId (op :: ops) b.memory =
        ((_ + (oneByOne env rawText sessionId ops _).1.1, _ + (oneByOne env rawText sessionId ops _).1.2.1,
          _ + (oneByOne env rawText sessionId ops _).1.2.2), (oneByOne env rawText sessionId ops _).2) := rfl
    rw [hone, hfirst]
    refine ⟨?_, ?_, ?_, hmemory⟩
    · refine happlied.trans ?_
      rw [hstep.applied, Nat.add_assoc]
      rfl
    · refine hfailed.trans ?_
      rw [hstep.failed, Nat.add_assoc]
      rfl
    · refine hsaved.trans ?_
      rw [hstep.saved, Nat.add_assoc]
      rfl

end

/-- **A batch is its operations.**  Where the affections that the loop has cached are those that the memory
shows, a batch counts and does what its operations count and do one after another. -/
theorem batch_sequential (ops : List MemoryOperation) (rawText sessionId : PyStr) (w : World)
    (h : Current env rawText sessionId ops (BatchState.start env w)) :
    let r := applyMemoryOperations env ops rawText sessionId w
    ((r.1.applied, r.1.failed, r.1.savedCount), r.2) = oneByOne env rawText sessionId ops w := by
  obtain ⟨happlied, hfailed, hsaved, hmemory⟩ := sums_run rawText sessionId _ h
  refine Prod.ext (Prod.ext ?_ (Prod.ext ?_ ?_)) hmemory
  · exact happlied.trans (Nat.zero_add _)
  · exact hfailed.trans (Nat.zero_add _)
  · exact hsaved.trans (Nat.zero_add _)

/-! ### two persons in one message -/

def affectionFor (value : PyStr) : MemoryOperation :=
  { op := .add, domain := .affection, value := value, canonicalKey := value }

theorem validate_affectionFor {s : String} (hs : s = "may" ∨ s = "lan") :
    validateMemoryOperation plainEnv (affectionFor (py s)) = true := by
  have hlower : asciiUnicode.lower (py s) = py s := by
    rcases hs with rfl | rfl <;> exact asciiUnicode.lower_py (by simp)
  have hword : IsWord (py s) := by
    rcases hs with rfl | rfl <;> exact isWord_py (by simp) (by simp; decide)
  have hsafe : isUnsafeOrSensitiveAutoValue plainEnv.toUnicode (py s) = false := by
    refine isUnsafe_word asciiUnicode hword ?_ ?_ ?_
    · rw [hlower]
      intro c hc
      obtain ⟨d, hd, rfl⟩ := List.mem_map.mp hc
      revert d
      rcases hs with rfl | rfl <;> (simp; decide)
    · rw [hlower]
      rcases hs with rfl | rfl <;> simp [unsafeValueExact]
    · rw [hlower]
      rcases hs with rfl | rfl <;> simp [unsafeValueTokens]
  have hstrip : strip (py s) = py s := strip_of_edges (isWord_edges hword).1 (isWord_edges hword).2
  have hshape : isValidAutoValueShape plainEnv.toUnicode (py s) = true := by
    have hvague : plainEnv.toUnicode.lower (py s) ∉ vagueRefs := by
      rw [show plainEnv.toUnicode.lower (py s) = py s from hlower]
      rcases hs with rfl | rfl <;> simp [vagueRefs]
    have hlength : (py s).length = 3 := by
      rcases hs with rfl | rfl <;> (rw [py_ofList]; rfl)
    unfold isValidAutoValueShape
    dsimp only
    rw [hstrip, if_neg (not_or.mpr ⟨hword.1, by omega⟩), if_neg (by omega), decide_eq_true hvague]
  unfold validateMemoryOperation
  rw [show (affectionFor (py s)).value = py s from rfl, hstrip, if_neg hword.1, hsafe,
    if_neg Bool.false_ne_true, hshape]
  simp

theorem saveAffectionFact_saved (value sessionId text : PyStr) (w : World) :
    (saveAffectionFact plainEnv value sessionId text w).1 = true := by
  unfold saveAffectionFact saveProfileV2Fact
  rw [trySave_fst (strip_append_ne_nil (c := 'b') (by simp) rfl)]
  rfl

theorem batchStep_affectionFor {s : String} (hs : s = "may" ∨ s = "lan") {b : BatchState}
    (hnew : plainEnv.norm (py s) ∉ b.activeAffections) :
    batchStep plainEnv [] (py "s") (affectionFor (py s)) b =
      { b.save (saveAffectionFact plainEnv (py s) (py "s") [] b.memory).2 with
        activeAffections := plainEnv.norm (py s) :: b.activeAffections
        affectionsAdded := b.affectionsAdded ++ [py s] } := by
  have hadd : batchStep plainEnv [] (py "s") (affectionFor (py s)) b =
      batchAddAffection plainEnv [] (py "s") (affectionFor (py s)) b := by
    unfold batchStep
    rw [validate_affectionFor hs]
    simp [affectionFor]
  rw [hadd]
  exact (if_neg hnew).trans (if_pos (saveAffectionFact_saved _ _ _ _))

theorem norm_lan : plainEnv.norm (py "lan") = py "lan" := by
  show normCmp asciiUnicode (py "lan") = _
  rw [normCmp_word asciiUnicode (isWord_py (by simp) (by simp; decide))]
  exact asciiUnicode.lower_py (by simp)

theorem lan_not_shown : plainEnv.norm (py "lan") ∉
    (BatchState.start plainEnv (likesMay.writesAffection plainEnv .empty)).activeAffections := by
  intro hmem
  obtain ⟨v, hv, hnorm⟩ := List.mem_map.mp hmem
  have hkey : plainEnv.valueKey (py "lan") ∈
      (collectProfileSnapshot plainEnv (likesMay.writesAffection plainEnv .empty)).keys plainEnv .affections := by
    unfold MemoryEnv.valueKey
    rw [← hnorm]
    exact List.mem_map_of_mem hv
  obtain ⟨r, hr, hshown⟩ := (mem_keys_collect plainEnv).mp hkey
  have hlive := ((mem_confirmedRecords plainEnv).mp hr).1
  rw [likesMay_run] at hlive
  rcases mem_live_trySave hlive with hempty | ⟨htype, htags, hmd⟩
  · exact absurd hempty List.not_mem_nil
  · have hmay := (affectionMemory_spec (s := .affections) rfl (slot_of_row 2 rfl) isWord_may.1 clean_may
      htype htags hmd).2
    rw [hshown, personKey_may] at hmay
    have hsame := (Prod.mk.inj (Prod.mk.inj (Option.some.inj hmay)).2).2
    rw [norm_lan] at hsame
    simp at hsame

theorem batch_sequential_persons :
    (applyMemoryOperations plainEnv [affectionFor (py "may"), affectionFor (py "lan")] [] (py "s")
        .empty).1.savedCount = 2 ∧
      let r := applyMemoryOperations plainEnv [affectionFor (py "may"), affectionFor (py "lan")] [] (py "s") .empty
      ((r.1.applied, r.1.failed, r.1.savedCount), r.2) =
        oneByOne plainEnv [] (py "s") [affectionFor (py "may"), affectionFor (py "lan")] .empty := by
  have hnone : plainEnv.norm (py "may") ∉ (BatchState.start plainEnv .empty).activeAffections := by
    unfold BatchState.start
    rw [show (collectProfileSnapshot plainEnv .empty).affections = [] from rfl]
    exact List.not_mem_nil
  have hfirst := batchStep_affectionFor (.inl rfl) hnone
  have hcached : plainEnv.norm (py "lan") ∉ (batchStep plainEnv [] (py "s") (affectionFor (py "may"))
      (BatchState.start plainEnv .empty)).activeAffections := by
    rw [hfirst]
    intro hmem
    rcases List.mem_cons.mp hmem with hmem | hmem
    · rw [norm_lan, norm_may] at hmem
      simp at hmem
    · exact absurd hmem List.not_mem_nil
  have hshown : plainEnv.norm (py "lan") ∉ (BatchState.start plainEnv (batchStep plainEnv [] (py "s")
      (affectionFor (py "may")) (BatchState.start plainEnv .empty)).memory).activeAffections := by
    rw [hfirst]
    exact lan_not_shown
  have hcurrent : Current plainEnv [] (py "s") [affectionFor (py "may"), affectionFor (py "lan")]
      (BatchState.start plainEnv .empty) :=
    ⟨fun _ => Iff.rfl, fun _ => iff_of_false hcached hshown, trivial⟩
  refine ⟨?_, batch_sequential _ [] (py "s") .empty hcurrent⟩
  show (batchStep plainEnv [] (py "s") (affectionFor (py "lan")) (batchStep plainEnv [] (py "s")
    (affectionFor (py "may")) (BatchState.start plainEnv .empty))).saved = 2
  rw [batchStep_affectionFor (.inr rfl) hcached, hfirst]
  rfl

end

end Tomtit
