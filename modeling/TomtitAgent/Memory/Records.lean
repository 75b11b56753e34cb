import TomtitAgent.Python.Text
import TomtitAgent.Python.Dict
import TomtitAgent.Python.StrEnum

/-!
# Memory records

`MemoryRecord` and `MemoryQuery` of `memory_records.py`.

* `Time`   an aware `datetime`, in microseconds since the epoch;
* `Weight`   a float that is a number: `importance` and `confidence`, ordered by `Weight.key`;
* `Metadata`   the dictionary of a record.  Any key may hold any value; `Metadata.Texts` says that in a
  record of the user profile the keys that the profile functions read as text hold strings, so that
  reading one (`Metadata.text`) never raises;
* `MemoryRuntime`   Unicode, and `str(v)` of a value, which runs the `__repr__` of its parts.
-/

namespace Tomtit
open Py

inductive MemoryType where
  | note | fact | preference | decision | rule | taskSummary | source | lesson | projectContext
deriving DecidableEq, Repr

def MemoryType.value : MemoryType → PyStr
  | .note => py "note"
  | .fact => py "fact"
  | .preference => py "preference"
  | .decision => py "decision"
  | .rule => py "rule"
  | .taskSummary => py "task_summary"
  | .source => py "source"
  | .lesson => py "lesson"
  | .projectContext => py "project_context"

inductive SourceType where
  | web | memory | tool | user | agent | system | session | workspace | skill
deriving DecidableEq, Repr

abbrev Time := Int

/-- A float that is not NaN. -/
structure Weight where
  float : PyFloat
  number : float.isNan = false

/-- The order of the numbers: the bits below the sign, negated when the sign is set. -/
def Weight.key (x : Weight) : Int :=
  if x.float.negative then -(x.float.bits.toNat % 2^63 : Nat) else x.float.bits.toNat

/-- `0.5` and `1.0`, the defaults of `importance` and `confidence` -/
def weight05 : Weight := ⟨⟨0x3FE0000000000000#64⟩, by decide⟩
def weight1 : Weight := ⟨⟨0x3FF0000000000000#64⟩, by decide⟩

structure MemoryRuntime extends Unicode where
  str : PyVal → PyStr
  str_str : ∀ s, str (.str s) = s

/-! ### metadata -/

/-- `bool(v)`; an object of another class counts as true. -/
def truthy : PyVal → Bool
  | .none => false
  | .bool b => b
  | .int n => n ≠ 0
  | .float x => x.exponent ≠ 0 || x.mantissa ≠ 0
  | .str s => !s.isEmpty
  | .list xs => !xs.isEmpty
  | .tuple xs => !xs.isEmpty
  | .dict kvs => !kvs.isEmpty
  | .enum _ _ true (.str s) => !s.isEmpty
  | .enum _ _ _ _ => true
  | .obj _ _ _ => true

def profileSchemas : List PyStr := [py "user_profile_fact_v1", py "user_profile_fact_v2"]

/-- `md.get(key) == s` -/
def holdsText (md : Dict PyStr PyVal) (key s : PyStr) : Bool := (md.get? key).bind PyVal.asStr = some s

/-- `md.get("profile_schema") in ("user_profile_fact_v1", "user_profile_fact_v2")` -/
def hasProfileSchema (md : Dict PyStr PyVal) : Bool :=
  profileSchemas.any fun s => holdsText md (py "profile_schema") s

/-- The keys whose values the profile functions use as text. -/
def profileTextKeys : List PyStr := [py "value", py "relation_label", py "compared_to"]

structure Metadata where
  dict : Dict PyStr PyVal

namespace Metadata

/-- In a record of the user profile the text keys hold strings. -/
def Texts (md : Metadata) : Prop :=
  hasProfileSchema md.dict = true → ∀ k ∈ profileTextKeys, ∀ v, md.dict.get? k = some v →
    ∃ s, v = .str s

/-- `md.get(key, default)` of a key that holds a string. -/
def text (md : Metadata) (key fallback : PyStr) : PyStr :=
  match md.dict.get? key with
  | some (.str s) => s
  | _ => fallback

def is (md : Metadata) (key s : PyStr) : Bool := holdsText md.dict key s

/-- `md.get("confirmed") and md.get("profile_schema") in (…)` -/
def confirmedProfile (md : Metadata) : Bool :=
  ((md.dict.get? (py "confirmed")).any truthy) && hasProfileSchema md.dict

def value (md : Metadata) : PyStr := md.text (py "value") []

/-- `md["delete_reason"] = reason` -/
def setDeleteReason (md : Metadata) (reason : PyStr) : Metadata :=
  ⟨md.dict.set (py "delete_reason") (.str reason)⟩

theorem Texts.setDeleteReason {md : Metadata} (h : md.Texts) (reason : PyStr) :
    (md.setDeleteReason reason).Texts := by
  have hother : ∀ k, k ≠ py "delete_reason" →
      (md.dict.set (py "delete_reason") (.str reason)).get? k = md.dict.get? k := by
    intro k hk
    rw [Dict.get?_set, if_neg hk]
  intro hs k hk v hv
  have hs' : hasProfileSchema md.dict = true := by
    unfold hasProfileSchema holdsText at hs ⊢
    rw [← hother _ (by simp)]
    exact hs
  have hv' : md.dict.get? k = some v := by
    rw [← hother k]
    · exact hv
    · rintro rfl
      simp [profileTextKeys] at hk
  exact h hs' k hk v hv'

end Metadata

/-! ### records and queries -/

structure MemoryRecord where
  id : PyStr
  content : PyStr
  type : MemoryType
  userId : Option PyStr
  sessionId : Option PyStr
  taskId : Option PyStr
  runId : Option PyStr
  sourceEventId : Option PyStr
  tags : List PyStr
  importance : Weight
  confidence : Weight
  source : SourceType
  createdAt : Time
  updatedAt : Time
  deletedAt : Option Time
  metadata : Metadata

namespace MemoryRecord

def markUpdated (now : Time) (r : MemoryRecord) : MemoryRecord := { r with updatedAt := now }

def markDeleted (now : Time) (r : MemoryRecord) : MemoryRecord :=
  { r with deletedAt := some now, updatedAt := now }

def isDeleted (r : MemoryRecord) : Bool := r.deletedAt.isSome

/-- The key of the ranking: `(importance, updated_at)`. -/
def rank (r : MemoryRecord) : Int ×ₗ Int := toLex (r.importance.key, r.updatedAt)

end MemoryRecord

/-- One item of a patch: an attribute with a value of its type, or a key that an update passes over
(`id`, `created_at`, no attribute). -/
inductive PatchField where
  | content (value : PyStr)
  | type (value : MemoryType)
  | userId (value : Option PyStr)
  | sessionId (value : Option PyStr)
  | taskId (value : Option PyStr)
  | runId (value : Option PyStr)
  | sourceEventId (value : Option PyStr)
  | tags (value : List PyStr)
  | importance (value : Weight)
  | confidence (value : Weight)
  | source (value : SourceType)
  | updatedAt (value : Time)
  | deletedAt (value : Option Time)
  | metadata (value : Dict PyStr PyVal)
  | skipped (key : PyStr)

namespace MemoryRecord

/-- `setattr(record, key, value)`, and `record.metadata.update(dict(value or {}))`. -/
def setField (r : MemoryRecord) : PatchField → MemoryRecord
  | .content v => { r with content := v }
  | .type v => { r with type := v }
  | .userId v => { r with userId := v }
  | .sessionId v => { r with sessionId := v }
  | .taskId v => { r with taskId := v }
  | .runId v => { r with runId := v }
  | .sourceEventId v => { r with sourceEventId := v }
  | .tags v => { r with tags := v }
  | .importance v => { r with importance := v }
  | .confidence v => { r with confidence := v }
  | .source v => { r with source := v }
  | .updatedAt v => { r with updatedAt := v }
  | .deletedAt v => { r with deletedAt := v }
  | .metadata v => { r with metadata := ⟨r.metadata.dict.update v⟩ }
  | .skipped _ => r

def applyPatch (patch : List PatchField) (r : MemoryRecord) : MemoryRecord := patch.foldl setField r

@[simp] theorem applyPatch_id (patch : List PatchField) (r : MemoryRecord) :
    (r.applyPatch patch).id = r.id := by
  induction patch generalizing r with
  | nil => rfl
  | cons f patch ih =>
    refine (ih (r.setField f)).trans ?_
    cases f <;> rfl

end MemoryRecord

structure MemoryQuery where
  text : PyStr
  userId : Option PyStr
  sessionId : Option PyStr
  types : Option (List MemoryType)
  tags : Option (List PyStr)
  includeDeleted : Bool
  limit : Int

end Tomtit
