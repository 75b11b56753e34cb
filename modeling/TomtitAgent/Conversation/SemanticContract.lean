import TomtitAgent.Python.JsonFits
import TomtitAgent.Python.SmallRuntime
import TomtitAgent.Python.JsonLayout
import TomtitAgent.Python.Double
import TomtitAgent.Conversation.ProfileValues
import TomtitAgent.Memory.Records

/-!
# `parse_semantic_operations_json`

The strict contract that the proposals of a language model pass through.  `Contract` is what the
boundary promises: it returns for every text, a structural violation anywhere leaves no operation,
and an operation that it returns is well formed.

* `parseEntry`, `parseEntries`   one entry and the loop, up to the first that is rejected;
* `rejects`, `passes`            what the checks say of an entry;
* `parseEntries_cases`           the loop by these: rejected, raised, or all entries passed;
* `contract_iff`                 the promise is kept exactly when `Admissible`.
-/

namespace Tomtit
open Py

/-- `float(text)`, `none` for the `ValueError`, beside the other facts of the interpreter. -/
structure ContractRuntime extends Runtime, Unicode where
  floatText : PyStr → Option PyFloat

def allowedOps : List PyStr := [py "ADD", py "UPDATE_CURRENT", py "REMOVE", py "NEGATE", py "QUERY",
  py "CORRECT", py "SWITCH", py "REMOVE_PART", py "REMOVE_ALL"]

def allowedDomains : List PyStr := [py "name", py "preference", py "affection", py "relationship",
  py "goal", py "skill"]

def maxOperationsPerUtterance : Nat := 12

/-- `_VALUE_REQUIRED_OPS` -/
def valueRequiredOps : List PyStr := [py "ADD", py "UPDATE_CURRENT", py "REMOVE", py "NEGATE",
  py "CORRECT", py "SWITCH", py "REMOVE_PART"]

/-- A `MemoryOperation` as the parser builds it: the optional fields hold what the entry holds. -/
structure ProposedOperation where
  op : PyStr
  domain : PyStr
  subject : PyStr
  value : PyStr
  canonicalKey : PyStr
  polarity : Json
  relation : Json
  source : PyStr
  confidence : PyFloat

def floatZero : PyFloat := ⟨0⟩

structure SemanticExtractionResult where
  operations : List ProposedOperation
  unsupportedDomains : List PyStr := []
  confidence : PyFloat := floatZero
  source : PyStr := py "llm_semantic_extractor"
  rawJson : Option PyStr := none
  error : Option PyStr := none

/-! ### the builtins that it applies to arbitrary values -/

/-- `d.get(key, fallback)` -/
def getItem (kvs : List (PyStr × Json)) (key : PyStr) (fallback : Json) : Json :=
  (assoc kvs key).getD fallback

/-- `v or fallback` -/
def orElse (v fallback : Json) : Json := if truthy (JsonLoad.toPy v) then v else fallback

/-- The string, if `v in allowed`; a list or a dictionary has no hash. -/
def memberOf (allowed : List PyStr) : Json → Except PyExc (Option PyStr)
  | .arr _ => .error (Py.typeError (py "unhashable type: 'list'"))
  | .obj _ => .error (Py.typeError (py "unhashable type: 'dict'"))
  | .str s => .ok (if s ∈ allowed then some s else none)
  | _ => .ok none

/-- The order of the floats that are numbers: the bits below the sign, negated when it is set. -/
def floatKey (x : PyFloat) : Int :=
  if x.negative then -(x.bits.toNat % 2^63 : Nat) else x.bits.toNat

/-- `x > y` -/
def floatGreater (x y : PyFloat) : Bool := !x.isNan && !y.isNan && floatKey y < floatKey x

/-- `max(confidences, default=0.0)`: the first of the greatest. -/
def maxConfidence : List PyFloat → PyFloat
  | [] => floatZero
  | x :: xs => xs.foldl (fun best x => if floatGreater x best then x else best) x

/-- The iteration over the value of `unsupported_domains`, for its strings. -/
def unsupportedDomains : Json → Except PyExc (List PyStr)
  | .arr xs => .ok (xs.filterMap fun x => match x with
    | .str s => some s
    | _ => none)
  | .obj kvs => .ok (kvs.map Prod.fst)
  | .str s => .ok (s.map fun c => [c])
  | v => .error (Py.typeError (py "'" ++ (JsonLoad.toPy v).typeName ++ py "' object is not iterable"))

section
variable (rt : ContractRuntime)

/-- `float(v)` -/
def ContractRuntime.float (rt : ContractRuntime) : Json → Except PyExc PyFloat
  | .bool b => .ok (if b then ⟨0x3FF0000000000000#64⟩ else floatZero)
  | .int n => floatOfInt n
  | .float x => .ok x
  | .str s => match rt.floatText s with
    | some x => .ok x
    | none => .error (valueError (py "could not convert string to float: " ++ reprStr rt.toRuntime s))
  | v => .error (Py.typeError (py "float() argument must be a string or a real number, not '" ++
      (JsonLoad.toPy v).typeName ++ py "'"))

/-- `str(v)` -/
def ContractRuntime.text (rt : ContractRuntime) (v : Json) : Except PyExc PyStr :=
  strVal rt.toRuntime (JsonLoad.toPy v)

/-! ### one entry -/

inductive EntryResult where
  | reject (error : PyStr)
  | drop (reason : PyStr)
  | keep (op : ProposedOperation)

def confidenceOf (kvs : List (PyStr × Json)) : Json := getItem kvs (py "confidence") (.float floatZero)

def buildOperation (op domain value : PyStr) (kvs : List (PyStr × Json)) :
    Except PyExc ProposedOperation := do
  let canonicalKey ← rt.text
    (orElse (getItem kvs (py "canonical_key") .null) (.str (canonicalizeMemoryValue rt.toUnicode value)))
  let confidence ← rt.float (confidenceOf kvs)
  return {
    op := op
    domain := domain
    subject := if domain = py "relationship" then py "relation" else py "self"
    value := value
    canonicalKey := canonicalKey
    polarity := getItem kvs (py "polarity") .null
    relation := getItem kvs (py "relation") .null
    source := py "llm_semantic_extractor"
    confidence := confidence }

def checkValue (op domain : PyStr) (kvs : List (PyStr × Json)) : Except PyExc EntryResult := do
  let value := strip (← rt.text (orElse (getItem kvs (py "value") .null) (.str [])))
  if op ∈ valueRequiredOps ∧ value = [] then return .drop (py "empty_value")
  else if value ≠ [] ∧ isUnsafeOrSensitiveAutoValue rt.toUnicode value = true then
    return .drop (py "unsafe_value")
  else
    let operation ← buildOperation rt op domain value kvs
    return .keep operation

def parseEntry : Json → Except PyExc EntryResult
  | .obj kvs => do
    match ← memberOf allowedOps (getItem kvs (py "op") (.str [])) with
    | none =>
      let op ← rt.text (getItem kvs (py "op") (.str []))
      return .reject (py "unknown_op:" ++ op)
    | some op =>
      match ← memberOf allowedDomains (getItem kvs (py "domain") (.str [])) with
      | none =>
        let domain ← rt.text (getItem kvs (py "domain") (.str []))
        return .reject (py "unknown_domain:" ++ domain)
      | some domain => checkValue rt op domain kvs
  | _ => .ok (.reject (py "invalid_operation_entry"))

/-! ### the batch -/

/-- How the loop ends: with the error of a rejected entry, or after all of them. -/
inductive Batch where
  | rejected (error : PyStr)
  | parsed (operations : List ProposedOperation) (dropped : List PyStr)

def Batch.add : EntryResult → Batch → Batch
  | .keep op, .parsed operations dropped => .parsed (op :: operations) dropped
  | .drop reason, .parsed operations dropped => .parsed operations (reason :: dropped)
  | _, batch => batch

def parseEntries : List Json → Except PyExc Batch
  | [] => .ok (.parsed [] [])
  | e :: es => do
    match ← parseEntry rt e with
    | .reject error => return .rejected error
    | result =>
      let rest ← parseEntries es
      return .add result rest

def rejectedBatch (raw error : PyStr) : SemanticExtractionResult where
  operations := []
  rawJson := some raw
  error := some error

def dropReasons : List PyStr := [py "empty_value", py "unsafe_value"]

def finishedBatch (raw : PyStr) (operations : List ProposedOperation) (dropped unsupported : List PyStr)
    (confidence : PyFloat) : SemanticExtractionResult where
  operations := operations
  unsupportedDomains := unsupported
  confidence := confidence
  rawJson := some raw
  error := if dropped ≠ [] ∧ operations = [] then
    some (joinWith (py "; ") (dropReasons.filter fun reason => reason ∈ dropped)) else none

def finishBatch (raw : PyStr) (data : List (PyStr × Json)) :
    Batch → Except PyExc SemanticExtractionResult
  | .rejected error => .ok (rejectedBatch raw error)
  | .parsed operations dropped => do
    let unsupported ← unsupportedDomains (getItem data (py "unsupported_domains") (.arr []))
    let confidence ← rt.float (getItem data (py "confidence")
      (.float (maxConfidence (operations.map fun op => op.confidence))))
    return finishedBatch raw operations dropped unsupported confidence

def parseSemanticOperationsJson (raw : PyStr) : Except PyExc SemanticExtractionResult :=
  match Scan.loads rt.toRuntime raw with
  | .error e =>
    if e.isA "JSONDecodeError" || e.isA "TypeError" then .ok (rejectedBatch raw (py "invalid_json"))
    else .error e
  | .ok (.obj data) => match getItem data (py "operations") .null with
    | .arr ops =>
      if maxOperationsPerUtterance < ops.length then
        .ok (rejectedBatch raw (py "too_many_operations"))
      else do
        let batch ← parseEntries rt ops
        finishBatch rt raw data batch
    | _ => .ok (rejectedBatch raw (py "invalid_structure"))
  | .ok _ => .ok (rejectedBatch raw (py "invalid_structure"))

/-! ### the promise -/

def isNumber : Json → Bool
  | .int _ => true
  | .float _ => true
  | _ => false

def isTextOrNull : Json → Bool
  | .str _ => true
  | .null => true
  | _ => false

def isArray : Json → Bool
  | .arr _ => true
  | _ => false

def listed (allowed : List PyStr) : Json → Bool
  | .str s => s ∈ allowed
  | _ => false

/-- The entry is an object with an allowed operation and an allowed domain. -/
def known : Json → Bool
  | .obj kvs => listed allowedOps (getItem kvs (py "op") (.str [])) &&
      listed allowedDomains (getItem kvs (py "domain") (.str []))
  | _ => false

def entryItems : Json → List (PyStr × Json)
  | .obj kvs => kvs
  | _ => []

/-- The text has the structure of the contract at every position. -/
def Structured (raw : PyStr) : Prop :=
  ∃ data ops, Scan.loads rt.toRuntime raw = .ok (.obj data) ∧
    getItem data (py "operations") .null = .arr ops ∧ ops.length ≤ maxOperationsPerUtterance ∧
    (∀ e ∈ ops, known e = true ∧ isNumber (confidenceOf (entryItems e)) = true) ∧
    isArray (getItem data (py "unsupported_domains") (.arr [])) = true ∧
    isNumber (confidenceOf data) = true

structure ProposedOperation.WellFormed (o : ProposedOperation) : Prop where
  op : o.op ∈ allowedOps
  domain : o.domain ∈ allowedDomains
  value : o.op ∈ valueRequiredOps →
    o.value ≠ [] ∧ isUnsafeOrSensitiveAutoValue rt.toUnicode o.value = false
  polarity : isTextOrNull o.polarity = true
  relation : isTextOrNull o.relation = true
  confidence : o.confidence.isFinite = true

/-- The contract for one text. -/
def Contract (raw : PyStr) : Prop :=
  ∃ result, parseSemanticOperationsJson rt raw = .ok result ∧
    (¬ Structured rt raw → result.error ≠ none ∧ result.operations = []) ∧
    ∀ op ∈ result.operations, op.WellFormed rt

/-! ### what the checks say of an entry -/

def hashableItem : Json → Bool
  | .arr _ => false
  | .obj _ => false
  | _ => true

/-- A check rejects the entry. -/
def rejects : Json → Bool
  | .obj kvs =>
    let op := getItem kvs (py "op") (.str [])
    let domain := getItem kvs (py "domain") (.str [])
    (hashableItem op && !listed allowedOps op) ||
      (listed allowedOps op && hashableItem domain && !listed allowedDomains domain)
  | _ => true

def valueText (kvs : List (PyStr × Json)) : PyStr :=
  match rt.text (orElse (getItem kvs (py "value") .null) (.str [])) with
  | .ok t => strip t
  | .error _ => []

def drops (e : Json) : Bool :=
  (listed valueRequiredOps (getItem (entryItems e) (py "op") (.str [])) &&
      valueText rt (entryItems e) = []) ||
    (valueText rt (entryItems e) ≠ [] &&
      isUnsafeOrSensitiveAutoValue rt.toUnicode (valueText rt (entryItems e)))

/-- `float(v)` returns. -/
def convertible (v : Json) : Bool := (rt.float v).toOption.isSome

/-- The entry passes the checks, and the conversion of its confidence if it comes to it. -/
def passes (e : Json) : Bool :=
  known e && (drops rt e || convertible rt (confidenceOf (entryItems e)))

/-- The number is finite and the optional fields are texts. -/
def wellTyped (e : Json) : Bool :=
  let kvs := entryItems e
  (match confidenceOf kvs with
    | .int _ => true
    | .float x => x.isFinite
    | _ => false) &&
  isTextOrNull (getItem kvs (py "polarity") .null) && isTextOrNull (getItem kvs (py "relation") .null)

/-- The condition on the data of a text that is an object with a list of operations: a check rejects
an entry before anything raises, or nothing raises and then either every entry is dropped, or all the
types are right. -/
def AdmissibleData (data : List (PyStr × Json)) (ops : List Json) : Prop :=
  (∃ before e after, ops = before ++ e :: after ∧ (∀ x ∈ before, passes rt x = true) ∧
      rejects e = true) ∨
    ((∀ x ∈ ops, passes rt x = true) ∧
      (unsupportedDomains (getItem data (py "unsupported_domains") (.arr []))).toOption.isSome = true ∧
      convertible rt (confidenceOf data) = true ∧
      ((ops ≠ [] ∧ ∀ x ∈ ops, drops rt x = true) ∨
        (isArray (getItem data (py "unsupported_domains") (.arr [])) = true ∧
          isNumber (confidenceOf data) = true ∧
          ∀ x ∈ ops, if drops rt x then isNumber (confidenceOf (entryItems x)) = true
            else wellTyped x = true)))

def Admissible (raw : PyStr) : Prop :=
  Scan.loads rt.toRuntime raw ≠ .error intLiteralTooLong ∧
    ∀ data ops, Scan.loads rt.toRuntime raw = .ok (.obj data) →
      getItem data (py "operations") .null = .arr ops → ops.length ≤ maxOperationsPerUtterance →
      AdmissibleData rt data ops

/-! ### one entry -/

variable {rt}

theorem text_ok {v : Json} (h : v.intsFit rt.toRuntime = true) : ∃ t, rt.text v = .ok t :=
  strVal_toPy rt.toRuntime h

theorem intsFit_getItem {kvs : List (PyStr × Json)} (h : (Json.obj kvs).intsFit rt.toRuntime = true)
    (key : PyStr) {fallback : Json} (hf : fallback.intsFit rt.toRuntime = true) :
    (getItem kvs key fallback).intsFit rt.toRuntime = true := by
  unfold getItem
  cases e : assoc kvs key with
  | none => exact hf
  | some v =>
    rw [Json.intsFit, Json.intsFitItems_iff] at h
    exact h _ (assoc_mem e)

theorem intsFit_orElse {v fallback : Json} (h : v.intsFit rt.toRuntime = true)
    (hf : fallback.intsFit rt.toRuntime = true) : (orElse v fallback).intsFit rt.toRuntime = true := by
  unfold orElse
  split_ifs
  · exact h
  · exact hf

theorem memberOf_listed {allowed : List PyStr} {v : Json} (h : listed allowed v = true) :
    ∃ s, v = .str s ∧ s ∈ allowed ∧ memberOf allowed v = .ok (some s) := by
  cases v with
  | str s =>
    have hs : s ∈ allowed := of_decide_eq_true h
    refine ⟨s, rfl, hs, ?_⟩
    show Except.ok (if s ∈ allowed then some s else none) = _
    rw [if_pos hs]
  | _ => exact absurd h Bool.false_ne_true

theorem memberOf_unlisted {allowed : List PyStr} {v : Json} (hh : hashableItem v = true)
    (h : listed allowed v = false) : memberOf allowed v = .ok none := by
  cases v with
  | str s =>
    show Except.ok (if s ∈ allowed then some s else none) = _
    rw [if_neg (of_decide_eq_false h)]
  | arr xs => exact absurd hh Bool.false_ne_true
  | obj kvs => exact absurd hh Bool.false_ne_true
  | _ => rfl

theorem memberOf_unhashable {allowed : List PyStr} {v : Json} (hh : hashableItem v = false) :
    ∃ x, memberOf allowed v = .error x := by
  cases v with
  | arr xs => exact ⟨_, rfl⟩
  | obj kvs => exact ⟨_, rfl⟩
  | _ => exact absurd hh (by simp [hashableItem])

theorem parseEntry_rejects {e : Json} (hfits : e.intsFit rt.toRuntime = true)
    (h : rejects e = true) : ∃ t, parseEntry rt e = .ok (.reject t) := by
  cases e with
  | obj kvs =>
    have hop := @intsFit_getItem rt kvs hfits (py "op") (.str []) rfl
    have hdomain := @intsFit_getItem rt kvs hfits (py "domain") (.str []) rfl
    unfold rejects at h
    rw [parseEntry]
    rcases Bool.or_eq_true_iff.mp h with h | h
    · obtain ⟨hh, hl⟩ := Bool.and_eq_true_iff.mp h
      obtain ⟨t, ht⟩ := text_ok hop
      rw [memberOf_unlisted hh ((Bool.not_eq_true' _).mp hl)]
      refine ⟨py "unknown_op:" ++ t, ?_⟩
      show (rt.text _ >>= _) = _
      rw [ht]
      rfl
    · obtain ⟨h, hl⟩ := Bool.and_eq_true_iff.mp h
      obtain ⟨hop', hh⟩ := Bool.and_eq_true_iff.mp h
      obtain ⟨op, -, -, hmember⟩ := memberOf_listed hop'
      obtain ⟨t, ht⟩ := text_ok hdomain
      rw [hmember]
      refine ⟨py "unknown_domain:" ++ t, ?_⟩
      show (memberOf allowedDomains _ >>= _) = _
      rw [memberOf_unlisted hh ((Bool.not_eq_true' _).mp hl)]
      show (rt.text _ >>= _) = _
      rw [ht]
      rfl
  | _ => exact ⟨_, rfl⟩

theorem parseEntry_known {e : Json} (h : known e = true) :
    ∃ op domain, getItem (entryItems e) (py "op") (.str []) = .str op ∧ op ∈ allowedOps ∧
      domain ∈ allowedDomains ∧ parseEntry rt e = checkValue rt op domain (entryItems e) := by
  cases e with
  | obj kvs =>
    obtain ⟨hop, hdomain⟩ := Bool.and_eq_true_iff.mp h
    obtain ⟨op, hget, hmem, hmember⟩ := memberOf_listed hop
    obtain ⟨domain, -, hmem', hmember'⟩ := memberOf_listed hdomain
    refine ⟨op, domain, hget, hmem, hmem', ?_⟩
    rw [parseEntry, hmember]
    show (memberOf allowedDomains _ >>= _) = _
    rw [hmember']
    rfl
  | _ => exact absurd h Bool.false_ne_true

theorem parseEntry_unhashable {e : Json} (hr : rejects e = false) (hk : known e = false) :
    ∃ x, parseEntry rt e = .error x := by
  cases e with
  | obj kvs =>
    unfold rejects at hr
    change (listed allowedOps (getItem kvs (py "op") (.str [])) &&
      listed allowedDomains (getItem kvs (py "domain") (.str []))) = false at hk
    rw [Bool.or_eq_false_iff] at hr
    rw [parseEntry]
    cases hh : hashableItem (getItem kvs (py "op") (.str [])) with
    | false =>
      obtain ⟨x, hx⟩ := @memberOf_unhashable allowedOps _ hh
      rw [hx]
      exact ⟨x, rfl⟩
    | true =>
      have hop : listed allowedOps (getItem kvs (py "op") (.str [])) = true := by
        have h := hr.1
        rw [hh, Bool.true_and, Bool.not_eq_false'] at h
        exact h
      obtain ⟨op, -, -, hmember⟩ := memberOf_listed hop
      rw [hop, Bool.true_and] at hk
      have hdomain : hashableItem (getItem kvs (py "domain") (.str [])) = false := by
        have h := hr.2
        rw [hop, hk, Bool.true_and, Bool.not_false, Bool.and_true] at h
        exact h
      obtain ⟨x, hx⟩ := @memberOf_unhashable allowedDomains _ hdomain
      rw [hmember]
      refine ⟨x, ?_⟩
      show (memberOf allowedDomains _ >>= _) = _
      rw [hx]
      rfl
  | _ => exact absurd hr (by simp [rejects])

structure Keeps (rt : ContractRuntime) (e : Json) (o : ProposedOperation) : Prop where
  entry : getItem (entryItems e) (py "op") (.str []) = .str o.op
  op : o.op ∈ allowedOps
  domain : o.domain ∈ allowedDomains
  value : o.value = valueText rt (entryItems e)
  polarity : o.polarity = getItem (entryItems e) (py "polarity") .null
  relation : o.relation = getItem (entryItems e) (py "relation") .null
  confidence : rt.float (confidenceOf (entryItems e)) = .ok o.confidence

def builtOperation (op domain value key : PyStr) (kvs : List (PyStr × Json)) (x : PyFloat) :
    ProposedOperation where
  op := op
  domain := domain
  subject := if domain = py "relationship" then py "relation" else py "self"
  value := value
  canonicalKey := key
  polarity := getItem kvs (py "polarity") .null
  relation := getItem kvs (py "relation") .null
  source := py "llm_semantic_extractor"
  confidence := x

theorem buildOperation_eq {op domain value key : PyStr} {kvs : List (PyStr × Json)}
    (hkey : rt.text (orElse (getItem kvs (py "canonical_key") .null)
      (.str (canonicalizeMemoryValue rt.toUnicode value))) = .ok key) :
    buildOperation rt op domain value kvs =
      (rt.float (confidenceOf kvs)).map (builtOperation op domain value key kvs) := by
  unfold buildOperation
  rw [hkey]
  cases rt.float (confidenceOf kvs) with
  | ok x => rfl
  | error x => rfl

theorem parseEntry_value {e : Json} (hfits : e.intsFit rt.toRuntime = true) (hk : known e = true) :
    (drops rt e = true → ∃ reason, parseEntry rt e = .ok (.drop reason)) ∧
    (drops rt e = false → convertible rt (confidenceOf (entryItems e)) = true →
      ∃ o, parseEntry rt e = .ok (.keep o) ∧ Keeps rt e o) ∧
    (drops rt e = false → convertible rt (confidenceOf (entryItems e)) = false →
      ∃ x, parseEntry rt e = .error x) := by
  obtain ⟨op, domain, hget, hop, hdomain, hparse⟩ := @parseEntry_known rt e hk
  cases e with
  | obj kvs =>
    change getItem kvs (py "op") (.str []) = .str op at hget
    obtain ⟨t, ht⟩ := text_ok (@intsFit_orElse rt _ (.str [])
      (@intsFit_getItem rt kvs hfits (py "value") .null rfl) rfl)
    obtain ⟨key, hkey⟩ := text_ok (@intsFit_orElse rt _
      (.str (canonicalizeMemoryValue rt.toUnicode (strip t)))
      (@intsFit_getItem rt kvs hfits (py "canonical_key") .null rfl) rfl)
    have hvalue : valueText rt kvs = strip t := by
      unfold valueText
      rw [ht]
    have hdrops : drops rt (.obj kvs) = true ↔ (op ∈ valueRequiredOps ∧ strip t = []) ∨
        (strip t ≠ [] ∧ isUnsafeOrSensitiveAutoValue rt.toUnicode (strip t) = true) := by
      unfold drops entryItems
      rw [hget, hvalue]
      simp [listed]
    have hcheck : parseEntry rt (.obj kvs) =
        if op ∈ valueRequiredOps ∧ strip t = [] then .ok (.drop (py "empty_value"))
        else if strip t ≠ [] ∧ isUnsafeOrSensitiveAutoValue rt.toUnicode (strip t) = true then
          .ok (.drop (py "unsafe_value"))
        else buildOperation rt op domain (strip t) kvs >>= fun o => .ok (.keep o) := by
      rw [hparse]
      unfold checkValue entryItems
      rw [ht]
      rfl
    rw [hcheck]
    refine ⟨fun hd => ?_, fun hd hc => ?_, fun hd hc => ?_⟩
    · by_cases hempty : op ∈ valueRequiredOps ∧ strip t = []
      · rw [if_pos hempty]
        exact ⟨_, rfl⟩
      · rw [if_neg hempty, if_pos ((hdrops.mp hd).resolve_left hempty)]
        exact ⟨_, rfl⟩
    · have hnot := (not_congr hdrops).mp (by rw [hd]; exact Bool.false_ne_true)
      rw [not_or] at hnot
      rw [if_neg hnot.1, if_neg hnot.2, buildOperation_eq hkey]
      change (rt.float (confidenceOf kvs)).toOption.isSome = true at hc
      cases e : rt.float (confidenceOf kvs) with
      | error x =>
        rw [e] at hc
        exact absurd hc (by simp [Except.toOption])
      | ok x =>
        exact ⟨builtOperation op domain (strip t) key kvs x, rfl, hget, hop, hdomain, hvalue.symm, rfl,
          rfl, e⟩
    · have hnot := (not_congr hdrops).mp (by rw [hd]; exact Bool.false_ne_true)
      rw [not_or] at hnot
      rw [if_neg hnot.1, if_neg hnot.2, buildOperation_eq hkey]
      change (rt.float (confidenceOf kvs)).toOption.isSome = false at hc
      cases e : rt.float (confidenceOf kvs) with
      | ok x =>
        rw [e] at hc
        exact absurd hc (by simp [Except.toOption])
      | error x => exact ⟨x, rfl⟩
  | _ => exact absurd hk Bool.false_ne_true

theorem not_passes_of_rejects {e : Json} (h : rejects e = true) : passes rt e = false := by
  cases e with
  | obj kvs =>
    have hk : known (.obj kvs) = false := by
      unfold rejects at h
      show (listed allowedOps (getItem kvs (py "op") (.str [])) &&
        listed allowedDomains (getItem kvs (py "domain") (.str []))) = false
      rcases Bool.or_eq_true_iff.mp h with h | h
      · rw [(Bool.not_eq_true' _).mp (Bool.and_eq_true_iff.mp h).2, Bool.false_and]
      · rw [(Bool.not_eq_true' _).mp (Bool.and_eq_true_iff.mp h).2, Bool.and_false]
    unfold passes
    rw [hk, Bool.false_and]
  | _ => rfl

theorem wellTyped_iff {e : Json} {o : ProposedOperation} (h : Keeps rt e o)
    (hd : drops rt e = false) :
    wellTyped e = true ↔ isNumber (confidenceOf (entryItems e)) = true ∧ o.WellFormed rt := by
  have hvalue : o.op ∈ valueRequiredOps →
      o.value ≠ [] ∧ isUnsafeOrSensitiveAutoValue rt.toUnicode o.value = false := by
    intro hop
    unfold drops at hd
    rw [h.entry, ← h.value, Bool.or_eq_false_iff] at hd
    have hne : o.value ≠ [] := by
      intro hnil
      have h1 := hd.1
      rw [hnil] at h1
      simp [listed, hop] at h1
    have h2 := hd.2
    rw [decide_eq_true hne, Bool.true_and] at h2
    exact ⟨hne, h2⟩
  have hconfidence := h.confidence
  unfold wellTyped
  dsimp only
  rw [Bool.and_eq_true, Bool.and_eq_true, ← h.polarity, ← h.relation]
  constructor
  · rintro ⟨⟨hc, hp⟩, hr⟩
    cases e : confidenceOf (entryItems e) with
    | int n =>
      rw [e] at hconfidence
      exact ⟨rfl, h.op, h.domain, hvalue, hp, hr, floatOfInt_finite hconfidence⟩
    | float x =>
      rw [e] at hc hconfidence
      rw [Except.ok.inj hconfidence] at hc
      exact ⟨rfl, h.op, h.domain, hvalue, hp, hr, hc⟩
    | _ =>
      rw [e] at hc
      exact absurd hc Bool.false_ne_true
  · rintro ⟨hn, hw⟩
    refine ⟨⟨?_, hw.polarity⟩, hw.relation⟩
    cases e : confidenceOf (entryItems e) with
    | int n => rfl
    | float x =>
      rw [e] at hconfidence
      rw [Except.ok.inj hconfidence]
      exact hw.confidence
    | _ =>
      rw [e] at hn
      exact absurd hn Bool.false_ne_true

/-! ### the loop -/

theorem parseEntries_cons {e : Json} {es : List Json} {result : EntryResult}
    (h : parseEntry rt e = .ok result) (hr : ∀ t, result ≠ .reject t) :
    parseEntries rt (e :: es) = (parseEntries rt es).map (.add result) := by
  rw [parseEntries, h]
  cases result with
  | reject t => exact absurd rfl (hr t)
  | drop reason => cases parseEntries rt es <;> rfl
  | keep o => cases parseEntries rt es <;> rfl

theorem parseEntry_passes {e : Json} (hfits : e.intsFit rt.toRuntime = true)
    (h : passes rt e = true) :
    (drops rt e = true ∧ ∃ reason, parseEntry rt e = .ok (.drop reason)) ∨
      (drops rt e = false ∧ ∃ o, parseEntry rt e = .ok (.keep o) ∧ Keeps rt e o) := by
  obtain ⟨hk, hc⟩ := Bool.and_eq_true_iff.mp h
  obtain ⟨hdrop, hkeep, -⟩ := parseEntry_value hfits hk
  cases hd : drops rt e with
  | true => exact .inl ⟨rfl, hdrop hd⟩
  | false =>
    rw [hd, Bool.false_or] at hc
    exact .inr ⟨rfl, hkeep hd hc⟩

theorem parseEntries_append {before rest : List Json}
    (hfits : ∀ x ∈ before, x.intsFit rt.toRuntime = true) (h : ∀ x ∈ before, passes rt x = true) :
    (∀ t, parseEntries rt rest = .ok (.rejected t) →
      parseEntries rt (before ++ rest) = .ok (.rejected t)) ∧
    (∀ x, parseEntries rt rest = .error x → parseEntries rt (before ++ rest) = .error x) := by
  induction before with
  | nil => exact ⟨fun _ h => h, fun _ h => h⟩
  | cons e before ih =>
    obtain ⟨ih1, ih2⟩ := ih (fun x hx => hfits x (List.mem_cons_of_mem e hx))
      fun x hx => h x (List.mem_cons_of_mem e hx)
    have hstep : ∃ result, parseEntries rt (e :: (before ++ rest)) =
        (parseEntries rt (before ++ rest)).map (.add result) := by
      rcases parseEntry_passes (hfits e List.mem_cons_self) (h e List.mem_cons_self) with
        ⟨-, reason, hp⟩ | ⟨-, o, hp, -⟩
      · exact ⟨_, parseEntries_cons hp fun _ => by simp⟩
      · exact ⟨_, parseEntries_cons hp fun _ => by simp⟩
    obtain ⟨result, hstep⟩ := hstep
    rw [List.cons_append, hstep]
    refine ⟨fun t ht => ?_, fun x hx => ?_⟩
    · rw [ih1 t ht]
      cases result <;> rfl
    · rw [ih2 x hx]
      rfl

theorem parseEntries_passes {ops : List Json} (hfits : ∀ x ∈ ops, x.intsFit rt.toRuntime = true)
    (h : ∀ x ∈ ops, passes rt x = true) :
    ∃ operations dropped, parseEntries rt ops = .ok (.parsed operations dropped) ∧
      (∀ o ∈ operations, ∃ e ∈ ops, drops rt e = false ∧ Keeps rt e o) ∧
      (∀ e ∈ ops, drops rt e = false → ∃ o ∈ operations, Keeps rt e o) ∧
      (dropped ≠ [] ↔ ∃ e ∈ ops, drops rt e = true) := by
  induction ops with
  | nil =>
    refine ⟨[], [], rfl, fun _ h => absurd h List.not_mem_nil, fun _ h => absurd h List.not_mem_nil, ?_⟩
    exact iff_of_false (not_not.mpr rfl) fun ⟨_, h, _⟩ => List.not_mem_nil h
  | cons e es ih =>
    obtain ⟨operations, dropped, hloop, hsound, hcomplete, hdropped⟩ :=
      ih (fun x hx => hfits x (List.mem_cons_of_mem e hx)) fun x hx => h x (List.mem_cons_of_mem e hx)
    rcases parseEntry_passes (hfits e List.mem_cons_self) (h e List.mem_cons_self) with
      ⟨hd, reason, hp⟩ | ⟨hd, o, hp, hk⟩
    · refine ⟨operations, reason :: dropped, ?_, fun o ho => ?_, fun x hx hdx => ?_, ?_⟩
      · rw [parseEntries_cons hp fun _ => by simp, hloop]
        rfl
      · obtain ⟨x, hx, hx'⟩ := hsound o ho
        exact ⟨x, List.mem_cons_of_mem e hx, hx'⟩
      · rcases List.mem_cons.mp hx with rfl | hx
        · rw [hd] at hdx
          exact absurd hdx (by simp)
        · exact hcomplete x hx hdx
      · exact iff_of_true (List.cons_ne_nil _ _) ⟨e, List.mem_cons_self, hd⟩
    · refine ⟨o :: operations, dropped, ?_, fun o' ho => ?_, fun x hx hdx => ?_, ?_⟩
      · rw [parseEntries_cons hp fun _ => by simp, hloop]
        rfl
      · rcases List.mem_cons.mp ho with rfl | ho
        · exact ⟨e, List.mem_cons_self, hd, hk⟩
        · obtain ⟨x, hx, hx'⟩ := hsound o' ho
          exact ⟨x, List.mem_cons_of_mem e hx, hx'⟩
      · rcases List.mem_cons.mp hx with rfl | hx
        · exact ⟨o, List.mem_cons_self, hk⟩
        · obtain ⟨o', ho', hk'⟩ := hcomplete x hx hdx
          exact ⟨o', List.mem_cons_of_mem o ho', hk'⟩
      · rw [hdropped, List.exists_mem_cons_iff, hd]
        simp

theorem parseEntry_raises {e : Json} (hfits : e.intsFit rt.toRuntime = true)
    (hr : rejects e = false) (hp : passes rt e = false) : ∃ x, parseEntry rt e = .error x := by
  cases hk : known e with
  | false => exact parseEntry_unhashable hr hk
  | true =>
    unfold passes at hp
    rw [hk, Bool.true_and, Bool.or_eq_false_iff] at hp
    exact (parseEntry_value hfits hk).2.2 hp.1 hp.2

theorem exists_first {P : Json → Bool} (xs : List Json) :
    (∀ x ∈ xs, P x = true) ∨
      ∃ before e after, xs = before ++ e :: after ∧ (∀ x ∈ before, P x = true) ∧ P e = false := by
  induction xs with
  | nil => exact .inl fun _ h => absurd h List.not_mem_nil
  | cons x xs ih =>
    cases hx : P x with
    | false => exact .inr ⟨[], x, xs, rfl, fun _ h => absurd h List.not_mem_nil, hx⟩
    | true =>
      rcases ih with h | ⟨before, e, after, rfl, h, he⟩
      · exact .inl (List.forall_mem_cons.mpr ⟨hx, h⟩)
      · exact .inr ⟨x :: before, e, after, rfl, List.forall_mem_cons.mpr ⟨hx, h⟩, he⟩

theorem first_unique {P : Json → Bool} {before before' after after' : List Json} {e e' : Json}
    (h : before ++ e :: after = before' ++ e' :: after') (hb : ∀ x ∈ before, P x = true)
    (he : P e = false) (hb' : ∀ x ∈ before', P x = true) (he' : P e' = false) : e = e' := by
  induction before generalizing before' with
  | nil =>
    cases before' with
    | nil => exact (List.cons.inj h).1
    | cons x before' =>
      have hx := hb' x List.mem_cons_self
      rw [← (List.cons.inj h).1, he] at hx
      exact absurd hx Bool.false_ne_true
  | cons x before ih =>
    cases before' with
    | nil =>
      have hx := hb x List.mem_cons_self
      rw [(List.cons.inj h).1, he'] at hx
      exact absurd hx Bool.false_ne_true
    | cons y before' =>
      exact ih (List.cons.inj h).2 (fun z hz => hb z (List.mem_cons_of_mem x hz))
        fun z hz => hb' z (List.mem_cons_of_mem y hz)

/-! ### the whole text -/

theorem contract_of_rejected {raw t : PyStr}
    (h : parseSemanticOperationsJson rt raw = .ok (rejectedBatch raw t)) : Contract rt raw :=
  ⟨_, h, fun _ => ⟨by simp [rejectedBatch], rfl⟩, fun _ ho => absurd ho List.not_mem_nil⟩

theorem not_contract_of_raised {raw : PyStr} {x : PyExc}
    (h : parseSemanticOperationsJson rt raw = .error x) : ¬ Contract rt raw := by
  rintro ⟨result, hr, -⟩
  rw [h] at hr
  exact absurd hr (by simp)

theorem float_default (data : List (PyStr × Json)) (x : PyFloat) :
    (rt.float (getItem data (py "confidence") (.float x))).toOption.isSome =
      convertible rt (confidenceOf data) := by
  unfold convertible confidenceOf getItem
  cases assoc data (py "confidence") with
  | none => rfl
  | some v => rfl

section
variable {raw : PyStr} {data : List (PyStr × Json)} {ops : List Json}
  (hloads : Scan.loads rt.toRuntime raw = .ok (.obj data))
  (hops : getItem data (py "operations") .null = .arr ops)
include hloads hops

theorem ops_fit : ∀ x ∈ ops, x.intsFit rt.toRuntime = true := by
  have h := @intsFit_getItem rt _ (Scan.loads_intsFit rt.toRuntime hloads) (py "operations")
    .null rfl
  rw [hops, Json.intsFit, Json.intsFitList_iff] at h
  exact h

variable (hlength : ops.length ≤ maxOperationsPerUtterance)
include hlength

theorem parse_eq : parseSemanticOperationsJson rt raw =
    parseEntries rt ops >>= finishBatch rt raw data := by
  unfold parseSemanticOperationsJson
  rw [hloads]
  dsimp only
  rw [hops]
  dsimp only
  rw [if_neg (Nat.not_lt.mpr hlength)]

theorem structured_iff (h : ∀ x ∈ ops, passes rt x = true) :
    Structured rt raw ↔ (∀ e ∈ ops, isNumber (confidenceOf (entryItems e)) = true) ∧
      isArray (getItem data (py "unsupported_domains") (.arr [])) = true ∧
      isNumber (confidenceOf data) = true := by
  constructor
  · rintro ⟨data', ops', hl, ho, -, he, hu, hc⟩
    obtain rfl : data = data' := Json.obj.inj (Except.ok.inj (hloads.symm.trans hl))
    obtain rfl : ops = ops' := Json.arr.inj (hops.symm.trans ho)
    exact ⟨fun e hmem => (he e hmem).2, hu, hc⟩
  · rintro ⟨he, hu, hc⟩
    refine ⟨data, ops, hloads, hops, hlength, fun e hmem => ⟨?_, he e hmem⟩, hu, hc⟩
    exact (Bool.and_eq_true_iff.mp (h e hmem)).1

theorem contract_passes_iff (h : ∀ x ∈ ops, passes rt x = true) :
    Contract rt raw ↔
      (unsupportedDomains (getItem data (py "unsupported_domains") (.arr []))).toOption.isSome = true ∧
      convertible rt (confidenceOf data) = true ∧
      ((ops ≠ [] ∧ ∀ x ∈ ops, drops rt x = true) ∨
        (isArray (getItem data (py "unsupported_domains") (.arr [])) = true ∧
          isNumber (confidenceOf data) = true ∧
          ∀ x ∈ ops, if drops rt x then isNumber (confidenceOf (entryItems x)) = true
            else wellTyped x = true)) := by
  obtain ⟨operations, dropped, hloop, hsound, hcomplete, hdropped⟩ :=
    parseEntries_passes (ops_fit hloads hops) h
  have hparse : parseSemanticOperationsJson rt raw =
      finishBatch rt raw data (.parsed operations dropped) := by
    rw [parse_eq hloads hops hlength, hloop]
    rfl
  have hall : (dropped ≠ [] ∧ operations = []) ↔ ops ≠ [] ∧ ∀ x ∈ ops, drops rt x = true := by
    rw [hdropped]
    constructor
    · rintro ⟨⟨e, he, -⟩, hnil⟩
      refine ⟨List.ne_nil_of_mem he, fun x hx => ?_⟩
      by_contra hd
      obtain ⟨o, ho, -⟩ := hcomplete x hx (eq_false_of_ne_true hd)
      rw [hnil] at ho
      exact absurd ho List.not_mem_nil
    · rintro ⟨hne, hd⟩
      obtain ⟨e, he⟩ := List.exists_mem_of_ne_nil ops hne
      refine ⟨⟨e, he, hd e he⟩, List.eq_nil_iff_forall_not_mem.mpr fun o ho => ?_⟩
      obtain ⟨x, hx, hdx, -⟩ := hsound o ho
      rw [hd x hx] at hdx
      exact absurd hdx (by simp)
  have hfloat := @float_default rt data (maxConfidence (operations.map fun op => op.confidence))
  unfold finishBatch at hparse
  cases hu : unsupportedDomains (getItem data (py "unsupported_domains") (.arr [])) with
  | error x =>
    rw [hu] at hparse
    exact iff_of_false (not_contract_of_raised hparse) fun h => absurd h.1 (by simp [Except.toOption])
  | ok unsupported =>
    rw [hu] at hparse
    cases hc : rt.float (getItem data (py "confidence")
        (.float (maxConfidence (operations.map fun op => op.confidence)))) with
    | error x =>
      rw [hc] at hfloat
      have hraise : parseSemanticOperationsJson rt raw = .error x := by
        rw [hparse]
        show (rt.float _ >>= _) = _
        rw [hc]
        rfl
      refine iff_of_false (not_contract_of_raised hraise) fun h => ?_
      rw [← hfloat] at h
      exact absurd h.2.1 (by simp [Except.toOption])
    | ok confidence =>
      rw [hc] at hfloat
      have hr : parseSemanticOperationsJson rt raw =
          .ok (finishedBatch raw operations dropped unsupported confidence) := by
        rw [hparse]
        show (rt.float _ >>= _) = _
        rw [hc]
        rfl
      have herror : (finishedBatch raw operations dropped unsupported confidence).error ≠ none ↔
          dropped ≠ [] ∧ operations = [] := by
        unfold finishedBatch
        dsimp only
        split_ifs with hif
        · exact iff_of_true (by simp) hif
        · exact iff_of_false (by simp) hif
      have hcontract : Contract rt raw ↔
          (¬ Structured rt raw → (ops ≠ [] ∧ ∀ x ∈ ops, drops rt x = true)) ∧
            ∀ o ∈ operations, o.WellFormed rt := by
        constructor
        · rintro ⟨result', hr', hviolation, hwf⟩
          obtain rfl := Except.ok.inj (hr.symm.trans hr')
          exact ⟨fun hs => hall.mp (herror.mp (hviolation hs).1), hwf⟩
        · rintro ⟨hviolation, hwf⟩
          refine ⟨_, hr, fun hs => ?_, hwf⟩
          have hdrop := hall.mpr (hviolation hs)
          exact ⟨herror.mpr hdrop, hdrop.2⟩
      rw [hcontract, structured_iff hloads hops hlength h]
      rw [← hfloat]
      constructor
      · rintro ⟨hviolation, hwf⟩
        refine ⟨rfl, rfl, ?_⟩
        by_cases hdrop : ops ≠ [] ∧ ∀ x ∈ ops, drops rt x = true
        · exact .inl hdrop
        · obtain ⟨he, hu', hc'⟩ := not_not.mp fun hs => hdrop (hviolation hs)
          refine .inr ⟨hu', hc', fun x hx => ?_⟩
          split_ifs with hd
          · exact he x hx
          · obtain ⟨o, ho, hk⟩ := hcomplete x hx (eq_false_of_ne_true hd)
            exact (wellTyped_iff hk (eq_false_of_ne_true hd)).mpr ⟨he x hx, hwf o ho⟩
      · rintro ⟨-, -, hdrop | ⟨hu', hc', he⟩⟩
        · refine ⟨fun _ => hdrop, fun o ho => ?_⟩
          rw [(hall.mpr hdrop).2] at ho
          exact absurd ho List.not_mem_nil
        · have hkept : ∀ x ∈ ops, ∀ o, drops rt x = false → Keeps rt x o →
              isNumber (confidenceOf (entryItems x)) = true ∧ o.WellFormed rt := by
            intro x hx o hd hk
            have hx' := he x hx
            rw [hd, if_neg Bool.false_ne_true] at hx'
            exact (wellTyped_iff hk hd).mp hx'
          refine ⟨fun hs => (hs ⟨fun x hx => ?_, hu', hc'⟩).elim, fun o ho => ?_⟩
          · cases hd : drops rt x with
            | true =>
              have hx' := he x hx
              rw [hd, if_pos rfl] at hx'
              exact hx'
            | false =>
              obtain ⟨o, -, hk⟩ := hcomplete x hx hd
              exact (hkept x hx o hd hk).1
          · obtain ⟨x, hx, hd, hk⟩ := hsound o ho
            exact (hkept x hx o hd hk).2

theorem contract_data_iff : Contract rt raw ↔ AdmissibleData rt data ops := by
  have hfits := ops_fit hloads hops
  rcases exists_first (P := passes rt) ops with h | ⟨before, e, after, hsplit, hbefore, he⟩
  · rw [contract_passes_iff hloads hops hlength h]
    unfold AdmissibleData
    constructor
    · exact fun ⟨h1, h2, h3⟩ => .inr ⟨h, h1, h2, h3⟩
    · rintro (⟨before, e, after, rfl, -, he⟩ | ⟨-, h1, h2, h3⟩)
      · have hpass := h e (List.mem_append_right before List.mem_cons_self)
        rw [not_passes_of_rejects he] at hpass
        exact absurd hpass Bool.false_ne_true
      · exact ⟨h1, h2, h3⟩
  · have hfit := hfits e (hsplit ▸ List.mem_append_right before List.mem_cons_self)
    obtain ⟨hrejected, hraised⟩ := @parseEntries_append rt before (e :: after)
      (fun x hx => hfits x (hsplit ▸ List.mem_append_left _ hx)) hbefore
    rw [← hsplit] at hrejected hraised
    cases hr : rejects e with
    | true =>
      obtain ⟨t, ht⟩ := parseEntry_rejects hfit hr
      have hloop : parseEntries rt (e :: after) = .ok (.rejected t) := by
        rw [parseEntries, ht]
        rfl
      refine iff_of_true (contract_of_rejected (t := t) ?_) (.inl ⟨before, e, after, hsplit, hbefore, hr⟩)
      rw [parse_eq hloads hops hlength, hrejected t hloop]
      rfl
    | false =>
      obtain ⟨x, hx⟩ := parseEntry_raises hfit hr he
      have hloop : parseEntries rt (e :: after) = .error x := by
        rw [parseEntries, hx]
        rfl
      have hparse : parseSemanticOperationsJson rt raw = .error x := by
        rw [parse_eq hloads hops hlength, hraised x hloop]
        rfl
      refine iff_of_false (not_contract_of_raised hparse) ?_
      rintro (⟨before', e', after', hsplit', hbefore', he'⟩ | ⟨h, -⟩)
      · have hsame := first_unique (hsplit.symm.trans hsplit') hbefore he hbefore'
          (not_passes_of_rejects he')
        rw [hsame, he'] at hr
        exact absurd hr (by simp)
      · have hpass := h e (hsplit ▸ List.mem_append_right before List.mem_cons_self)
        rw [he] at hpass
        exact absurd hpass Bool.false_ne_true

end

/-- The parser keeps the contract exactly for the admissible texts. -/
theorem contract_iff (rt : ContractRuntime) (raw : PyStr) : Contract rt raw ↔ Admissible rt raw := by
  unfold Admissible
  cases hloads : Scan.loads rt.toRuntime raw with
  | error x =>
    have hparse : parseSemanticOperationsJson rt raw =
        if x.isA "JSONDecodeError" || x.isA "TypeError" then
          .ok (rejectedBatch raw (py "invalid_json")) else .error x := by
      unfold parseSemanticOperationsJson
      rw [hloads]
    rcases Scan.loads_errors rt.toRuntime raw x hloads with rfl | rfl
    · refine iff_of_true (contract_of_rejected hparse) ⟨?_, fun _ _ h => absurd h (by simp)⟩
      simp [jsonDecodeError, intLiteralTooLong, valueError]
    · exact iff_of_false (not_contract_of_raised hparse) fun h => h.1 rfl
  | ok j =>
    have hother : (∀ data ops, j = .obj data → getItem data (py "operations") .null ≠ .arr ops) →
        Contract rt raw := by
      intro hj
      refine contract_of_rejected (t := py "invalid_structure") ?_
      unfold parseSemanticOperationsJson
      rw [hloads]
      cases j with
      | obj data =>
        dsimp only
        cases hops : getItem data (py "operations") .null with
        | arr ops => exact absurd hops (hj data ops rfl)
        | _ => rfl
      | _ => rfl
    by_cases hj : ∃ data ops, j = .obj data ∧ getItem data (py "operations") .null = .arr ops
    · obtain ⟨data, ops, rfl, hops⟩ := hj
      by_cases hlength : ops.length ≤ maxOperationsPerUtterance
      · rw [contract_data_iff hloads hops hlength]
        constructor
        · refine fun h => ⟨by simp, fun data' ops' e hops' _ => ?_⟩
          obtain rfl := Json.obj.inj (Except.ok.inj e)
          obtain rfl := Json.arr.inj (hops.symm.trans hops')
          exact h
        · exact fun h => h.2 data ops rfl hops hlength
      · refine iff_of_true (contract_of_rejected (t := py "too_many_operations") ?_) ⟨by simp, ?_⟩
        · unfold parseSemanticOperationsJson
          rw [hloads]
          dsimp only
          rw [hops]
          exact if_pos (Nat.not_le.mp hlength)
        · intro data' ops' e hops' hlength'
          obtain rfl := Json.obj.inj (Except.ok.inj e)
          obtain rfl := Json.arr.inj (hops.symm.trans hops')
          exact absurd hlength' hlength
    · refine iff_of_true (hother fun data ops e hops => hj ⟨data, ops, e, hops⟩) ⟨by simp, ?_⟩
      intro data ops e hops
      exact absurd ⟨data, ops, Except.ok.inj e, hops⟩ hj

end

/-! ### a list for an operation -/

def plainContract : ContractRuntime := { small 4300, asciiUnicode with floatText := fun _ => none }

def listOpText : PyStr := py "\x7b\"operations\":[\x7b\"op\":[]\x7d]\x7d"

/-- An operation name that is a list has no hash: the parser raises. -/
theorem not_contract_listOp : ¬ Contract plainContract listOpText := by
  have hloads : Scan.loads plainContract.toRuntime listOpText =
      .ok (.obj [(py "operations", .arr [.obj [(py "op", .arr [])]])]) := by
    unfold listOpText
    repeat rw [py_ofList]
    rfl
  have hops : getItem [(py "operations", Json.arr [.obj [(py "op", .arr [])]])] (py "operations") .null =
      .arr [.obj [(py "op", .arr [])]] := by
    unfold getItem
    rw [assoc_cons, if_pos rfl]
    rfl
  have hop : getItem [(py "op", Json.arr [])] (py "op") (.str []) = .arr [] := by
    unfold getItem
    rw [assoc_cons, if_pos rfl]
    rfl
  have hentry : parseEntry plainContract (.obj [(py "op", .arr [])]) =
      .error (Py.typeError (py "unhashable type: 'list'")) := by
    rw [parseEntry, hop]
    rfl
  refine not_contract_of_raised (x := typeError (py "unhashable type: 'list'")) ?_
  rw [parse_eq hloads hops (by decide), parseEntries, hentry]
  rfl

end Tomtit
