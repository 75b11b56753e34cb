import TomtitAgent.Tools.Executor
import TomtitAgent.Python.Text

/-!
# `tools/arg_resolver.py`: the placeholders of the plan language

* `ObjectRuntime`   attributes of arbitrary objects, and the integers that index a list;
* `templateAt`, `subTemplates`   the pattern `\$\{([^}]+)\}`, and `sub` with a replacement that may raise;
* `ArgResolver.resolveArgs`   the arguments of a step against the last result and the slots;
* `Inert`   a text that names nothing: it is passed on as it is (`resolveStr_inert`);
* `resolveStr_fresh`   what becomes of any other text at the start of a run, when there is nothing to name.
-/

open Py

namespace Tomtit

/-! ### templates -/

/-- `([^}]+)\}` at the start of a text. -/
def bracedAt (s : PyStr) : Option (PyStr × PyStr) :=
  match s.dropWhile fun c => c ≠ 125 with
  | 125 :: rest =>
    if (s.takeWhile fun c => c ≠ 125) = [] then none else some (s.takeWhile fun c => c ≠ 125, rest)
  | _ => none

/-- `\$\{([^}]+)\}` at the start of a text: what stands between the braces, and what follows. -/
def templateAt : PyStr → Option (PyStr × PyStr)
  | 36 :: 123 :: s => bracedAt s
  | _ => none

/-- `pattern.sub(replace, text)` -/
def subTemplates (replace : PyStr → Except PyExc PyStr) : Nat → PyStr → Except PyExc PyStr
  | 0, s => .ok s
  | n + 1, s =>
    match templateAt s with
    | some (expr, rest) => do
      let t ← replace expr
      let r ← subTemplates replace n rest
      return t ++ r
    | none =>
      match s with
      | [] => .ok []
      | c :: s => do
        let r ← subTemplates replace n s
        return c :: r

/-- The text has braces after a dollar sign with something in them. -/
def HasTemplate (s : PyStr) : Prop :=
  ∃ a w b, s = a ++ (36 :: 123 :: (w ++ 125 :: b)) ∧ w ≠ [] ∧ (125 : CodePoint) ∉ w

theorem templateAt_eq_some {s w b : PyStr} :
    templateAt s = some (w, b) ↔ s = 36 :: 123 :: (w ++ 125 :: b) ∧ w ≠ [] ∧ (125 : CodePoint) ∉ w := by
  constructor
  · intro h
    unfold templateAt at h
    split at h
    · next t =>
      unfold bracedAt at h
      split at h
      · next rest hdrop =>
        split_ifs at h with hne
        obtain ⟨rfl, rfl⟩ := Prod.mk.inj (Option.some.inj h)
        refine ⟨?_, hne, fun hin => ?_⟩
        · rw [← hdrop, List.takeWhile_append_dropWhile]
        · exact absurd (List.mem_takeWhile_imp hin) (by simp)
      · exact absurd h (by simp)
    · exact absurd h (by simp)
  · rintro ⟨rfl, hne, hnot⟩
    have hall : ∀ c ∈ w, (decide (c ≠ 125)) = true := fun c hc =>
      decide_eq_true fun e => hnot (e ▸ hc)
    have htake : (w ++ 125 :: b).takeWhile (fun c => c ≠ 125) = w := by
      rw [List.takeWhile_append_of_pos hall, List.takeWhile_cons_of_neg (by simp), List.append_nil]
    have hdrop : (w ++ 125 :: b).dropWhile (fun c => c ≠ 125) = 125 :: b := by
      rw [List.dropWhile_append_of_pos hall, List.dropWhile_cons_of_neg (by simp)]
    show bracedAt (w ++ 125 :: b) = _
    unfold bracedAt
    rw [hdrop, htake]
    exact if_neg hne

theorem templateAt_eq_none {s : PyStr} (h : ¬ HasTemplate s) : templateAt s = none := by
  cases e : templateAt s with
  | none => rfl
  | some p =>
    obtain ⟨hs, hne, hnot⟩ := templateAt_eq_some.mp (show templateAt s = some (p.1, p.2) from e)
    exact absurd ⟨[], p.1, p.2, hs, hne, hnot⟩ h

theorem HasTemplate.of_tail {c : CodePoint} {s : PyStr} (h : HasTemplate s) : HasTemplate (c :: s) := by
  obtain ⟨a, w, b, rfl, hw⟩ := h
  exact ⟨c :: a, w, b, rfl, hw⟩

theorem HasTemplate.tail {c : CodePoint} {s : PyStr} (h : HasTemplate (c :: s))
    (hnone : templateAt (c :: s) = none) : HasTemplate s := by
  obtain ⟨a, w, b, hs, hw⟩ := h
  cases a with
  | nil =>
    rw [templateAt_eq_some.mpr ⟨hs, hw⟩] at hnone
    exact absurd hnone (by simp)
  | cons d a => exact ⟨a, w, b, (List.cons.inj hs).2, hw⟩

theorem not_hasTemplate_nil : ¬ HasTemplate [] := by
  rintro ⟨a, w, b, hs, -⟩
  exact List.append_ne_nil_of_right_ne_nil a (List.cons_ne_nil _ _) hs.symm

section
variable {replace : PyStr → Except PyExc PyStr}

theorem subTemplates_plain (n : Nat) {s : PyStr} (h : ¬ HasTemplate s) :
    subTemplates replace n s = .ok s := by
  induction n generalizing s with
  | zero => rfl
  | succ n ih =>
    rw [subTemplates.eq_def]
    dsimp only
    rw [templateAt_eq_none h]
    cases s with
    | nil => rfl
    | cons c s =>
      dsimp only
      rw [ih fun h' => h h'.of_tail]
      rfl

theorem subTemplates_shorter (hempty : ∀ expr t, replace expr = .ok t → t = []) (n : Nat) {s r : PyStr}
    (h : subTemplates replace n s = .ok r) :
    r.length ≤ s.length ∧ (HasTemplate s → s.length ≤ n → r.length < s.length) := by
  induction n generalizing s r with
  | zero =>
    rw [subTemplates] at h
    cases h
    refine ⟨le_rfl, fun ht hlen => ?_⟩
    rw [List.eq_nil_of_length_eq_zero (Nat.le_zero.mp hlen)] at ht
    exact absurd ht not_hasTemplate_nil
  | succ n ih =>
    rw [subTemplates.eq_def] at h
    dsimp only at h
    cases e : templateAt s with
    | some p =>
      rw [e] at h
      obtain ⟨t, ht, h⟩ := bind_eq_ok.mp h
      obtain ⟨r', hr', h⟩ := bind_eq_ok.mp h
      cases h
      obtain ⟨hs, -, -⟩ := templateAt_eq_some.mp (show templateAt s = some (p.1, p.2) from e)
      have hrest := (ih hr').1
      rw [hempty _ _ ht, List.nil_append, hs]
      simp only [List.length_cons, List.length_append]
      omega
    | none =>
      rw [e] at h
      cases s with
      | nil =>
        cases h
        exact ⟨le_rfl, fun ht => absurd ht not_hasTemplate_nil⟩
      | cons c s =>
        obtain ⟨r', hr', h⟩ := bind_eq_ok.mp h
        cases h
        obtain ⟨hle, hlt⟩ := ih hr'
        rw [List.length_cons, List.length_cons]
        refine ⟨by omega, fun ht hlen => ?_⟩
        have := hlt (ht.tail e) (by omega)
        omega

end

/-! ### paths -/

/-- What is read of objects that are neither data nor dictionaries nor lists. -/
structure ObjectRuntime where
  /-- `getattr(obj, name)`, where `hasattr` finds it -/
  attr : Value → PyStr → Option Value
  /-- a value as a part of a list or of a dictionary -/
  embed : Value → PyVal
  /-- `str.isdigit` -/
  isDigitText : PyStr → Bool
  /-- `int(text)` -/
  intOf : PyStr → Except PyExc Int

def ToolOutput.typeName : ToolOutput → PyStr
  | .webSearch .. => py "WebSearchOutput"
  | .calculate .. => py "CalculateOutput"
  | .writeNote .. => py "WriteNoteOutput"
  | .readNote .. => py "ReadNoteOutput"
  | .listNotes .. => py "ListNotesOutput"
  | .memoryWrite .. => py "MemoryWriteOutput"
  | .searchMemory .. => py "SearchMemoryOutput"
  | .summarize .. => py "SummarizeOutput"
  | .finish .. => py "FinishOutput"
  | .answerFromContext .. => py "AnswerFromContextOutput"
  | .other v => v.typeName

/-- `type(obj).__name__` -/
def Value.typeName : Value → PyStr
  | .data v => v.typeName
  | .result _ => py "ToolResult"
  | .output o => o.typeName

namespace ArgResolver
variable (rt : Runtime) (objects : ObjectRuntime)

def cannotResolve (fullPath what : PyStr) : PyExc :=
  valueError (py "Cannot resolve " ++ fullPath ++ py ": " ++ what)

/-- `get_field` -/
def getField (obj : Value) (fieldName fullPath : PyStr) : Except PyExc Value :=
  match obj with
  | .data .none => .error (cannotResolve fullPath (py "'" ++ fieldName ++ py "' on None"))
  | .data (.dict kvs) =>
    match kvs.find? fun kv => kv.1.asStr = some fieldName with
    | some kv => .ok (.data kv.2)
    | none => .error (cannotResolve fullPath (py "key '" ++ fieldName ++ py "' not found"))
  | .data (.list xs) => do
    raiseIf (objects.isDigitText fieldName = false)
      (cannotResolve fullPath (py "list index must be numeric, got '" ++ fieldName ++ py "'"))
    let index ← objects.intOf fieldName
    match xs[index.toNat]? with
    | some x => .ok (.data x)
    | none => .error (cannotResolve fullPath (py "list index " ++ intText index ++ py " out of range"))
  | obj =>
    match objects.attr obj fieldName with
    | some v => .ok v
    | none => .error (cannotResolve fullPath (py "field '" ++ fieldName ++ py "' not found on " ++ obj.typeName))

def followPath (fullPath : PyStr) : Value → List PyStr → Except PyExc Value
  | current, [] => .ok current
  | current, part :: parts => do
    raiseIf (part = []) (valueError (py "Invalid placeholder path: " ++ fullPath))
    let next ← getField objects current part fullPath
    followPath fullPath next parts

/-- `resolve_path`; `field` reads the first part of the path from the root. -/
def resolvePath (field : PyStr → PyStr → Except PyExc Value) (path label : PyStr) : Except PyExc Value :=
  let fullPath := label ++ py "." ++ path
  match splitSep (py ".") path with
  | [] => .error (valueError (py "Invalid placeholder path: " ++ fullPath))
  | part :: parts => do
    raiseIf (part = []) (valueError (py "Invalid placeholder path: " ++ fullPath))
    let next ← field part fullPath
    followPath objects fullPath next parts

section
variable {μ : Type} (s : AgentState μ)

/-- `resolve_path(state.last_result, path, "$last")` -/
def resolveLast (path : PyStr) : Except PyExc Value :=
  match s.lastResult with
  | none => .error (cannotResolve (py "$last." ++ path) (py "root is None"))
  | some r => resolvePath objects (getField objects (.result r)) path (py "$last")

/-- `resolve_path(state.slots, path, "$slot")` -/
def resolveSlot (path : PyStr) : Except PyExc Value :=
  resolvePath objects (fun part fullPath =>
    match s.workspace.slots.get? part with
    | some v => .ok v
    | none => .error (cannotResolve fullPath (py "key '" ++ part ++ py "' not found"))) path (py "$slot")

/-- `replace` of `resolve_template`, of the text between the braces. -/
def resolveExpr (text : PyStr) : Except PyExc PyStr :=
  let expr := strip text
  if expr = py "last" ∨ expr = py "last_text" then stringifyResult rt s.lastResult
  else if startsWith expr (py "last.") then do
    let value ← resolveLast objects s (expr.drop 5)
    stringifyValue rt value
  else if startsWith expr (py "slot.") then do
    let value ← resolveSlot objects s (expr.drop 5)
    stringifyValue rt value
  else .error (valueError (py "Unknown template expression: " ++ expr))

/-- `resolve_template` -/
def resolveTemplate (text : PyStr) : Except PyExc PyStr :=
  subTemplates (resolveExpr rt objects s) text.length text

/-- `resolve_value` of a string; `value` is the string itself. -/
def resolveStr (value : PyVal) (text : PyStr) : Except PyExc Value :=
  if text = py "$last" then .ok ((s.lastResult.map .result).getD (.data .none))
  else if text = py "$last_text" then (stringifyResult rt s.lastResult).map fun t => .data (.str t)
  else if startsWith text (py "$last.") then resolveLast objects s (text.drop 6)
  else if startsWith text (py "$slot.") then resolveSlot objects s (text.drop 6)
  else if contains text (py "$\x7b") then (resolveTemplate rt objects s text).map fun t => .data (.str t)
  else .ok (.data value)

mutual

/-- `resolve_value` of plain data -/
def resolveData : PyVal → Except PyExc Value
  | .str text => resolveStr rt objects s (.str text) text
  | .enum cls name true (.str text) => resolveStr rt objects s (.enum cls name true (.str text)) text
  | .list xs => do
    let ys ← resolveList xs
    return .data (.list ys)
  | .dict kvs => do
    let items ← resolveItems kvs
    return .data (.dict items)
  | v => .ok (.data v)

def resolveList : List PyVal → Except PyExc (List PyVal)
  | [] => .ok []
  | x :: xs => do
    let y ← resolveData x
    let ys ← resolveList xs
    return objects.embed y :: ys

def resolveItems : List (PyVal × PyVal) → Except PyExc (List (PyVal × PyVal))
  | [] => .ok []
  | kv :: kvs => do
    let v ← resolveData kv.2
    let items ← resolveItems kvs
    return (kv.1, objects.embed v) :: items

end

/-- `resolve_value` -/
def resolveValue : Value → Except PyExc Value
  | .data v => resolveData rt objects s v
  | v => .ok v

/-- The items of `resolve_args`. -/
def resolveArgItems : List (PyStr × Value) → Except PyExc (List (PyStr × Value))
  | [] => .ok []
  | kv :: kvs => do
    let v ← resolveValue rt objects s kv.2
    let items ← resolveArgItems kvs
    return (kv.1, v) :: items

/-- `resolve_args` -/
def resolveArgs (args : Dict PyStr Value) (s : AgentState μ) : Except PyExc (Dict PyStr Value) := do
  let items ← resolveArgItems rt objects s args.items
  return Dict.ofItems items

end
end ArgResolver

section
variable {rt : Runtime} {objects : ObjectRuntime} {μ : Type} {s : AgentState μ}

theorem ArgResolver.resolveArgs_pair {k k' : PyStr} (hk : k ≠ k') {text text' : PyStr}
    {resolved : Dict PyStr Value} :
    ArgResolver.resolveArgs rt objects (Dict.ofItems [(k, .data (.str text)), (k', .data (.str text'))]) s =
      .ok resolved ↔ ∃ v v', ArgResolver.resolveStr rt objects s (.str text) text = .ok v ∧
        ArgResolver.resolveStr rt objects s (.str text') text' = .ok v' ∧
        resolved = Dict.ofItems [(k, v), (k', v')] := by
  have hvalue : ∀ text, ArgResolver.resolveValue rt objects s (.data (.str text)) =
      ArgResolver.resolveStr rt objects s (.str text) text := fun _ => rfl
  unfold ArgResolver.resolveArgs
  rw [Dict.items_ofItems_pair hk]
  simp only [ArgResolver.resolveArgItems, hvalue, bind_eq_ok]
  constructor
  · rintro ⟨items, ⟨v, hv, items', ⟨v', hv', items'', hnil, hitems'⟩, hitems⟩, h⟩
    cases hnil
    cases hitems'
    cases hitems
    cases h
    exact ⟨v, v', hv, hv', rfl⟩
  · rintro ⟨v, v', hv, hv', rfl⟩
    exact ⟨_, ⟨v, hv, _, ⟨v', hv', [], rfl, rfl⟩, rfl⟩, rfl⟩

theorem ArgResolver.resolveArgs_single {k text : PyStr} {resolved : Dict PyStr Value} :
    ArgResolver.resolveArgs rt objects (Dict.ofItems [(k, .data (.str text))]) s = .ok resolved ↔
      ∃ v, ArgResolver.resolveStr rt objects s (.str text) text = .ok v ∧
        resolved = Dict.ofItems [(k, v)] := by
  have hvalue : ArgResolver.resolveValue rt objects s (.data (.str text)) =
      ArgResolver.resolveStr rt objects s (.str text) text := rfl
  have hitems : (Dict.ofItems [(k, Value.data (.str text))]).items = [(k, .data (.str text))] := rfl
  unfold ArgResolver.resolveArgs
  rw [hitems]
  simp only [ArgResolver.resolveArgItems, hvalue, bind_eq_ok]
  constructor
  · rintro ⟨items, ⟨v, hv, items', hnil, hitems⟩, h⟩
    cases hnil
    cases hitems
    cases h
    exact ⟨v, hv, rfl⟩
  · rintro ⟨v, hv, rfl⟩
    exact ⟨_, ⟨v, hv, [], rfl, rfl⟩, rfl⟩

end

/-! ### texts that name nothing -/

theorem HasTemplate.drop {a s : PyStr} (ha : (36 : CodePoint) ∉ a) (h : HasTemplate (a ++ s)) :
    HasTemplate s := by
  induction a with
  | nil => exact h
  | cons c a ih =>
    rw [List.mem_cons, not_or] at ha
    refine ih ha.2 (h.tail ?_)
    cases e : templateAt (c :: (a ++ s)) with
    | none => rfl
    | some p =>
      have hs := (templateAt_eq_some.mp (show templateAt (c :: (a ++ s)) = some (p.1, p.2) from e)).1
      exact absurd (List.cons.inj hs).1.symm ha.1

theorem HasTemplate.take {s b : PyStr} (hb : (125 : CodePoint) ∉ b) (h : HasTemplate (s ++ b)) :
    HasTemplate s := by
  obtain ⟨a, w, t, hs, hw⟩ := h
  have hsplit : s ++ b = (a ++ (36 :: 123 :: (w ++ [125]))) ++ t := by
    rw [hs]
    simp
  rcases List.append_eq_append_iff.mp hsplit with ⟨e, he, hb'⟩ | ⟨e, he, -⟩
  · rcases List.eq_nil_or_concat e with rfl | ⟨e', c, rfl⟩
    · rw [List.append_nil] at he
      exact ⟨a, w, [], by rw [← he], hw⟩
    · have hlast : c = 125 := by
        have := congrArg List.getLast? he
        simp only [List.getLast?_append, List.getLast?_cons, List.concat_eq_append] at this
        simpa using this.symm
      refine absurd ?_ hb
      rw [hb', hlast]
      simp
  · exact ⟨a, w, e, by rw [he]; simp, hw⟩

/-- No placeholder: not `$last` or `$last_text`, no path into them, and no template. -/
structure Inert (text : PyStr) : Prop where
  last : text ≠ py "$last"
  lastText : text ≠ py "$last_text"
  lastPath : startsWith text (py "$last.") = false
  slotPath : startsWith text (py "$slot.") = false
  template : ¬ HasTemplate text

namespace ArgResolver
variable {rt : Runtime} {objects : ObjectRuntime} {μ : Type} {s : AgentState μ}

theorem resolveStr_inert {text : PyStr} (h : Inert text) :
    resolveStr rt objects s (.str text) text = .ok (.data (.str text)) := by
  unfold resolveStr
  rw [if_neg h.last, if_neg h.lastText, h.lastPath, h.slotPath, if_neg Bool.false_ne_true,
    if_neg Bool.false_ne_true]
  split
  · unfold resolveTemplate
    rw [subTemplates_plain _ h.template]
    rfl
  · rfl

structure Fresh (s : AgentState μ) : Prop where
  lastResult : s.lastResult = none
  slots : s.workspace.slots = Dict.empty

variable (objects) in
theorem resolveLast_fresh (h : Fresh s) (path : PyStr) : ∃ e, resolveLast objects s path = .error e := by
  unfold resolveLast
  rw [h.lastResult]
  exact ⟨_, rfl⟩

variable (objects) in
theorem resolveSlot_fresh (h : Fresh s) (path : PyStr) : ∃ e, resolveSlot objects s path = .error e := by
  unfold resolveSlot resolvePath
  dsimp only
  cases splitSep (py ".") path with
  | nil => exact ⟨_, rfl⟩
  | cons part parts =>
    rw [h.slots]
    by_cases hpart : part = []
    · refine ⟨valueError (py "Invalid placeholder path: " ++ (py "$slot" ++ py "." ++ path)), ?_⟩
      unfold raiseIf
      dsimp only
      rw [if_pos hpart]
      rfl
    · refine ⟨cannotResolve (py "$slot" ++ py "." ++ path) (py "key '" ++ part ++ py "' not found"), ?_⟩
      unfold raiseIf
      dsimp only
      rw [if_neg hpart]
      rfl

theorem resolveExpr_fresh (h : Fresh s) {text t : PyStr} (ht : resolveExpr rt objects s text = .ok t) :
    t = [] := by
  unfold resolveExpr at ht
  dsimp only at ht
  split_ifs at ht with hlast hpath hslot
  · rw [h.lastResult] at ht
    exact (Except.ok.inj ht).symm
  · obtain ⟨e, he⟩ := resolveLast_fresh objects h ((strip text).drop 5)
    rw [he] at ht
    exact absurd ht (by simp [bind, Except.bind])
  · obtain ⟨e, he⟩ := resolveSlot_fresh objects h ((strip text).drop 5)
    rw [he] at ht
    exact absurd ht (by simp [bind, Except.bind])

/-- At the start of a run any other text is refused, or turned into `None` or a shorter text. -/
theorem resolveStr_fresh (h : Fresh s) {text : PyStr} (hnot : ¬ Inert text) {v : Value}
    (hv : resolveStr rt objects s (.str text) text = .ok v) :
    v = .data .none ∨ ∃ t, v = .data (.str t) ∧ t.length < text.length := by
  unfold resolveStr at hv
  split_ifs at hv with hlast htext hpath hslot hcontains
  · rw [h.lastResult] at hv
    exact .inl (Except.ok.inj hv).symm
  · rw [h.lastResult] at hv
    refine .inr ⟨[], (Except.ok.inj hv).symm, ?_⟩
    rw [htext, py_ofList]
    exact Nat.zero_lt_succ _
  · obtain ⟨e, he⟩ := resolveLast_fresh objects h (text.drop 6)
    rw [he] at hv
    exact absurd hv (by simp)
  · obtain ⟨e, he⟩ := resolveSlot_fresh objects h (text.drop 6)
    rw [he] at hv
    exact absurd hv (by simp)
  · have htemplate : HasTemplate text := by
      by_contra hno
      exact hnot ⟨hlast, htext, Bool.eq_false_iff.mpr hpath, Bool.eq_false_iff.mpr hslot, hno⟩
    cases hr : resolveTemplate rt objects s text with
    | error e =>
      rw [hr] at hv
      exact absurd hv (by simp [Except.map])
    | ok t =>
      rw [hr] at hv
      refine .inr ⟨t, (Except.ok.inj hv).symm, ?_⟩
      exact (subTemplates_shorter (fun _ _ => resolveExpr_fresh h) _ hr).2 htemplate le_rfl
  · refine absurd ⟨hlast, htext, Bool.eq_false_iff.mpr hpath, Bool.eq_false_iff.mpr hslot, ?_⟩ hnot
    rintro ⟨a, w, b, rfl, -⟩
    refine hcontains (contains_iff.mpr ⟨a, w ++ 125 :: b, ?_⟩)
    rw [py_ofList, List.append_assoc]
    rfl

end ArgResolver
end Tomtit
