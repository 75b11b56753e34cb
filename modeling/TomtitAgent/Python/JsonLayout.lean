import TomtitAgent.Python.JsonLoad

/-!
# `json.dumps` with blanks

* `Layout`     the blanks that the encoder writes between the tokens; `compact`, `spaced` and
               `indented n` are those of `separators=(",", ":")`, of the default and of `indent=n`;
* `textIn`     the text of a tree in a layout, `ensure_ascii=False`;
* `jsonOf`     the tree that the encoder sees in a Python value;
* `dumpsIn`    both together: `json.dumps(v, ensure_ascii=False, ...)`;
* `jsonOf_intsFit`   the integers of that tree can be written;
* `mem_textIn`   what is not ASCII is not escaped.
-/

namespace Py

/-- Blanks by the depth of the items they stand between. -/
structure Layout where
  colon : PyStr
  opening : Nat → PyStr
  comma : Nat → PyStr
  closing : Nat → PyStr
  colon_blank : ∀ c ∈ colon, JsonLoad.isBlank c = true
  opening_blank : ∀ d, ∀ c ∈ opening d, JsonLoad.isBlank c = true
  comma_blank : ∀ d, ∀ c ∈ comma d, JsonLoad.isBlank c = true
  closing_blank : ∀ d, ∀ c ∈ closing d, JsonLoad.isBlank c = true

namespace Layout

def compact : Layout where
  colon := []
  opening _ := []
  comma _ := []
  closing _ := []
  colon_blank := by simp
  opening_blank := by simp
  comma_blank := by simp
  closing_blank := by simp

def spaced : Layout where
  colon := [32]
  opening _ := []
  comma _ := [32]
  closing _ := []
  colon_blank := List.forall_mem_singleton.mpr rfl
  opening_blank := by simp
  comma_blank _ := List.forall_mem_singleton.mpr rfl
  closing_blank := by simp

/-- A new line with the indentation of depth `d`. -/
def indentation (n d : Nat) : PyStr := 10 :: List.replicate (n * d) 32

theorem indentation_blank (n d : Nat) : ∀ c ∈ indentation n d, JsonLoad.isBlank c = true := by
  intro c hc
  rcases List.mem_cons.mp hc with rfl | hc
  · rfl
  · rw [List.eq_of_mem_replicate hc]
    rfl

def indented (n : Nat) : Layout where
  colon := [32]
  opening := indentation n
  comma := indentation n
  closing d := indentation n (d - 1)
  colon_blank := List.forall_mem_singleton.mpr rfl
  opening_blank := indentation_blank n
  comma_blank := indentation_blank n
  closing_blank d := indentation_blank n (d - 1)

end Layout

/-- The text of a float, `allow_nan=True`. -/
def floatText (rt : Runtime) (x : PyFloat) : PyStr :=
  if x.isNan then py "NaN"
  else if x.isFinite then rt.floatRepr x
  else if x.negative then py "-Infinity" else py "Infinity"

namespace Json

section
variable (rt : Runtime) (l : Layout)

mutual

/-- The text of a tree whose own items stand at depth `d + 1`. -/
def textIn (d : Nat) : Json → PyStr
  | .null => py "null"
  | .bool b => if b then py "true" else py "false"
  | .int n => intText n
  | .float x => floatText rt x
  | .str s => quoted s
  | .arr [] => [91, 93]
  | .arr (x :: xs) => 91 :: (l.opening (d + 1) ++ (textIn (d + 1) x ++ elemsIn (d + 1) xs))
  | .obj [] => [123, 125]
  | .obj ((k, x) :: kvs) =>
    123 :: (l.opening (d + 1) ++ (quoted k ++ 58 :: (l.colon ++ (textIn (d + 1) x ++
      itemsIn (d + 1) kvs))))

/-- The elements after the first, with the closing bracket. -/
def elemsIn (d : Nat) : List Json → PyStr
  | [] => l.closing d ++ [93]
  | x :: xs => 44 :: (l.comma d ++ (textIn d x ++ elemsIn d xs))

def itemsIn (d : Nat) : List (PyStr × Json) → PyStr
  | [] => l.closing d ++ [125]
  | (k, x) :: kvs =>
    44 :: (l.comma d ++ (quoted k ++ 58 :: (l.colon ++ (textIn d x ++ itemsIn d kvs))))

end

end

mutual

def strings : Json → List PyStr
  | .str s => [s]
  | .arr xs => stringsList xs
  | .obj kvs => stringsItems kvs
  | _ => []

def stringsList : List Json → List PyStr
  | [] => []
  | x :: xs => strings x ++ stringsList xs

def stringsItems : List (PyStr × Json) → List PyStr
  | [] => []
  | (k, x) :: kvs => k :: (strings x ++ stringsItems kvs)

end

end Json

/-! ### from Python values -/

section
variable (rt : Runtime)

/-- The key under which the encoder writes an item; keys that are no strings are converted. -/
def jsonKey : PyVal → Except PyExc PyStr
  | .str s => .ok s
  | .enum _ _ true (.str s) => .ok s
  | .float x => .ok (floatText rt x)
  | .bool b => .ok (if b then py "true" else py "false")
  | .none => .ok (py "null")
  | .int n => strInt rt n
  | k => .error (typeError (py "keys must be str, int, float, bool or None, not " ++ k.typeName))

mutual

/-- The tree that `json.dumps` writes for a value. -/
def jsonOf : PyVal → Except PyExc Json
  | .none => .ok .null
  | .bool b => .ok (.bool b)
  | .int n => if intFits rt n then .ok (.int n) else .error (intTooLong rt)
  | .float x => .ok (.float x)
  | .str s => .ok (.str s)
  | .enum _ _ true (.str s) => .ok (.str s)
  | .list xs => do
    let js ← jsonOfList xs
    return .arr js
  | .tuple xs => do
    let js ← jsonOfList xs
    return .arr js
  | .dict kvs => do
    let es ← jsonOfItems kvs
    return .obj es
  | .enum cls _ _ _ => .error (typeError
    (py "Object of type " ++ cls ++ py " is not JSON serializable"))
  | .obj cls _ _ => .error (typeError
    (py "Object of type " ++ cls ++ py " is not JSON serializable"))

def jsonOfList : List PyVal → Except PyExc (List Json)
  | [] => .ok []
  | x :: xs => do
    let j ← jsonOf x
    let js ← jsonOfList xs
    return j :: js

def jsonOfItems : List (PyVal × PyVal) → Except PyExc (List (PyStr × Json))
  | [] => .ok []
  | (k, x) :: kvs => do
    let key ← jsonKey rt k
    let j ← jsonOf x
    let es ← jsonOfItems kvs
    return (key, j) :: es

end

/-- `json.dumps(v, ensure_ascii=False, ...)` in a layout. -/
def dumpsIn (l : Layout) (v : PyVal) : Except PyExc PyStr := do
  let j ← jsonOf rt v
  return j.textIn rt l 0

theorem jsonOf_toPy {j : Json} (hf : j.intsFit rt = true) : jsonOf rt (JsonLoad.toPy j) = .ok j := by
  induction j using Json.induct with
  | null => rfl
  | bool b => rfl
  | int n =>
    rw [Json.intsFit] at hf
    rw [JsonLoad.toPy, jsonOf, if_pos hf]
  | float x => rfl
  | str s => rfl
  | arr xs ih =>
    have hlist : jsonOfList rt (JsonLoad.toPyList xs) = .ok xs := by
      rw [Json.intsFit, Json.intsFitList_iff] at hf
      induction xs with
      | nil => rfl
      | cons x xs ihx =>
        have hx := ih x List.mem_cons_self (hf x List.mem_cons_self)
        have hxs := ihx (fun y hy => ih y (List.mem_cons_of_mem x hy))
          fun y hy => hf y (List.mem_cons_of_mem x hy)
        rw [JsonLoad.toPyList, jsonOfList, hx, hxs]
        rfl
    rw [JsonLoad.toPy, jsonOf, hlist]
    rfl
  | obj kvs ih =>
    have hitems : jsonOfItems rt (JsonLoad.toPyItems kvs) = .ok kvs := by
      rw [Json.intsFit, Json.intsFitItems_iff] at hf
      induction kvs with
      | nil => rfl
      | cons kv kvs ihk =>
        obtain ⟨k, x⟩ := kv
        have hx : jsonOf rt (JsonLoad.toPy x) = .ok x :=
          ih (k, x) List.mem_cons_self (hf (k, x) List.mem_cons_self)
        have hkvs := ihk (fun y hy => ih y (List.mem_cons_of_mem _ hy))
          fun y hy => hf y (List.mem_cons_of_mem _ hy)
        rw [JsonLoad.toPyItems, jsonOfItems, jsonKey, hx, hkvs]
        rfl
    rw [JsonLoad.toPy, jsonOf, hitems]
    rfl

theorem intsFit_of_jsonOf {j j' : Json} (h : jsonOf rt (JsonLoad.toPy j) = .ok j') :
    j.intsFit rt = true := by
  induction j using Json.induct generalizing j' with
  | null => rfl
  | bool b => rfl
  | int n =>
    rw [JsonLoad.toPy, jsonOf] at h
    rw [Json.intsFit]
    by_contra hf
    rw [if_neg hf] at h
    exact absurd h (by simp)
  | float x => rfl
  | str s => rfl
  | arr xs ih =>
    rw [JsonLoad.toPy, jsonOf] at h
    obtain ⟨js, hjs, -⟩ := bind_eq_ok.mp h
    rw [Json.intsFit, Json.intsFitList_iff]
    clear h
    induction xs generalizing js with
    | nil => exact fun x hx => absurd hx List.not_mem_nil
    | cons x xs ihx =>
      rw [JsonLoad.toPyList, jsonOfList] at hjs
      obtain ⟨j, hj, hjs⟩ := bind_eq_ok.mp hjs
      obtain ⟨js', hjs', -⟩ := bind_eq_ok.mp hjs
      rw [List.forall_mem_cons]
      exact ⟨ih x List.mem_cons_self hj,
        ihx (fun y hy => ih y (List.mem_cons_of_mem x hy)) js' hjs'⟩
  | obj kvs ih =>
    rw [JsonLoad.toPy, jsonOf] at h
    obtain ⟨es, hes, -⟩ := bind_eq_ok.mp h
    rw [Json.intsFit, Json.intsFitItems_iff]
    clear h
    induction kvs generalizing es with
    | nil => exact fun x hx => absurd hx List.not_mem_nil
    | cons kv kvs ihk =>
      obtain ⟨k, x⟩ := kv
      rw [JsonLoad.toPyItems, jsonOfItems] at hes
      obtain ⟨key, -, hes⟩ := bind_eq_ok.mp hes
      obtain ⟨j, hj, hes⟩ := bind_eq_ok.mp hes
      obtain ⟨es', hes', -⟩ := bind_eq_ok.mp hes
      rw [List.forall_mem_cons]
      exact ⟨ih (k, x) List.mem_cons_self hj,
        ihk (fun y hy => ih y (List.mem_cons_of_mem _ hy)) es' hes'⟩

/-- Of the members of enums only those that are strings are encoded. -/
theorem jsonOf_enum {cls name : PyStr} {isStr : Bool} {value : PyVal} {j : Json} :
    jsonOf rt (.enum cls name isStr value) = .ok j ↔ ∃ s, isStr = true ∧ value = .str s ∧ j = .str s := by
  cases isStr with
  | false => simp [jsonOf]
  | true =>
    cases value with
    | str s => simp [jsonOf, eq_comm]
    | _ => simp [jsonOf]

/-- Every integer in what the encoder writes can be written. -/
theorem jsonOf_intsFit {v : PyVal} {j : Json} (h : jsonOf rt v = .ok j) : j.intsFit rt = true := by
  have elements : ∀ {xs : List PyVal}, (∀ x ∈ xs, ∀ j, jsonOf rt x = .ok j → j.intsFit rt = true) →
      ∀ {js : List Json}, jsonOfList rt xs = .ok js → (Json.arr js).intsFit rt = true := by
    intro xs ih js hjs
    rw [Json.intsFit, Json.intsFitList_iff]
    induction xs generalizing js with
    | nil =>
      obtain rfl := Except.ok.inj hjs
      exact fun _ hj => absurd hj List.not_mem_nil
    | cons x xs ihx =>
      rw [jsonOfList] at hjs
      obtain ⟨j, hj, hjs⟩ := bind_eq_ok.mp hjs
      obtain ⟨js', hjs', hret⟩ := bind_eq_ok.mp hjs
      obtain rfl := Except.ok.inj hret
      rw [List.forall_mem_cons]
      exact ⟨ih x List.mem_cons_self j hj, ihx (fun y hy => ih y (List.mem_cons_of_mem x hy)) hjs'⟩
  induction v using PyVal.induct generalizing j with
  | none | bool | float | str =>
    rw [jsonOf] at h
    obtain rfl := Except.ok.inj h
    rfl
  | int n =>
    rw [jsonOf] at h
    by_cases hn : intFits rt n = true
    · rw [if_pos hn] at h
      obtain rfl := Except.ok.inj h
      exact hn
    · rw [if_neg hn] at h
      exact absurd h (by simp)
  | list xs ih | tuple xs ih =>
    rw [jsonOf] at h
    obtain ⟨js, hjs, hret⟩ := bind_eq_ok.mp h
    obtain rfl := Except.ok.inj hret
    exact elements (fun x hx _ hj => ih x hx hj) hjs
  | dict kvs ih =>
    rw [jsonOf] at h
    obtain ⟨es, hes, hret⟩ := bind_eq_ok.mp h
    obtain rfl := Except.ok.inj hret
    clear h hret
    rw [Json.intsFit, Json.intsFitItems_iff]
    induction kvs generalizing es with
    | nil =>
      obtain rfl := Except.ok.inj hes
      exact fun _ hj => absurd hj List.not_mem_nil
    | cons kv kvs ihk =>
      obtain ⟨k, x⟩ := kv
      rw [jsonOfItems] at hes
      obtain ⟨key, -, hes⟩ := bind_eq_ok.mp hes
      obtain ⟨j, hj, hes⟩ := bind_eq_ok.mp hes
      obtain ⟨es', hes', hret⟩ := bind_eq_ok.mp hes
      obtain rfl := Except.ok.inj hret
      rw [List.forall_mem_cons]
      exact ⟨(ih (k, x) List.mem_cons_self).2 hj, ihk (fun y hy => ih y (List.mem_cons_of_mem _ hy)) es' hes'⟩
  | enum cls name isStr value ih =>
    obtain ⟨s, rfl, rfl, rfl⟩ := (jsonOf_enum rt).mp h
    rfl
  | obj cls repr attrs => exact absurd h (by simp [jsonOf])

/-! ### what a text shows of the strings -/

theorem mem_quoted {s : PyStr} {c : CodePoint} (hc : c ∈ s) (h128 : 128 ≤ c.val) :
    c ∈ Json.quoted s := by
  have hescape : Json.escape c = [c] := by
    have hne : ∀ n : CodePoint, n.val < 128 → c ≠ n := fun n hn e => by rw [e] at h128; omega
    unfold Json.escape
    rw [if_neg (hne 34 (by decide)), if_neg (hne 92 (by decide)), if_neg (hne 8 (by decide)),
      if_neg (hne 9 (by decide)), if_neg (hne 10 (by decide)), if_neg (hne 12 (by decide)),
      if_neg (hne 13 (by decide)), if_neg (by omega)]
  unfold Json.quoted
  refine List.mem_cons_of_mem _ (List.mem_append_left _ (List.mem_flatMap.mpr ⟨c, hc, ?_⟩))
  rw [hescape]
  exact List.mem_singleton_self c

variable (l : Layout)

/-- The characters beyond ASCII stand in the text as they are. -/
theorem mem_textIn {j : Json} {s : PyStr} {c : CodePoint} (hs : s ∈ j.strings) (hc : c ∈ s)
    (h128 : 128 ≤ c.val) (d : Nat) : c ∈ j.textIn rt l d := by
  induction j using Json.induct generalizing d with
  | null => exact absurd hs List.not_mem_nil
  | bool b => exact absurd hs List.not_mem_nil
  | int n => exact absurd hs List.not_mem_nil
  | float x => exact absurd hs List.not_mem_nil
  | str t =>
    rw [List.mem_singleton.mp hs] at hc
    exact mem_quoted hc h128
  | arr xs ih =>
    -- the elements after the first are those of a shorter list
    have helems : ∀ (ys : List Json) (d : Nat), (∀ y ∈ ys, s ∈ y.strings → ∀ d, c ∈ y.textIn rt l d) →
        s ∈ Json.stringsList ys → c ∈ Json.elemsIn rt l d ys := by
      intro ys d
      induction ys with
      | nil => exact fun _ h => absurd h List.not_mem_nil
      | cons y ys ihy =>
        intro h hmem
        rw [Json.elemsIn]
        refine List.mem_cons_of_mem _ (List.mem_append_right _ (List.mem_append.mpr ?_))
        rcases List.mem_append.mp hmem with hy | hys
        · exact Or.inl (h y List.mem_cons_self hy d)
        · exact Or.inr (ihy (fun z hz => h z (List.mem_cons_of_mem y hz)) hys)
    cases xs with
    | nil => exact absurd hs List.not_mem_nil
    | cons x xs =>
      rw [Json.textIn]
      refine List.mem_cons_of_mem _ (List.mem_append_right _ (List.mem_append.mpr ?_))
      rcases List.mem_append.mp hs with hx | hxs
      · exact Or.inl (ih x List.mem_cons_self hx _)
      · exact Or.inr (helems xs _ (fun y hy h => ih y (List.mem_cons_of_mem x hy) h) hxs)
  | obj kvs ih =>
    have hitem : ∀ {k : PyStr} {x : Json} {d : Nat} {rest : PyStr},
        (s ∈ x.strings → c ∈ x.textIn rt l d) →
        s = k ∨ s ∈ x.strings ∨ c ∈ rest →
        c ∈ Json.quoted k ++ 58 :: (l.colon ++ (x.textIn rt l d ++ rest)) := by
      intro k x d rest hx hmem
      rw [List.mem_append, List.mem_cons, List.mem_append, List.mem_append]
      rcases hmem with rfl | h | h
      · exact Or.inl (mem_quoted hc h128)
      · exact Or.inr (Or.inr (Or.inr (Or.inl (hx h))))
      · exact Or.inr (Or.inr (Or.inr (Or.inr h)))
    have hitems : ∀ (ys : List (PyStr × Json)) (d : Nat),
        (∀ y ∈ ys, s ∈ y.2.strings → ∀ d, c ∈ y.2.textIn rt l d) →
        s ∈ Json.stringsItems ys → c ∈ Json.itemsIn rt l d ys := by
      intro ys d
      induction ys with
      | nil => exact fun _ h => absurd h List.not_mem_nil
      | cons y ys ihy =>
        obtain ⟨k, x⟩ := y
        intro h hmem
        rw [Json.itemsIn]
        refine List.mem_cons_of_mem _ (List.mem_append_right _ (hitem
          (fun hx => h (k, x) List.mem_cons_self hx d) ?_))
        rcases List.mem_cons.mp hmem with hk | hmem
        · exact Or.inl hk
        · rcases List.mem_append.mp hmem with hx | hys
          · exact Or.inr (Or.inl hx)
          · exact Or.inr (Or.inr (ihy (fun z hz => h z (List.mem_cons_of_mem _ hz)) hys))
    cases kvs with
    | nil => exact absurd hs List.not_mem_nil
    | cons kv kvs =>
      obtain ⟨k, x⟩ := kv
      rw [Json.textIn]
      refine List.mem_cons_of_mem _ (List.mem_append_right _ (hitem
        (fun hx => ih (k, x) List.mem_cons_self hx _) ?_))
      rcases List.mem_cons.mp hs with hk | hmem
      · exact Or.inl hk
      · rcases List.mem_append.mp hmem with hx | hys
        · exact Or.inr (Or.inl hx)
        · exact Or.inr (Or.inr (hitems kvs _
            (fun y hy h => ih y (List.mem_cons_of_mem _ hy) h) hys))

end

end Py
