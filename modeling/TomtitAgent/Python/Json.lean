import TomtitAgent.Python.Utf8
import TomtitAgent.Python.Order

/-!
# `json.dumps`

* `Json`       what the encoder accepts: null, booleans, integers, floats, strings, lists, objects
               with string keys;
* `sortKeys`   the tree with the items of every object sorted by key (`sort_keys=True`);
* `text`       the compact text, `separators=(",", ":")` and `ensure_ascii=False`;
* `dumps`      `text` of the sorted tree; an integer over the digit limit raises.

`Plain` trees have finite floats and distinct keys; `intsFit` and `encodable` are what the encoder
and UTF-8 need besides (`encodable_text`).
-/

namespace Py

inductive Json where
  | null
  | bool (b : Bool)
  | int (n : Int)
  | float (x : PyFloat)
  | str (s : PyStr)
  | arr (xs : List Json)
  | obj (kvs : List (PyStr × Json))

namespace Json

@[elab_as_elim]
theorem induct {P : Json → Prop} (null : P .null) (bool : ∀ b, P (.bool b))
    (int : ∀ n, P (.int n)) (float : ∀ x, P (.float x)) (str : ∀ s, P (.str s))
    (arr : ∀ xs, (∀ x ∈ xs, P x) → P (.arr xs))
    (obj : ∀ kvs, (∀ kv ∈ kvs, P kv.2) → P (.obj kvs)) (j : Json) : P j := by
  refine Json.rec (motive_1 := P) (motive_2 := fun xs => ∀ x ∈ xs, P x)
    (motive_3 := fun kvs => ∀ kv ∈ kvs, P kv.2) (motive_4 := fun kv => P kv.2)
    null bool int float str arr obj ?_ ?_ ?_ ?_ (fun _ _ h => h) j
  · intro x hx; exact absurd hx List.not_mem_nil
  · intro x xs hx hxs y hy
    rcases List.mem_cons.mp hy with rfl | h
    · exact hx
    · exact hxs y h
  · intro x hx; exact absurd hx List.not_mem_nil
  · intro kv kvs hkv hkvs y hy
    rcases List.mem_cons.mp hy with rfl | h
    · exact hkv
    · exact hkvs y h

/-- Finite floats and distinct keys throughout. -/
inductive Plain : Json → Prop
  | null : Plain .null
  | bool (b : Bool) : Plain (.bool b)
  | int (n : Int) : Plain (.int n)
  | float {x : PyFloat} (hx : x.isFinite = true) : Plain (.float x)
  | str (s : PyStr) : Plain (.str s)
  | arr {xs : List Json} (h : ∀ x ∈ xs, Plain x) : Plain (.arr xs)
  | obj {kvs : List (PyStr × Json)} (hk : (kvs.map Prod.fst).Nodup)
      (h : ∀ kv ∈ kvs, Plain kv.2) : Plain (.obj kvs)

/-! ### sorted keys -/

mutual

def sortKeys : Json → Json
  | .arr xs => .arr (sortKeysList xs)
  | .obj kvs => .obj (sortItems (sortKeysItems kvs))
  | j => j

def sortKeysList : List Json → List Json
  | [] => []
  | x :: xs => sortKeys x :: sortKeysList xs

def sortKeysItems : List (PyStr × Json) → List (PyStr × Json)
  | [] => []
  | (k, x) :: kvs => (k, sortKeys x) :: sortKeysItems kvs

end

theorem sortKeysList_eq (xs : List Json) : sortKeysList xs = xs.map sortKeys := by
  induction xs with
  | nil => rfl
  | cons x xs ih => rw [sortKeysList, ih, List.map_cons]

theorem sortKeysItems_eq (kvs : List (PyStr × Json)) :
    sortKeysItems kvs = kvs.map fun kv => (kv.1, sortKeys kv.2) := by
  induction kvs with
  | nil => rfl
  | cons kv kvs ih => rw [sortKeysItems, ih, List.map_cons]

/-! ### text -/

def escape (c : CodePoint) : PyStr :=
  if c = 34 then [92, 34]
  else if c = 92 then [92, 92]
  else if c = 8 then [92, 98]
  else if c = 9 then [92, 116]
  else if c = 10 then [92, 110]
  else if c = 12 then [92, 102]
  else if c = 13 then [92, 114]
  else if c.val < 32 then 92 :: 117 :: hexText 4 c.val
  else [c]

def quoted (s : PyStr) : PyStr := 34 :: (s.flatMap escape ++ [34])

section
variable (rt : Runtime)

mutual

/-- The compact text of a tree, keys in the order of the tree. -/
def text : Json → PyStr
  | .null => py "null"
  | .bool b => if b then py "true" else py "false"
  | .int n => intText n
  | .float x => rt.floatRepr x
  | .str s => quoted s
  | .arr [] => [91, 93]
  | .arr (x :: xs) => 91 :: (text x ++ textElems xs)
  | .obj [] => [123, 125]
  | .obj ((k, x) :: kvs) => 123 :: (quoted k ++ 58 :: (text x ++ textItems kvs))

/-- The elements after the first, with the closing bracket. -/
def textElems : List Json → PyStr
  | [] => [93]
  | x :: xs => 44 :: (text x ++ textElems xs)

def textItems : List (PyStr × Json) → PyStr
  | [] => [125]
  | (k, x) :: kvs => 44 :: (quoted k ++ 58 :: (text x ++ textItems kvs))

end

mutual

/-- Every integer of the tree can be written. -/
def intsFit : Json → Bool
  | .int n => intFits rt n
  | .arr xs => intsFitList xs
  | .obj kvs => intsFitItems kvs
  | _ => true

def intsFitList : List Json → Bool
  | [] => true
  | x :: xs => intsFit x && intsFitList xs

def intsFitItems : List (PyStr × Json) → Bool
  | [] => true
  | (_, x) :: kvs => intsFit x && intsFitItems kvs

end

theorem intsFitList_iff {xs : List Json} :
    intsFitList rt xs = true ↔ ∀ x ∈ xs, intsFit rt x = true := by
  induction xs with
  | nil => simp [intsFitList]
  | cons x xs ih => rw [intsFitList, Bool.and_eq_true, ih, List.forall_mem_cons]

theorem intsFitItems_iff {kvs : List (PyStr × Json)} :
    intsFitItems rt kvs = true ↔ ∀ kv ∈ kvs, intsFit rt kv.2 = true := by
  induction kvs with
  | nil => simp [intsFitItems]
  | cons kv kvs ih => rw [intsFitItems, Bool.and_eq_true, ih, List.forall_mem_cons]

/-- `json.dumps(j, ensure_ascii=False, sort_keys=True, separators=(",", ":"), allow_nan=False)`
of a tree without NaN and infinities. -/
def dumps (j : Json) : Except PyExc PyStr :=
  if intsFit rt j then .ok (text rt (sortKeys j)) else .error (intTooLong rt)

end

/-! ### encodable trees -/

mutual

def encodable : Json → Bool
  | .str s => decide (Encodable s)
  | .arr xs => encodableList xs
  | .obj kvs => encodableItems kvs
  | _ => true

def encodableList : List Json → Bool
  | [] => true
  | x :: xs => encodable x && encodableList xs

def encodableItems : List (PyStr × Json) → Bool
  | [] => true
  | (k, x) :: kvs => decide (Encodable k) && encodable x && encodableItems kvs

end

theorem encodableItems_iff {kvs : List (PyStr × Json)} :
    encodableItems kvs = true ↔ ∀ kv ∈ kvs, Encodable kv.1 ∧ encodable kv.2 = true := by
  induction kvs with
  | nil => simp [encodableItems]
  | cons kv kvs ih =>
    rw [encodableItems, Bool.and_eq_true, Bool.and_eq_true, decide_eq_true_eq, ih,
      List.forall_mem_cons]

/-! ### encodable texts -/

theorem encodable_cons {c : CodePoint} {s : PyStr} :
    Encodable (c :: s) ↔ isSurrogate c = false ∧ Encodable s := List.forall_mem_cons

theorem encodable_escape (c : CodePoint) : Encodable (escape c) ↔ isSurrogate c = false := by
  by_cases hc : c.val < 128
  · have hs : isSurrogate c = false :=
      Ascii.encodable (s := [c]) (Ascii.cons hc (fun d hd => absurd hd List.not_mem_nil)) c
        List.mem_cons_self
    refine ⟨fun _ => hs, fun _ => Ascii.encodable ?_⟩
    have hu : Ascii (92 :: 117 :: hexText 4 c.val) := Ascii.cons (by decide)
      (Ascii.cons (by decide) fun d hd => isHex_lt (hexText_isHex 4 _ d hd))
    have h1 : Ascii [c] := Ascii.cons hc fun d hd => absurd hd List.not_mem_nil
    unfold escape
    split_ifs <;> first | decide | assumption
  · have hne : ∀ d : CodePoint, d.val < 128 → c ≠ d := by
      rintro d hd rfl
      exact hc hd
    have he : escape c = [c] := by
      unfold escape
      rw [if_neg (hne _ (by decide)), if_neg (hne _ (by decide)), if_neg (hne _ (by decide)),
        if_neg (hne _ (by decide)), if_neg (hne _ (by decide)), if_neg (hne _ (by decide)),
        if_neg (hne _ (by decide)), if_neg (by omega)]
    rw [he, encodable_cons]
    exact ⟨fun h => h.1, fun h => ⟨h, fun d hd => absurd hd List.not_mem_nil⟩⟩

theorem encodable_quoted (s : PyStr) : Encodable (quoted s) ↔ Encodable s := by
  have hbody : Encodable (s.flatMap escape) ↔ Encodable s := by
    induction s with
    | nil => exact Iff.rfl
    | cons c s ih => rw [List.flatMap_cons, encodable_append, encodable_escape, ih, encodable_cons]
  unfold quoted
  rw [encodable_cons, encodable_append, hbody]
  exact ⟨fun h => h.2.1, fun h => ⟨by decide, h, by decide⟩⟩

theorem intText_ascii (n : Int) : Ascii (intText n) := by
  unfold intText
  split
  · exact Ascii.cons (by decide) (natText_ascii _)
  · exact natText_ascii _

section
variable (rt : Runtime)

theorem floatRepr_ascii {x : PyFloat} (hx : x.isFinite = true) : Ascii (rt.floatRepr x) := by
  have hd : ∀ {c : CodePoint}, isDigit c = true → c.val < 128 := fun h => by
    simp only [isDigit, Bool.and_eq_true, decide_eq_true_eq] at h
    omega
  obtain ⟨sign, ip, frac, ex, ht, hs, hip, hfrac, hex, _⟩ := (rt.float_lexeme x hx).parts
  rw [ht]
  refine Ascii.append ?_ (Ascii.append ?_ (Ascii.append ?_ ?_))
  · rcases hs with rfl | rfl <;> decide
  · rcases hip with rfl | ⟨c, cs, rfl, h1, _, h3⟩
    · decide
    · exact Ascii.cons (hd h1) fun d hd' => hd (h3 d hd')
  · rcases hfrac with rfl | ⟨ds, hds, rfl⟩
    · decide
    · exact Ascii.cons (by decide) fun d hd' => hd (hds.2 d hd')
  · rcases hex with rfl | ⟨e, sg, ds, he, hsg, hds, rfl⟩
    · decide
    · refine Ascii.cons (by rcases he with rfl | rfl <;> decide) (Ascii.append ?_ fun d hd' => hd (hds.2 d hd'))
      rcases hsg with rfl | rfl | rfl <;> decide

/-- The text of a tree is encodable exactly when its strings and keys are. -/
theorem encodable_text {j : Json} (hp : j.Plain) :
    Encodable (j.text rt) ↔ j.encodable = true := by
  have lit : ∀ {t : PyStr}, Ascii t → (Encodable t ↔ True) := fun h => iff_true_intro h.encodable
  induction j using Json.induct with
  | null => exact (lit (ascii_lit _ (by decide))).trans (by simp [encodable])
  | bool b =>
    cases b
    · exact (lit (ascii_lit _ (by decide))).trans (by simp [encodable])
    · exact (lit (ascii_lit _ (by decide))).trans (by simp [encodable])
  | int n => exact (lit (intText_ascii n)).trans (by simp [encodable])
  | float x =>
    cases hp with
    | float hx => exact (lit (floatRepr_ascii rt hx)).trans (by simp [encodable])
  | str s => rw [text, encodable_quoted, encodable, decide_eq_true_eq]
  | arr xs ih =>
    cases hp with
    | arr hall =>
      have tail : ∀ ys : List Json, (∀ y ∈ ys, Encodable (y.text rt) ↔ y.encodable = true) →
          (Encodable (textElems rt ys) ↔ encodableList ys = true) := by
        intro ys
        induction ys with
        | nil => intro _; exact iff_of_true (by rw [textElems]; decide) rfl
        | cons y ys ihy =>
          intro h
          rw [textElems, encodable_cons, encodable_append, h y List.mem_cons_self,
            ihy fun z hz => h z (List.mem_cons_of_mem y hz), encodableList, Bool.and_eq_true]
          exact and_iff_right (by decide)
      have h := fun y hy => ih y hy (hall y hy)
      rw [encodable]
      cases xs with
      | nil => exact iff_of_true (by rw [text]; decide) rfl
      | cons x xs =>
        have h' := tail (x :: xs) h
        rw [textElems, encodable_cons] at h'
        rw [text, encodable_cons, ← h']
        exact and_congr_left fun _ => by decide
  | obj kvs ih =>
    cases hp with
    | obj hk hall =>
      have tail : ∀ ys : List (PyStr × Json),
          (∀ y ∈ ys, Encodable (y.2.text rt) ↔ y.2.encodable = true) →
          (Encodable (textItems rt ys) ↔ encodableItems ys = true) := by
        intro ys
        induction ys with
        | nil => intro _; exact iff_of_true (by rw [textItems]; decide) rfl
        | cons y ys ihy =>
          obtain ⟨k, x⟩ := y
          intro h
          have hx : Encodable (x.text rt) ↔ x.encodable = true := h (k, x) List.mem_cons_self
          rw [textItems, encodable_cons, encodable_append, encodable_cons, encodable_append,
            encodable_quoted, hx, ihy fun z hz => h z (List.mem_cons_of_mem _ hz), encodableItems,
            Bool.and_eq_true, Bool.and_eq_true, decide_eq_true_eq]
          have e1 : isSurrogate 44 = false := by decide
          have e2 : isSurrogate 58 = false := by decide
          tauto
      have h := fun y hy => ih y hy (hall y hy)
      rw [encodable]
      cases kvs with
      | nil => exact iff_of_true (by rw [text]; decide) rfl
      | cons kv kvs =>
        obtain ⟨k, x⟩ := kv
        have h' := tail ((k, x) :: kvs) h
        rw [textItems, encodable_cons] at h'
        rw [text, encodable_cons, ← h']
        exact and_congr_left fun _ => by decide

end

/-! ### sorting keeps a tree plain, writable and encodable -/

theorem intsFit_sortKeys (rt : Runtime) (j : Json) :
    j.sortKeys.intsFit rt = j.intsFit rt := by
  induction j using Json.induct with
  | arr xs ih =>
    rw [sortKeys, intsFit, intsFit, Bool.eq_iff_iff, intsFitList_iff, intsFitList_iff,
      sortKeysList_eq, List.forall_mem_map]
    exact forall₂_congr fun x hx => by rw [ih x hx]
  | obj kvs ih =>
    rw [sortKeys, intsFit, intsFit, Bool.eq_iff_iff, intsFitItems_iff, intsFitItems_iff]
    simp only [(sortItems_perm_self _).mem_iff]
    rw [sortKeysItems_eq, List.forall_mem_map]
    exact forall₂_congr fun kv hkv => by rw [ih kv hkv]
  | _ => rfl

end Json
end Py
