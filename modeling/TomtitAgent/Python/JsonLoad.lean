import TomtitAgent.Python.Json

/-!
# `json.loads`

`loads rt s` is the tree `json.loads` reads from `s`, `none` where it raises a `ValueError` (a
syntax error, or an integer over the digit limit).  The grammar is the one of the C scanner:
`NaN` and `Infinity` are constants, a repeated key keeps its first place and its last value, two
`\u` escapes that form a surrogate pair give one character.

The fuel of `value` bounds the nesting and is the length of the text.
-/

namespace Py
namespace JsonLoad

/-! ### blanks and literals -/

def isBlank (c : CodePoint) : Bool := c == 32 || c == 9 || c == 10 || c == 13

def skip (s : PyStr) : PyStr := s.dropWhile isBlank

/-- The rest of `s` after `p`, if `s` starts with `p`. -/
def after : PyStr → PyStr → Option PyStr
  | [], s => some s
  | _ :: _, [] => none
  | p :: ps, c :: cs => if p = c then after ps cs else none

theorem after_append (p s : PyStr) : after p (p ++ s) = some s := by
  induction p with
  | nil => rfl
  | cons c p ih => rw [List.cons_append, after, if_pos rfl, ih]

/-! ### strings -/

def hexValue (c : CodePoint) : Option Nat :=
  if isDigit c then some (c.val - 48)
  else if 97 ≤ c.val ∧ c.val ≤ 102 then some (c.val - 87)
  else if 65 ≤ c.val ∧ c.val ≤ 70 then some (c.val - 55)
  else none

def hex4 (a b c d : CodePoint) : Option CodePoint := do
  let a ← hexValue a
  let b ← hexValue b
  let c ← hexValue c
  let d ← hexValue d
  return Fin.ofNat 0x110000 (((a * 16 + b) * 16 + c) * 16 + d)

def unescape (c : CodePoint) : Option CodePoint :=
  if c = 34 ∨ c = 92 ∨ c = 47 then some c
  else if c = 98 then some 8
  else if c = 102 then some 12
  else if c = 110 then some 10
  else if c = 114 then some 13
  else if c = 116 then some 9
  else none

/-- The characters up to the closing quote, each with the mark whether it was a `\u` escape. -/
def body : PyStr → Option (List (CodePoint × Bool) × PyStr)
  | [] => none
  | c :: cs =>
    if c = 34 then some ([], cs)
    else if c.val < 32 then none
    else if c ≠ 92 then (body cs).map fun r => ((c, false) :: r.1, r.2)
    else match cs with
      | [] => none
      | e :: cs' =>
        if e = 117 then match cs' with
          | h1 :: h2 :: h3 :: h4 :: rest => do
            let x ← hex4 h1 h2 h3 h4
            let r ← body rest
            return ((x, true) :: r.1, r.2)
          | _ => none
        else do
          let x ← unescape e
          let r ← body cs'
          return ((x, false) :: r.1, r.2)

/-- Two neighbouring `\u` escapes that form a surrogate pair are one character. -/
def pairUp : List (CodePoint × Bool) → PyStr
  | (hi, true) :: (lo, true) :: rest =>
    if 0xD800 ≤ hi.val ∧ hi.val ≤ 0xDBFF ∧ 0xDC00 ≤ lo.val ∧ lo.val ≤ 0xDFFF then
      Fin.ofNat 0x110000 (0x10000 + (hi.val - 0xD800) * 0x400 + (lo.val - 0xDC00)) :: pairUp rest
    else hi :: pairUp ((lo, true) :: rest)
  | (c, _) :: rest => c :: pairUp rest
  | [] => []

def string (s : PyStr) : Option (PyStr × PyStr) := (body s).map fun r => (pairUp r.1, r.2)

/-! ### numbers -/

def natOf (ds : PyStr) : Nat := ds.foldl (fun n c => n * 10 + (c.val - 48)) 0

def fraction (s : PyStr) : PyStr × PyStr :=
  match s with
  | 46 :: r => if (r.takeWhile isDigit).isEmpty then ([], s)
    else (46 :: r.takeWhile isDigit, r.dropWhile isDigit)
  | _ => ([], s)

def exponentSign : PyStr → PyStr × PyStr
  | 43 :: r => ([43], r)
  | 45 :: r => ([45], r)
  | r => ([], r)

def exponent (s : PyStr) : PyStr × PyStr :=
  match s with
  | e :: r =>
    if e = 101 ∨ e = 69 then
      let (sg, r') := exponentSign r
      if (r'.takeWhile isDigit).isEmpty then ([], s)
      else (e :: (sg ++ r'.takeWhile isDigit), r'.dropWhile isDigit)
    else ([], s)
  | [] => ([], [])

/-- `0`, or a run of digits that does not start with `0`. -/
def intPart : PyStr → Option (PyStr × PyStr)
  | [] => none
  | c :: cs =>
    if c = 48 then some ([48], cs)
    else if isDigit c then some (c :: cs.takeWhile isDigit, cs.dropWhile isDigit)
    else none

def numberSign : PyStr → PyStr × PyStr
  | 45 :: r => ([45], r)
  | r => ([], r)

section
variable (rt : Runtime)

def number (s : PyStr) : Option (Json × PyStr) := do
  let (sign, r0) := numberSign s
  let (ip, r1) ← intPart r0
  let (frac, r2) := fraction r1
  let (ex, r3) := exponent r2
  if frac.isEmpty ∧ ex.isEmpty then
    let n : Int := if sign.isEmpty then natOf ip else -natOf ip
    if intFits rt n then return (.int n, r3) else none
  else return (.float (rt.floatOf (sign ++ ip ++ frac ++ ex)), r3)

/-! ### values -/

def nan : PyFloat := ⟨0x7FF8000000000000⟩
def inf : PyFloat := ⟨0x7FF0000000000000⟩
def negInf : PyFloat := ⟨0xFFF0000000000000⟩

/-- `d[k] = v` -/
def dictSet (k : PyStr) (v : Json) : List (PyStr × Json) → List (PyStr × Json)
  | [] => [(k, v)]
  | (k', v') :: kvs => if k' = k then (k, v) :: kvs else (k', v') :: dictSet k v kvs

def dictOf (kvs : List (PyStr × Json)) : List (PyStr × Json) :=
  kvs.foldl (fun d kv => dictSet kv.1 kv.2 d) []

def scalar (s : PyStr) : Option (Json × PyStr) :=
  match after (py "null") s with
  | some r => some (.null, r)
  | none => match after (py "true") s with
    | some r => some (.bool true, r)
    | none => match after (py "false") s with
      | some r => some (.bool false, r)
      | none => match after (py "NaN") s with
        | some r => some (.float nan, r)
        | none => match after (py "Infinity") s with
          | some r => some (.float inf, r)
          | none => match after (py "-Infinity") s with
            | some r => some (.float negInf, r)
            | none => number rt s

mutual

def value : Nat → PyStr → Option (Json × PyStr)
  | 0, _ => none
  | n + 1, s => match s with
    | 34 :: cs => (string cs).map fun r => (.str r.1, r.2)
    | 91 :: cs => match skip cs with
      | 93 :: rest => some (.arr [], rest)
      | cs' => do
        let (x, r) ← value n cs'
        let (xs, r') ← elements n (skip r)
        return (.arr (x :: xs), r')
    | 123 :: cs => match skip cs with
      | 125 :: rest => some (.obj [], rest)
      | 34 :: cs' => do
        let (kv, r) ← item n cs'
        let (kvs, r') ← items n (skip r)
        return (.obj (dictOf (kv :: kvs)), r')
      | _ => none
    | s => scalar rt s

/-- The elements after the first, up to the closing bracket. -/
def elements : Nat → PyStr → Option (List Json × PyStr)
  | 0, _ => none
  | n + 1, s => match s with
    | 93 :: rest => some ([], rest)
    | 44 :: cs => do
      let (x, r) ← value n (skip cs)
      let (xs, r') ← elements n (skip r)
      return (x :: xs, r')
    | _ => none

/-- A key after its opening quote, the colon and the value. -/
def item : Nat → PyStr → Option ((PyStr × Json) × PyStr)
  | 0, _ => none
  | n + 1, s => do
    let (k, r) ← string s
    match skip r with
    | 58 :: cs => do
      let (x, r') ← value n (skip cs)
      return ((k, x), r')
    | _ => none

def items : Nat → PyStr → Option (List (PyStr × Json) × PyStr)
  | 0, _ => none
  | n + 1, s => match s with
    | 125 :: rest => some ([], rest)
    | 44 :: cs => match skip cs with
      | 34 :: cs' => do
        let (kv, r) ← item n cs'
        let (kvs, r') ← items n (skip r)
        return (kv :: kvs, r')
      | _ => none
    | _ => none

end

/-- The tree `json.loads(s)` builds. -/
def loads (s : PyStr) : Option Json :=
  match value rt (s.length + 1) (skip s) with
  | some (j, rest) => if (skip rest).isEmpty then some j else none
  | none => none

end

mutual

def toPy : Json → PyVal
  | .null => .none
  | .bool b => .bool b
  | .int n => .int n
  | .float x => .float x
  | .str s => .str s
  | .arr xs => .list (toPyList xs)
  | .obj kvs => .dict (toPyItems kvs)

def toPyList : List Json → List PyVal
  | [] => []
  | x :: xs => toPy x :: toPyList xs

def toPyItems : List (PyStr × Json) → List (PyVal × PyVal)
  | [] => []
  | (k, x) :: kvs => (.str k, toPy x) :: toPyItems kvs

end

theorem toPyItems_eq (kvs : List (PyStr × Json)) :
    toPyItems kvs = kvs.map fun kv => (.str kv.1, toPy kv.2) := by
  induction kvs with
  | nil => rfl
  | cons kv kvs ih => rw [toPyItems, ih, List.map_cons]

end JsonLoad
end Py
