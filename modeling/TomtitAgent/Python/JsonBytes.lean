import TomtitAgent.Python.JsonRoundTrip

/-!
# `json.loads` of bytes

* `Encoding`, `detectEncoding`   `json.detect_encoding`;
* `decodePass`   `bytes.decode(encoding, "surrogatepass")`, `none` for a `UnicodeDecodeError`;
* `Scan`         the scanner of `JsonLoad` with its exceptions: a `JSONDecodeError`, or the plain
                 `ValueError` of an integer over the digit limit;
* `Scan.loads_toOption`   it reads what `JsonLoad.loads` reads;
* `loadsBytes`   the three together, and `loadsBytes_utf8`: the text of an object comes back from its UTF-8.

The texts of the decoder's exceptions are left out.
-/

namespace Py

/-! ### encodings -/

inductive Encoding | utf8 | utf8Sig | utf16 | utf16le | utf16be | utf32 | utf32le | utf32be
deriving DecidableEq

def detectByZeros : List UInt8 → Encoding
  | [a, b] => if a = 0 then .utf16be else if b = 0 then .utf16le else .utf8
  | a :: b :: c :: d :: _ =>
    if a = 0 then (if b ≠ 0 then .utf16be else .utf32be)
    else if b = 0 then (if c ≠ 0 ∨ d ≠ 0 then .utf16le else .utf32le)
    else .utf8
  | _ => .utf8

def detectEncoding (b : List UInt8) : Encoding :=
  if [0, 0, 0xFE, 0xFF].isPrefixOf b ∨ [0xFF, 0xFE, 0, 0].isPrefixOf b then .utf32
  else if [0xFE, 0xFF].isPrefixOf b ∨ [0xFF, 0xFE].isPrefixOf b then .utf16
  else if [0xEF, 0xBB, 0xBF].isPrefixOf b then .utf8Sig
  else detectByZeros b

def codePoint (n : Nat) : CodePoint := Fin.ofNat 0x110000 n

def isContinuation (b : UInt8) : Bool := 0x80 ≤ b.toNat && b.toNat < 0xC0

/-- UTF-8 with encoded surrogates; overlong forms and values over U+10FFFF are refused. -/
def utf8Pass : List UInt8 → Option PyStr
  | [] => some []
  | a :: rest =>
    if a.toNat < 0x80 then (utf8Pass rest).map (codePoint a.toNat :: ·)
    else match rest with
      | b :: rest2 =>
        if 0xC2 ≤ a.toNat ∧ a.toNat < 0xE0 ∧ isContinuation b then
          (utf8Pass rest2).map (codePoint ((a.toNat - 0xC0) * 64 + (b.toNat - 0x80)) :: ·)
        else match rest2 with
          | c :: rest3 =>
            let n := ((a.toNat - 0xE0) * 64 + (b.toNat - 0x80)) * 64 + (c.toNat - 0x80)
            if 0xE0 ≤ a.toNat ∧ a.toNat < 0xF0 ∧ isContinuation b ∧ isContinuation c ∧ 0x800 ≤ n then
              (utf8Pass rest3).map (codePoint n :: ·)
            else match rest3 with
              | d :: rest4 =>
                let n := (((a.toNat - 0xF0) * 64 + (b.toNat - 0x80)) * 64 + (c.toNat - 0x80)) * 64 +
                  (d.toNat - 0x80)
                if 0xF0 ≤ a.toNat ∧ a.toNat < 0xF5 ∧ isContinuation b ∧ isContinuation c ∧
                    isContinuation d ∧ 0x10000 ≤ n ∧ n < 0x110000 then
                  (utf8Pass rest4).map (codePoint n :: ·)
                else none
              | [] => none
          | [] => none
      | [] => none

/-- The units of two or of four bytes; `none` when bytes are left over. -/
def units16 (unit : UInt8 → UInt8 → Nat) : List UInt8 → Option (List Nat)
  | [] => some []
  | a :: b :: rest => (units16 unit rest).map (unit a b :: ·)
  | [_] => none

def units32 (unit : UInt8 → UInt8 → UInt8 → UInt8 → Nat) : List UInt8 → Option (List Nat)
  | [] => some []
  | a :: b :: c :: d :: rest => (units32 unit rest).map (unit a b c d :: ·)
  | _ => none

def little16 (a b : UInt8) : Nat := a.toNat + 256 * b.toNat
def big16 (a b : UInt8) : Nat := little16 b a
def little32 (a b c d : UInt8) : Nat := little16 a b + 65536 * little16 c d
def big32 (a b c d : UInt8) : Nat := little32 d c b a

def joinUnits : List Nat → PyStr
  | [] => []
  | [u] => [codePoint u]
  | u :: v :: rest =>
    if 0xD800 ≤ u ∧ u < 0xDC00 ∧ 0xDC00 ≤ v ∧ v < 0xE000 then
      codePoint (0x10000 + (u - 0xD800) * 0x400 + (v - 0xDC00)) :: joinUnits rest
    else codePoint u :: joinUnits (v :: rest)

def utf16Pass (unit : UInt8 → UInt8 → Nat) (b : List UInt8) : Option PyStr :=
  (units16 unit b).map joinUnits

def utf32Pass (unit : UInt8 → UInt8 → UInt8 → UInt8 → Nat) (b : List UInt8) : Option PyStr :=
  match units32 unit b with
  | none => none
  | some us => if us.all (· < 0x110000) then some (us.map codePoint) else none

/-- `b.decode(encoding, "surrogatepass")`; what is UTF-8 is read as such. -/
def decodePass (b : Bytes) : Encoding → Option PyStr
  | .utf8 => match decodeUtf8 b with
    | some s => some s
    | none => utf8Pass b.toList
  | .utf8Sig => utf8Pass (b.toList.drop 3)
  | .utf16le => utf16Pass little16 b.toList
  | .utf16be => utf16Pass big16 b.toList
  | .utf32le => utf32Pass little32 b.toList
  | .utf32be => utf32Pass big32 b.toList
  | .utf16 =>
    if [0xFE, 0xFF].isPrefixOf b.toList then utf16Pass big16 (b.toList.drop 2)
    else utf16Pass little16 (b.toList.drop 2)
  | .utf32 =>
    if [0, 0, 0xFE, 0xFF].isPrefixOf b.toList then utf32Pass big32 (b.toList.drop 4)
    else utf32Pass little32 (b.toList.drop 4)

/-! ### the scanner with its exceptions -/

def jsonDecodeError : PyExc := ⟨["JSONDecodeError", "ValueError"], []⟩

/-- The `ValueError` of `int(text)` for too many digits. -/
def intLiteralTooLong : PyExc := valueError (py "Exceeds the limit for integer string conversion")

def orDecodeError {α : Type} : Option α → Except PyExc α
  | some a => .ok a
  | none => .error jsonDecodeError

namespace Scan

section
variable (rt : Runtime)

def number (s : PyStr) : Except PyExc (Json × PyStr) := do
  let (sign, r0) := JsonLoad.numberSign s
  let (ip, r1) ← orDecodeError (JsonLoad.intPart r0)
  let (frac, r2) := JsonLoad.fraction r1
  let (ex, r3) := JsonLoad.exponent r2
  if frac.isEmpty ∧ ex.isEmpty then
    let n : Int := if sign.isEmpty then JsonLoad.natOf ip else -JsonLoad.natOf ip
    if intFits rt n then return (.int n, r3) else .error intLiteralTooLong
  else return (.float (rt.floatOf (sign ++ ip ++ frac ++ ex)), r3)

def scalar (s : PyStr) : Except PyExc (Json × PyStr) :=
  match JsonLoad.after (py "null") s with
  | some r => .ok (.null, r)
  | none => match JsonLoad.after (py "true") s with
    | some r => .ok (.bool true, r)
    | none => match JsonLoad.after (py "false") s with
      | some r => .ok (.bool false, r)
      | none => match JsonLoad.after (py "NaN") s with
        | some r => .ok (.float JsonLoad.nan, r)
        | none => match JsonLoad.after (py "Infinity") s with
          | some r => .ok (.float JsonLoad.inf, r)
          | none => match JsonLoad.after (py "-Infinity") s with
            | some r => .ok (.float JsonLoad.negInf, r)
            | none => number rt s

mutual

def value : Nat → PyStr → Except PyExc (Json × PyStr)
  | 0, _ => .error jsonDecodeError
  | n + 1, s => match s with
    | 34 :: cs => orDecodeError ((JsonLoad.string cs).map fun r => (.str r.1, r.2))
    | 91 :: cs => match JsonLoad.skip cs with
      | 93 :: rest => .ok (.arr [], rest)
      | cs' => do
        let (x, r) ← value n cs'
        let (xs, r') ← elements n (JsonLoad.skip r)
        return (.arr (x :: xs), r')
    | 123 :: cs => match JsonLoad.skip cs with
      | 125 :: rest => .ok (.obj [], rest)
      | 34 :: cs' => do
        let (kv, r) ← item n cs'
        let (kvs, r') ← items n (JsonLoad.skip r)
        return (.obj (JsonLoad.dictOf (kv :: kvs)), r')
      | _ => .error jsonDecodeError
    | s => scalar rt s

/-- The elements after the first, up to the closing bracket. -/
def elements : Nat → PyStr → Except PyExc (List Json × PyStr)
  | 0, _ => .error jsonDecodeError
  | n + 1, s => match s with
    | 93 :: rest => .ok ([], rest)
    | 44 :: cs => do
      let (x, r) ← value n (JsonLoad.skip cs)
      let (xs, r') ← elements n (JsonLoad.skip r)
      return (x :: xs, r')
    | _ => .error jsonDecodeError

/-- A key after its opening quote, the colon and the value. -/
def item : Nat → PyStr → Except PyExc ((PyStr × Json) × PyStr)
  | 0, _ => .error jsonDecodeError
  | n + 1, s => do
    let (k, r) ← orDecodeError (JsonLoad.string s)
    match JsonLoad.skip r with
    | 58 :: cs => do
      let (x, r') ← value n (JsonLoad.skip cs)
      return ((k, x), r')
    | _ => .error jsonDecodeError

def items : Nat → PyStr → Except PyExc (List (PyStr × Json) × PyStr)
  | 0, _ => .error jsonDecodeError
  | n + 1, s => match s with
    | 125 :: rest => .ok ([], rest)
    | 44 :: cs => match JsonLoad.skip cs with
      | 34 :: cs' => do
        let (kv, r) ← item n cs'
        let (kvs, r') ← items n (JsonLoad.skip r)
        return (kv :: kvs, r')
      | _ => .error jsonDecodeError
    | _ => .error jsonDecodeError

end

/-- `json.loads(s)` of a string. -/
def loads (s : PyStr) : Except PyExc Json :=
  match value rt (s.length + 1) (JsonLoad.skip s) with
  | .ok (j, rest) => if (JsonLoad.skip rest).isEmpty then .ok j else .error jsonDecodeError
  | .error e => .error e

/-! ### what is read -/

theorem orDecodeError_toOption {α : Type} (o : Option α) : (orDecodeError o).toOption = o := by
  cases o <;> rfl

theorem bind_toOption {α β : Type} {x : Except PyExc α} {f : α → Except PyExc β} {o : Option α}
    {g : α → Option β} (hx : x.toOption = o) (hf : ∀ a, (f a).toOption = g a) :
    (x >>= f).toOption = o.bind g := by
  rw [← hx]
  cases x with
  | ok a => exact hf a
  | error e => rfl

theorem number_toOption (s : PyStr) : (number rt s).toOption = JsonLoad.number rt s := by
  unfold number JsonLoad.number
  rcases JsonLoad.numberSign s with ⟨sign, r0⟩
  refine bind_toOption (orDecodeError_toOption _) fun ⟨ip, r1⟩ => ?_
  rcases JsonLoad.fraction r1 with ⟨frac, r2⟩
  rcases JsonLoad.exponent r2 with ⟨ex, r3⟩
  dsimp only
  split_ifs <;> rfl

theorem scalar_toOption (s : PyStr) : (scalar rt s).toOption = JsonLoad.scalar rt s := by
  unfold scalar JsonLoad.scalar
  rcases JsonLoad.after (py "null") s with _ | r
  · rcases JsonLoad.after (py "true") s with _ | r
    · rcases JsonLoad.after (py "false") s with _ | r
      · rcases JsonLoad.after (py "NaN") s with _ | r
        · rcases JsonLoad.after (py "Infinity") s with _ | r
          · rcases JsonLoad.after (py "-Infinity") s with _ | r
            · exact number_toOption rt s
            · rfl
          · rfl
        · rfl
      · rfl
    · rfl
  · rfl

theorem scan_toOption (n : Nat) :
    (∀ s, (value rt n s).toOption = JsonLoad.value rt n s) ∧
    (∀ s, (elements rt n s).toOption = JsonLoad.elements rt n s) ∧
    (∀ s, (item rt n s).toOption = JsonLoad.item rt n s) ∧
    (∀ s, (items rt n s).toOption = JsonLoad.items rt n s) := by
  induction n with
  | zero => exact ⟨fun _ => rfl, fun _ => rfl, fun _ => rfl, fun _ => rfl⟩
  | succ n ih =>
    obtain ⟨hvalue, helements, hitem, hitems⟩ := ih
    refine ⟨fun s => ?_, fun s => ?_, fun s => ?_, fun s => ?_⟩
    · unfold value
      dsimp only
      split
      · rw [JsonLoad.value]
        exact orDecodeError_toOption _
      · next cs =>
        split
        · next hskip => simp only [JsonLoad.value, hskip, Except.toOption]
        · simp only [JsonLoad.value]
          exact bind_toOption (hvalue _) fun xr => bind_toOption (helements _) fun _ => rfl
      · next cs =>
        split
        · next hskip => simp only [JsonLoad.value, hskip, Except.toOption]
        · next hskip =>
          simp only [JsonLoad.value, hskip]
          exact bind_toOption (hitem _) fun kr => bind_toOption (hitems _) fun _ => rfl
        · simp only [JsonLoad.value, Except.toOption]
      · rw [JsonLoad.value]
        · exact scalar_toOption rt s
        all_goals assumption
    · unfold elements
      dsimp only
      split
      · rfl
      · simp only [JsonLoad.elements]
        exact bind_toOption (hvalue _) fun xr => bind_toOption (helements _) fun _ => rfl
      · simp only [JsonLoad.elements, Except.toOption]
    · unfold item JsonLoad.item
      refine bind_toOption (orDecodeError_toOption _) fun kr => ?_
      dsimp only
      generalize JsonLoad.skip kr.2 = rest
      cases rest with
      | nil => rfl
      | cons c cs =>
        by_cases hcolon : c = 58
        · subst hcolon
          exact bind_toOption (hvalue _) fun _ => rfl
        · simp [hcolon, Except.toOption]
    · unfold items
      dsimp only
      split
      · rfl
      · next cs =>
        split
        · next hskip =>
          simp only [JsonLoad.items, hskip]
          exact bind_toOption (hitem _) fun kr => bind_toOption (hitems _) fun _ => rfl
        · simp only [JsonLoad.items, Except.toOption]
      · simp only [JsonLoad.items, Except.toOption]

theorem loads_toOption (s : PyStr) : (loads rt s).toOption = JsonLoad.loads rt s := by
  have h := (scan_toOption rt (s.length + 1)).1 (JsonLoad.skip s)
  unfold loads JsonLoad.loads
  rw [← h]
  cases value rt (s.length + 1) (JsonLoad.skip s) with
  | error e => rfl
  | ok r =>
    dsimp only [Except.toOption]
    split_ifs <;> rfl

theorem loads_ok_iff {s : PyStr} {j : Json} : loads rt s = .ok j ↔ JsonLoad.loads rt s = some j := by
  rw [← loads_toOption]
  cases loads rt s with
  | error e => exact iff_of_false (by simp) (by simp [Except.toOption])
  | ok j' => simp [Except.toOption]

end

end Scan

/-! ### bytes -/

section
variable (rt : Runtime)

/-- `json.loads(b)` -/
def loadsBytes (b : Bytes) : Except PyExc Json :=
  match decodePass b (detectEncoding b.toList) with
  | none => .error (unicodeDecodeError [])
  | some s => Scan.loads rt s

end

/-! ### UTF-8 -/

theorem toList_loop (b : Bytes) (n : Nat) : ∀ i r, b.size - i = n →
    ByteArray.toList.loop b i r = r.reverse ++ b.data.toList.drop i := by
  induction n with
  | zero =>
    intro i r hi
    rw [ByteArray.toList.loop, if_neg (by omega), List.drop_eq_nil_of_le, List.append_nil]
    show b.data.toList.length ≤ i
    rw [Array.length_toList]
    exact Nat.le_of_sub_eq_zero hi
  | succ n ih =>
    intro i r hi
    have hlt : i < b.data.toList.length := by
      rw [Array.length_toList]
      show i < b.size
      omega
    have hget : b.get! i = b.data.toList[i] := by
      show b.data[i]! = _
      rw [Array.getElem_toList]
      exact getElem!_pos b.data i _
    rw [ByteArray.toList.loop, if_pos (by omega), ih (i + 1) _ (by omega), List.reverse_cons,
      List.append_assoc, List.drop_eq_getElem_cons hlt, hget]
    rfl

theorem toList_eq (b : Bytes) : b.toList = b.data.toList := by
  unfold ByteArray.toList
  rw [toList_loop b _ 0 [] rfl]
  rfl

theorem detectEncoding_document (t : PyStr) :
    detectEncoding (utf8Bytes (123 :: 34 :: t)).toList = .utf8 := by
  have hbytes : (utf8Bytes (123 :: 34 :: t)).toList = 123 :: 34 :: (utf8Bytes t).toList := by
    rw [toList_eq, toList_eq]
    unfold utf8Bytes chars
    rw [List.data_toByteArray, List.data_toByteArray]
    rfl
  rw [hbytes]
  unfold detectEncoding
  rw [if_neg (by simp), if_neg (by simp), if_neg (by simp)]
  cases (utf8Bytes t).toList with
  | nil => rfl
  | cons c cs =>
    cases cs with
    | nil => rfl
    | cons d ds => rfl

theorem loadsBytes_utf8 {rt : Runtime} {t : PyStr} {data : Bytes} {j : Json}
    (hdata : encodeUtf8 (123 :: 34 :: t) = .ok data) (hload : JsonLoad.loads rt (123 :: 34 :: t) = some j) :
    loadsBytes rt data = .ok j := by
  have hdecode := decode_encode hdata
  have hbytes : data = utf8Bytes (123 :: 34 :: t) := by
    rw [encodeUtf8_of (encodeUtf8_ok_iff.mp ⟨data, hdata⟩)] at hdata
    exact (Except.ok.inj hdata).symm
  unfold loadsBytes
  rw [hbytes, detectEncoding_document, ← hbytes]
  unfold decodePass
  rw [hdecode]
  exact (Scan.loads_ok_iff rt).mpr hload

end Py
