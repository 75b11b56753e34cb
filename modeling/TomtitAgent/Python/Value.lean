import TomtitAgent.Python.Str

/-!
# Python values, exceptions and the interpreter facts the model takes as given

* `PyExc`     an exception: its class with the base classes, and the message;
* `PyFloat`   a binary64 datum, `PyVal` an arbitrary value: the built-in types exactly, enum
              members, and every other object as its type name, its `repr` and its attributes;
* `Runtime`   what is not computed here: `unicodedata` (NFC, decimal digits, printability), the
              text of floats and `sys.get_int_max_str_digits()`, with the documented facts the
              proofs use;
* `reprVal`   `repr(v)`, which raises on an integer too long for the digit limit;
* `RaisesOnly`   what a computation raises is of one class.

An instance of a subclass of a built-in type is an `obj`: it fails every `type(x) is T` test.
-/

namespace Py

/-- A raised exception: the class name followed by its base classes, and the message. -/
structure PyExc where
  mro : List String
  msg : PyStr

/-- `isinstance(e, cls)`, the test of an `except` clause. -/
def PyExc.isA (e : PyExc) (cls : String) : Bool := cls ∈ e.mro

def valueError (msg : PyStr) : PyExc := ⟨["ValueError"], msg⟩
def typeError (msg : PyStr) : PyExc := ⟨["TypeError"], msg⟩
def unicodeEncodeError (msg : PyStr) : PyExc :=
  ⟨["UnicodeEncodeError", "UnicodeError", "ValueError"], msg⟩
def unicodeDecodeError (msg : PyStr) : PyExc :=
  ⟨["UnicodeDecodeError", "UnicodeError", "ValueError"], msg⟩
def keyError (msg : PyStr) : PyExc := ⟨["KeyError", "LookupError"], msg⟩
def attributeError (msg : PyStr) : PyExc := ⟨["AttributeError"], msg⟩

/-- `if cond: raise e` -/
def raiseIf (cond : Prop) [Decidable cond] (e : PyExc) : Except PyExc Unit :=
  if cond then .error e else .ok ()

@[simp] theorem raiseIf_eq_ok {cond : Prop} [Decidable cond] {e : PyExc} {u : Unit} :
    raiseIf cond e = .ok u ↔ ¬ cond := by
  unfold raiseIf
  split
  · next h => exact ⟨fun h' => absurd h' (by simp), fun h' => absurd h h'⟩
  · next h => exact ⟨fun _ => h, fun _ => rfl⟩

theorem ok_bind {ε α β : Type} (a : α) (f : α → Except ε β) : (Except.ok a >>= f) = f a := rfl

@[simp] theorem bind_eq_ok {ε α β : Type} {x : Except ε α} {f : α → Except ε β} {b : β} :
    (x >>= f) = .ok b ↔ ∃ a, x = .ok a ∧ f a = .ok b := by
  cases x with
  | error e => exact ⟨fun h => absurd h (by simp [bind, Except.bind]), fun ⟨a, h, _⟩ => absurd h (by simp)⟩
  | ok a => exact ⟨fun h => ⟨a, rfl, h⟩, fun ⟨a', h, h'⟩ => by rw [Except.ok.inj h]; exact h'⟩

theorem exists_unit {P : Unit → Prop} : (∃ u, P u) ↔ P () := ⟨fun ⟨_, h⟩ => h, fun h => ⟨(), h⟩⟩

theorem raises_iff {ε α : Type} {x : Except ε α} : (∃ e, x = .error e) ↔ ¬ ∃ a, x = .ok a := by
  cases x with
  | error e => exact ⟨fun _ ⟨a, h⟩ => absurd h (by simp), fun _ => ⟨e, rfl⟩⟩
  | ok a => exact ⟨fun ⟨e, h⟩ => absurd h (by simp), fun h => absurd ⟨a, rfl⟩ h⟩

theorem mapM_ok {ε α β : Type} {f : α → Except ε β} {xs : List α} (h : ∀ x ∈ xs, ∃ y, f x = .ok y) :
    ∃ ys, xs.mapM f = .ok ys ∧ (∀ y ∈ ys, ∃ x ∈ xs, f x = .ok y) ∧ ∀ x ∈ xs, ∃ y ∈ ys, f x = .ok y := by
  induction xs with
  | nil => exact ⟨[], rfl, by simp, by simp⟩
  | cons x xs ih =>
    obtain ⟨y, hy⟩ := h x List.mem_cons_self
    obtain ⟨ys, hys, hback, hforth⟩ := ih fun z hz => h z (List.mem_cons_of_mem x hz)
    refine ⟨y :: ys, ?_, ?_, ?_⟩
    · rw [List.mapM_cons, hy, hys]
      rfl
    · rw [List.forall_mem_cons]
      refine ⟨⟨x, List.mem_cons_self, hy⟩, fun z hz => ?_⟩
      obtain ⟨w, hw, e⟩ := hback z hz
      exact ⟨w, List.mem_cons_of_mem x hw, e⟩
    · rw [List.forall_mem_cons]
      refine ⟨⟨y, List.mem_cons_self, hy⟩, fun z hz => ?_⟩
      obtain ⟨w, hw, e⟩ := hforth z hz
      exact ⟨w, List.mem_cons_of_mem y hw, e⟩

theorem forM_ok {ε α : Type} {f : α → Except ε Unit} {xs : List α} {u : Unit} :
    List.forM xs f = .ok u ↔ ∀ x ∈ xs, f x = .ok () := by
  induction xs with
  | nil => exact iff_of_true rfl fun _ h => absurd h List.not_mem_nil
  | cons x xs ih =>
    show (f x >>= fun _ => List.forM xs f) = .ok u ↔ _
    rw [bind_eq_ok, List.forall_mem_cons]
    constructor
    · rintro ⟨_, hx, hxs⟩
      exact ⟨hx, ih.mp hxs⟩
    · rintro ⟨hx, hxs⟩
      exact ⟨(), hx, ih.mpr hxs⟩

/-- Every exception that the computation can raise is of the class. -/
def RaisesOnly {α : Type} (cls : String) (x : Except PyExc α) : Prop :=
  ∀ e, x = .error e → e.isA cls = true

namespace RaisesOnly
variable {α β : Type} {cls : String}

theorem ok (a : α) : RaisesOnly cls (.ok a) := fun e h => absurd h (by simp)

theorem error {e : PyExc} (h : e.isA cls = true) : RaisesOnly cls (α := α) (.error e) := by
  intro e' he
  rw [← Except.error.inj he]
  exact h

theorem bind {x : Except PyExc α} {f : α → Except PyExc β} (hx : RaisesOnly cls x)
    (hf : ∀ a, RaisesOnly cls (f a)) : RaisesOnly cls (x >>= f) := by
  cases x with
  | error e => exact error (hx e rfl)
  | ok a => exact hf a

end RaisesOnly

/-- A `float`: the 64 bits of the datum. -/
structure PyFloat where
  bits : BitVec 64
deriving DecidableEq

namespace PyFloat

def exponent (x : PyFloat) : Nat := x.bits.toNat / 2^52 % 2^11
def mantissa (x : PyFloat) : Nat := x.bits.toNat % 2^52
def negative (x : PyFloat) : Bool := x.bits.msb
def isFinite (x : PyFloat) : Bool := x.exponent != 2047
def isNan (x : PyFloat) : Bool := !x.isFinite && x.mantissa != 0

end PyFloat

inductive PyVal where
  | none
  | bool (b : Bool)
  | int (n : Int)
  | float (x : PyFloat)
  | str (s : PyStr)
  | list (xs : List PyVal)
  | tuple (xs : List PyVal)
  | dict (kvs : List (PyVal × PyVal))
  /-- a member of an enum class; `isStr` when the class also derives from `str` -/
  | enum (cls name : PyStr) (isStr : Bool) (value : PyVal)
  /-- any other object -/
  | obj (cls repr : PyStr) (attrs : List (PyStr × PyVal))

namespace PyVal

@[elab_as_elim]
theorem induct {P : PyVal → Prop} (none : P .none) (bool : ∀ b, P (.bool b))
    (int : ∀ n, P (.int n)) (float : ∀ x, P (.float x)) (str : ∀ s, P (.str s))
    (list : ∀ xs, (∀ x ∈ xs, P x) → P (.list xs))
    (tuple : ∀ xs, (∀ x ∈ xs, P x) → P (.tuple xs))
    (dict : ∀ kvs, (∀ kv ∈ kvs, P kv.1 ∧ P kv.2) → P (.dict kvs))
    (enum : ∀ cls name isStr value, P value → P (.enum cls name isStr value))
    (obj : ∀ cls repr attrs, P (.obj cls repr attrs)) (v : PyVal) : P v := by
  refine PyVal.rec (motive_1 := P) (motive_2 := fun xs => ∀ x ∈ xs, P x)
    (motive_3 := fun kvs => ∀ kv ∈ kvs, P kv.1 ∧ P kv.2) (motive_4 := fun _ => True)
    (motive_5 := fun kv => P kv.1 ∧ P kv.2) (motive_6 := fun _ => True)
    none bool int float str list tuple dict enum (fun cls repr attrs _ => obj cls repr attrs)
    ?_ ?_ ?_ ?_ trivial (fun _ _ _ _ => trivial) (fun _ _ h1 h2 => ⟨h1, h2⟩)
    (fun _ _ _ => trivial) v
  · intro x hx; exact absurd hx List.not_mem_nil
  · intro x xs hx hxs y hy
    rcases List.mem_cons.mp hy with rfl | h
    · exact hx
    · exact hxs y h
  · intro x hx; exact absurd hx List.not_mem_nil
  · intro kv kvs hkv hkvs y hy
    rcases List.mem_cons.mp hy with rfl | h
    · exact hkv
    · exact hkvs y h

/-- `type(v).__name__` -/
def typeName : PyVal → PyStr
  | .none => py "NoneType"
  | .bool _ => py "bool"
  | .int _ => py "int"
  | .float _ => py "float"
  | .str _ => py "str"
  | .list _ => py "list"
  | .tuple _ => py "tuple"
  | .dict _ => py "dict"
  | .enum cls _ _ _ => cls
  | .obj cls _ _ => cls

/-- `getattr(v, name, None)` as far as it finds an attribute: built-in values have none of the
attributes the source asks for. -/
def getattr? (v : PyVal) (name : PyStr) : Option PyVal :=
  match v with
  | .obj _ _ attrs => attrs.lookup name
  | _ => Option.none

/-- The string a value is equal to under `==`, if any: strings and members of string enums. -/
def asStr : PyVal → Option PyStr
  | .str s => some s
  | .enum _ _ true (.str s) => some s
  | _ => Option.none

def record (fields : List (PyStr × PyVal)) : PyVal :=
  .dict (fields.map fun kv => (.str kv.1, kv.2))

/-- A `str | None` value. -/
def optStr : Option PyStr → PyVal
  | Option.none => .none
  | some s => .str s

/-- A list of strings, as `list(xs)` of a tuple of strings. -/
def strList (xs : List PyStr) : PyVal := .list (xs.map .str)

def strTuple (xs : List PyStr) : PyVal := .tuple (xs.map .str)

end PyVal

/-! ### number text of floats -/

def Digits1 (s : PyStr) : Prop := s ≠ [] ∧ ∀ c ∈ s, isDigit c = true

/-- The integer part of a JSON number: `0`, or digits that do not start with `0`. -/
def IntPart (s : PyStr) : Prop :=
  s = [48] ∨ ∃ c cs, s = c :: cs ∧ isDigit c = true ∧ c ≠ 48 ∧ ∀ d ∈ cs, isDigit d = true

/-- A JSON number with a fraction or an exponent: never the text of an integer. -/
structure FloatLexeme (s : PyStr) : Prop where
  parts : ∃ sign ip frac ex, s = sign ++ (ip ++ (frac ++ ex)) ∧ (sign = [] ∨ sign = [45]) ∧
    IntPart ip ∧ (frac = [] ∨ ∃ ds, Digits1 ds ∧ frac = 46 :: ds) ∧
    (ex = [] ∨ ∃ e sg ds, (e = 101 ∨ e = 69) ∧ (sg = [] ∨ sg = [43] ∨ sg = [45]) ∧ Digits1 ds ∧
      ex = e :: (sg ++ ds)) ∧ ¬ (frac = [] ∧ ex = [])

/-- The interpreter facts that are not computed here. -/
structure Runtime where
  /-- `unicodedata.normalize("NFC", s)` -/
  nfc : PyStr → PyStr
  /-- the value of a decimal digit (category `Nd`), the characters that `\d` matches -/
  decimal : CodePoint → Option Nat
  /-- `str.isprintable` of one character -/
  printable : CodePoint → Bool
  /-- `float.__repr__` and `float(text)` -/
  floatRepr : PyFloat → PyStr
  floatOf : PyStr → PyFloat
  /-- `sys.get_int_max_str_digits()`; `0` switches the limit off -/
  intMaxStrDigits : Nat
  nfc_idem : ∀ s, nfc (nfc s) = nfc s
  /-- ASCII characters and decimal digits have no canonical decomposition and never compose -/
  nfc_plain : ∀ s, (∀ c ∈ s, c.val < 128 ∨ (decimal c).isSome) → nfc s = s
  /-- normalisation neither makes nor removes a surrogate -/
  nfc_encodable : ∀ s, Encodable (nfc s) ↔ Encodable s
  decimal_ascii : ∀ c, c.val < 128 → decimal c = if isDigit c then some (c.val - 48) else none
  float_lexeme : ∀ x, x.isFinite = true → FloatLexeme (floatRepr x)
  float_roundtrip : ∀ x, x.isFinite = true → floatOf (floatRepr x) = x

section
variable (rt : Runtime)

theorem Runtime.nfc_ascii {s : PyStr} (h : Ascii s) : rt.nfc s = s :=
  rt.nfc_plain s fun c hc => Or.inl (h c hc)

/-- The integer has at most `sys.get_int_max_str_digits()` decimal digits. -/
def intFits (n : Int) : Bool :=
  rt.intMaxStrDigits == 0 || decide (n.natAbs < 10 ^ rt.intMaxStrDigits)

def intTooLong : PyExc :=
  valueError (py "Exceeds the limit (" ++ natText rt.intMaxStrDigits ++
    py (" digits) for integer string conversion; use " ++
      "sys.set_int_max_str_digits() to increase the limit"))

/-- `str(n)`, which is also `repr(n)`. -/
def strInt (n : Int) : Except PyExc PyStr :=
  if intFits rt n then .ok (intText n) else .error (intTooLong rt)

theorem intFits_zero : intFits rt 0 = true := by
  unfold intFits
  rw [Bool.or_eq_true, decide_eq_true_eq]
  exact Or.inr (Nat.pow_pos (by omega))

/-! ### repr -/

/-- One character inside `repr` of a string that is quoted with `quote`. -/
def reprChar (quote c : CodePoint) : PyStr :=
  if c = quote ∨ c = 92 then [92, c]
  else if c = 9 then py "\\t"
  else if c = 10 then py "\\n"
  else if c = 13 then py "\\r"
  else if isControl c then py "\\x" ++ hexText 2 c.val
  else if c.val < 128 ∨ rt.printable c then [c]
  else if c.val < 0x100 then py "\\x" ++ hexText 2 c.val
  else if c.val < 0x10000 then py "\\u" ++ hexText 4 c.val
  else py "\\U" ++ hexText 8 c.val

/-- `repr(s)`: single quotes unless the string has one and no double quote. -/
def reprStr (s : PyStr) : PyStr :=
  let quote : CodePoint := if (39 : CodePoint) ∈ s ∧ (34 : CodePoint) ∉ s then 34 else 39
  quote :: (s.flatMap (reprChar rt quote) ++ [quote])

/-- `repr` of a string or of `None`. -/
def reprOptStr : Option PyStr → PyStr
  | some text => reprStr rt text
  | none => py "None"

def reprFloat (x : PyFloat) : PyStr :=
  if x.isNan then py "nan"
  else if x.isFinite then rt.floatRepr x
  else if x.negative then py "-inf" else py "inf"

mutual

/-- `repr(v)` -/
def reprVal : PyVal → Except PyExc PyStr
  | .none => .ok (py "None")
  | .bool b => .ok (if b then py "True" else py "False")
  | .int n => strInt rt n
  | .float x => .ok (reprFloat rt x)
  | .str s => .ok (reprStr rt s)
  | .list xs => do
    let ts ← reprList xs
    return 91 :: (joinWith (py ", ") ts ++ [93])
  | .tuple xs => do
    let ts ← reprList xs
    return 40 :: (joinWith (py ", ") ts ++ if ts.length = 1 then [44, 41] else [41])
  | .dict kvs => do
    let ts ← reprItems kvs
    return 123 :: (joinWith (py ", ") ts ++ [125])
  | .enum cls name _ value => do
    let t ← reprVal value
    return 60 :: (cls ++ 46 :: (name ++ py ": " ++ t ++ [62]))
  | .obj _ repr _ => .ok repr

def reprList : List PyVal → Except PyExc (List PyStr)
  | [] => .ok []
  | x :: xs => do
    let t ← reprVal x
    let ts ← reprList xs
    return t :: ts

def reprItems : List (PyVal × PyVal) → Except PyExc (List PyStr)
  | [] => .ok []
  | (k, v) :: kvs => do
    let tk ← reprVal k
    let tv ← reprVal v
    let ts ← reprItems kvs
    return (tk ++ py ": " ++ tv) :: ts

end

theorem strInt_raises (n : Int) : RaisesOnly "ValueError" (strInt rt n) := by
  unfold strInt
  split_ifs
  · exact .ok _
  · exact .error rfl

theorem reprList_raises {xs : List PyVal} (ih : ∀ x ∈ xs, RaisesOnly "ValueError" (reprVal rt x)) :
    RaisesOnly "ValueError" (reprList rt xs) := by
  induction xs with
  | nil => exact .ok _
  | cons x xs ihx =>
    rw [reprList]
    exact (ih x List.mem_cons_self).bind fun _ =>
      (ihx fun y hy => ih y (List.mem_cons_of_mem x hy)).bind fun _ => .ok _

theorem reprItems_raises {kvs : List (PyVal × PyVal)}
    (ih : ∀ kv ∈ kvs, RaisesOnly "ValueError" (reprVal rt kv.1) ∧
      RaisesOnly "ValueError" (reprVal rt kv.2)) : RaisesOnly "ValueError" (reprItems rt kvs) := by
  induction kvs with
  | nil => exact .ok _
  | cons kv kvs ihk =>
    obtain ⟨hk, hv⟩ := ih kv List.mem_cons_self
    rw [reprItems]
    exact hk.bind fun _ => hv.bind fun _ =>
      (ihk fun y hy => ih y (List.mem_cons_of_mem kv hy)).bind fun _ => .ok _

theorem reprVal_raises (v : PyVal) : RaisesOnly "ValueError" (reprVal rt v) := by
  induction v using PyVal.induct with
  | none => exact .ok _
  | bool b => exact .ok _
  | int n => exact strInt_raises rt n
  | float x => exact .ok _
  | str s => exact .ok _
  | list xs ih =>
    rw [reprVal]
    exact (reprList_raises rt ih).bind fun _ => .ok _
  | tuple xs ih =>
    rw [reprVal]
    exact (reprList_raises rt ih).bind fun _ => .ok _
  | dict kvs ih =>
    rw [reprVal]
    exact (reprItems_raises rt ih).bind fun _ => .ok _
  | enum cls name isStr value ih =>
    rw [reprVal]
    exact ih.bind fun _ => .ok _
  | obj cls repr attrs => exact .ok _

/-- `str(v)`: the string itself, the value of a `StrEnum` member, the qualified name of another
enum member, else `repr`. -/
def strVal : PyVal → Except PyExc PyStr
  | .str s => .ok s
  | .enum _ _ true (.str s) => .ok s
  | .enum cls name _ _ => .ok (cls ++ 46 :: name)
  | v => reprVal rt v

end

end Py
