import Mathlib

/-!
# Python strings

A Python `str` is a sequence of code points, lone surrogates included, so it is a list of numbers
below `0x110000` and not a Lean `String`.

* `CodePoint`, `PyStr`   code points and strings; `py s` is the ASCII literal `s`;
* `isSpace`, `strip`, `split`, `joinWith`   the whitespace functions of `str`;
* `Ascii`, `Encodable`   all code points below 128; no surrogate (UTF-8 can encode it);
* `dollar re s`   `re.match` of a pattern that ends in `$`: `$` also matches before a final newline;
* `natText`, `intText`   decimal text.

Everything is executable.  `py_ofList` turns a literal into its list of code points, so that
`decide` never has to decode one.
-/

namespace Py

/-- A code point of a Python string: `0 ≤ c < 0x110000`. -/
abbrev CodePoint := Fin 0x110000

instance codePoints_neZero : NeZero 0x110000 := ⟨by decide⟩

abbrev PyStr := List CodePoint

instance codePoint_lawfulBEq : LawfulBEq CodePoint := inferInstance

instance pyStr_lawfulBEq : LawfulBEq PyStr := inferInstance

instance pyStrPair_lawfulBEq : LawfulBEq (PyStr × PyStr) := inferInstance

theorem char_lt (c : Char) : c.toNat < 0x110000 := by
  rcases c.valid with h | ⟨_, h⟩
  · exact lt_trans h (by norm_num)
  · exact h

def CodePoint.ofChar (c : Char) : CodePoint := ⟨c.toNat, char_lt c⟩

theorem CodePoint.ofChar_injective : Function.Injective CodePoint.ofChar := by
  intro a b h
  exact Char.toNat_inj.mp (Fin.mk.inj h)

def py (s : String) : PyStr := s.toList.map CodePoint.ofChar

theorem py_ofList (l : List Char) : py (String.ofList l) = l.map CodePoint.ofChar := by
  unfold py
  rw [String.toList_ofList]

@[simp] theorem py_inj {a b : String} : py a = py b ↔ a = b := by
  constructor
  · intro h
    exact String.toList_injective (List.map_injective_iff.mpr CodePoint.ofChar_injective h)
  · intro h
    rw [h]

/-! ### ASCII and encodable strings -/

def Ascii (s : PyStr) : Prop := ∀ c ∈ s, c.val < 128

instance (s : PyStr) : Decidable (Ascii s) := List.decidableBAll _ _

theorem ascii_lit (l : List Char) (h : l.all (fun c => c.toNat < 128) = true) :
    Ascii (py (String.ofList l)) := by
  rw [py_ofList]
  intro c hc
  obtain ⟨d, hd, rfl⟩ := List.mem_map.mp hc
  exact of_decide_eq_true (List.all_eq_true.mp h d hd)

theorem py_append (a b : String) : py (a ++ b) = py a ++ py b := by
  unfold py
  rw [String.toList_append, List.map_append]

theorem Ascii.append {s t : PyStr} (hs : Ascii s) (ht : Ascii t) : Ascii (s ++ t) := by
  intro c hc
  rcases List.mem_append.mp hc with h | h
  · exact hs c h
  · exact ht c h

theorem Ascii.cons {c : CodePoint} {s : PyStr} (hc : c.val < 128) (hs : Ascii s) :
    Ascii (c :: s) := by
  intro d hd
  rcases List.mem_cons.mp hd with rfl | h
  · exact hc
  · exact hs d h

def isSurrogate (c : CodePoint) : Bool := 0xD800 ≤ c.val && c.val ≤ 0xDFFF

def Encodable (s : PyStr) : Prop := ∀ c ∈ s, isSurrogate c = false

instance (s : PyStr) : Decidable (Encodable s) := List.decidableBAll _ _

theorem Ascii.encodable {s : PyStr} (h : Ascii s) : Encodable s := by
  intro c hc
  have hlt := h c hc
  unfold isSurrogate
  simp only [Bool.and_eq_false_iff, decide_eq_false_iff_not]
  omega

theorem encodable_append {s t : PyStr} : Encodable (s ++ t) ↔ Encodable s ∧ Encodable t := by
  unfold Encodable
  simp only [List.mem_append, or_imp, forall_and]

/-! ### character classes -/

def isDigit (c : CodePoint) : Bool := 48 ≤ c.val && c.val ≤ 57
def isUpper (c : CodePoint) : Bool := 65 ≤ c.val && c.val ≤ 90
def isLower (c : CodePoint) : Bool := 97 ≤ c.val && c.val ≤ 122
def isAlnum (c : CodePoint) : Bool := isDigit c || isUpper c || isLower c
def isHex (c : CodePoint) : Bool := isDigit c || (97 ≤ c.val && c.val ≤ 102)

/-- Membership in a character class written out, such as the `._-` of `[A-Za-z0-9._-]`. -/
def oneOf (s : PyStr) (c : CodePoint) : Bool := s.contains c

def newline : CodePoint := 10

/-- `ord(ch) < 32 or ch == "\x7f"` -/
def isControl (c : CodePoint) : Bool := c.val < 32 || c.val == 127

/-- `str.isspace` of one character: the code points that `strip` and `split` drop. -/
def isSpace (c : CodePoint) : Bool :=
  (9 ≤ c.val && c.val ≤ 13) || (28 ≤ c.val && c.val ≤ 32) || c.val == 0x85 || c.val == 0xA0 ||
  c.val == 0x1680 || (0x2000 ≤ c.val && c.val ≤ 0x200A) || c.val == 0x2028 || c.val == 0x2029 ||
  c.val == 0x202F || c.val == 0x205F || c.val == 0x3000

/-! ### whitespace and pieces -/

def strip (s : PyStr) : PyStr := ((s.dropWhile isSpace).reverse.dropWhile isSpace).reverse

/-- `s.split()`: the maximal runs of non-space characters. -/
def split (s : PyStr) : List PyStr := (s.splitOnP isSpace).filter (fun w => !w.isEmpty)

/-- `sep.join(parts)` -/
def joinWith (sep : PyStr) (parts : List PyStr) : PyStr := sep.intercalate parts

/-- `s.replace(a, b)` for single characters. -/
def replaceChar (a b : CodePoint) (s : PyStr) : PyStr := s.map fun c => if c = a then b else c

theorem strip_eq_nil_iff (s : PyStr) : strip s = [] ↔ ∀ c ∈ s, isSpace c = true := by
  unfold strip
  rw [List.reverse_eq_nil_iff, List.dropWhile_eq_nil_iff]
  constructor
  · intro h
    have hd : s.dropWhile isSpace = [] := by
      by_contra hne
      obtain ⟨c, cs, hc⟩ := List.exists_cons_of_ne_nil hne
      have hhead := List.head_dropWhile_not isSpace hne
      have hin : (s.dropWhile isSpace).head hne ∈ (s.dropWhile isSpace).reverse :=
        List.mem_reverse.mpr (List.head_mem hne)
      rw [h _ hin] at hhead
      exact absurd hhead (by decide)
    exact fun c hc => (List.dropWhile_eq_nil_iff.mp hd) c hc
  · intro h c hc
    exact h c ((List.dropWhile_sublist _).subset (List.mem_reverse.mp hc))

/-! ### patterns -/

/-- `[first][rest]{0,bound}` over the whole string. -/
def tokenRe (first rest : CodePoint → Bool) (bound : Nat) : PyStr → Bool
  | [] => false
  | c :: cs => first c && cs.all rest && decide (cs.length ≤ bound)

/-- `[first][rest]*` over the whole string. -/
def wordRe (first rest : CodePoint → Bool) : PyStr → Bool
  | [] => false
  | c :: cs => first c && cs.all rest

/-- `[cls]{n}` over the whole string. -/
def exactRe (cls : CodePoint → Bool) (n : Nat) (s : PyStr) : Bool :=
  s.all cls && decide (s.length = n)

/-- `re.match` of a pattern that ends in `$`: the end, or just before a final newline. -/
def dollar (re : PyStr → Bool) (s : PyStr) : Bool :=
  re s || (s.getLast? == some newline && re s.dropLast)

theorem dollar_of_no_newline {re : PyStr → Bool} {s : PyStr} (h : newline ∉ s) :
    dollar re s = re s := by
  unfold dollar
  have hlast : (s.getLast? == some newline) = false := by
    rw [beq_eq_false_iff_ne]
    intro he
    exact h (List.mem_of_getLast? he)
  rw [hlast, Bool.false_and, Bool.or_false]

theorem tokenRe_all {first rest : CodePoint → Bool} {bound : Nat} {s : PyStr}
    (h : tokenRe first rest bound s = true) : ∀ c ∈ s, first c = true ∨ rest c = true := by
  cases s with
  | nil => intro c hc; exact absurd hc List.not_mem_nil
  | cons a cs =>
    simp only [tokenRe, Bool.and_eq_true, List.all_eq_true] at h
    intro c hc
    rcases List.mem_cons.mp hc with rfl | hc'
    · exact Or.inl h.1.1
    · exact Or.inr (h.1.2 c hc')

theorem tokenRe_ne_nil {first rest : CodePoint → Bool} {bound : Nat} {s : PyStr}
    (h : tokenRe first rest bound s = true) : s ≠ [] := by
  rintro rfl
  exact absurd h (by simp [tokenRe])

theorem exactRe_all {cls : CodePoint → Bool} {n : Nat} {s : PyStr} (h : exactRe cls n s = true) :
    ∀ c ∈ s, cls c = true := by
  simp only [exactRe, Bool.and_eq_true, List.all_eq_true] at h
  exact h.1

theorem dollar_ascii {re : PyStr → Bool} (hre : ∀ t, re t = true → Ascii t) {s : PyStr}
    (h : dollar re s = true) : Ascii s := by
  unfold dollar at h
  rcases Bool.or_eq_true_iff.mp h with h1 | h1
  · exact hre s h1
  · obtain ⟨hl, hd⟩ := Bool.and_eq_true_iff.mp h1
    have e : s = s.dropLast ++ [newline] :=
      (List.dropLast_append_getLast? newline (by rw [beq_iff_eq] at hl; exact hl)).symm
    rw [e]
    exact (hre _ hd).append (Ascii.cons (by decide) (fun c hc => absurd hc List.not_mem_nil))

theorem isAlnum_lt {c : CodePoint} (h : isAlnum c = true) : c.val < 128 := by
  simp only [isAlnum, isDigit, isUpper, isLower, Bool.or_eq_true, Bool.and_eq_true,
    decide_eq_true_eq] at h
  omega

theorem isHex_lt {c : CodePoint} (h : isHex c = true) : c.val < 128 := by
  simp only [isHex, isDigit, Bool.or_eq_true, Bool.and_eq_true, decide_eq_true_eq] at h
  omega

/-! ### decimal and hexadecimal text -/

def natText (n : Nat) : PyStr := (Nat.toDigits 10 n).map CodePoint.ofChar

def intText (n : Int) : PyStr := if n < 0 then 45 :: natText n.natAbs else natText n.natAbs

theorem natText_digits (n : Nat) : ∀ c ∈ natText n, isDigit c = true := by
  intro c hc
  obtain ⟨d, hd, rfl⟩ := List.mem_map.mp hc
  have h := Nat.isDigit_of_mem_toDigits (by norm_num) (by norm_num) hd
  simp only [Char.isDigit, Bool.and_eq_true, decide_eq_true_eq] at h
  have h1 : 48 ≤ d.toNat := h.1
  have h2 : d.toNat ≤ 57 := h.2
  have e : (CodePoint.ofChar d).val = d.toNat := rfl
  unfold isDigit
  rw [e, decide_eq_true h1, decide_eq_true h2]
  rfl

theorem natText_ascii (n : Nat) : Ascii (natText n) := by
  intro c hc
  have h := natText_digits n c hc
  simp only [isDigit, Bool.and_eq_true, decide_eq_true_eq] at h
  omega

theorem natText_ne_nil (n : Nat) : natText n ≠ [] := by
  unfold natText
  rw [Ne, List.map_eq_nil_iff]
  exact Nat.toDigits_ne_nil

def hexDigit (n : Nat) : CodePoint := CodePoint.ofChar (Nat.digitChar n)

/-- The last `width` hexadecimal digits of `n`, in lower case. -/
def hexText : Nat → Nat → PyStr
  | 0, _ => []
  | width + 1, n => hexText width (n / 16) ++ [hexDigit (n % 16)]

theorem hexText_length (width n : Nat) : (hexText width n).length = width := by
  induction width generalizing n with
  | zero => rfl
  | succ width ih => rw [hexText, List.length_append, ih, List.length_singleton]

theorem isHex_hexDigit {n : Nat} (h : n < 16) : isHex (hexDigit n) = true := by
  interval_cases n <;> rfl

theorem hexText_isHex (width n : Nat) : ∀ c ∈ hexText width n, isHex c = true := by
  induction width generalizing n with
  | zero => intro c hc; exact absurd hc List.not_mem_nil
  | succ width ih =>
    intro c hc
    rw [hexText] at hc
    rcases List.mem_append.mp hc with h | h
    · exact ih (n / 16) c h
    · rw [List.mem_singleton.mp h]
      exact isHex_hexDigit (Nat.mod_lt n (by norm_num))

end Py
