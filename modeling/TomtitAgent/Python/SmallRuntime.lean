import TomtitAgent.Python.JsonRoundTrip

/-!
# A concrete runtime

`small limit` is a `Runtime` to evaluate the model with: the tables of `unicodedata` cut down to
ASCII, the Arabic-Indic digits and the letter `é`, which is written `é` or `e` and U+0301.

* `compose`   NFC over this alphabet: every `e` before U+0301 becomes `é`;
* `bitsText`  a text for each finite float that reads back as the same datum.

It shows that the facts `Runtime` asks for hold together.
-/

namespace Py

/-- NFC where the only composite is `é`. -/
def compose : PyStr → PyStr
  | c :: d :: rest =>
    if c = 0x65 ∧ d = 0x301 then 0xE9 :: compose rest else c :: compose (d :: rest)
  | s => s

theorem compose_cons {c : CodePoint} {s : PyStr} (h : c ≠ 0x65 ∨ ∀ t, s ≠ 0x301 :: t) :
    compose (c :: s) = c :: compose s := by
  cases s with
  | nil => rfl
  | cons d s =>
    rw [compose, if_neg]
    rintro ⟨hc, hd⟩
    rcases h with h | h
    · exact h hc
    · exact h s (by rw [hd])

theorem compose_head {s t : PyStr} (h : compose s = 0x301 :: t) : ∃ t', s = 0x301 :: t' := by
  cases s with
  | nil => exact absurd h (by simp [compose])
  | cons c s =>
    cases s with
    | nil => exact ⟨[], by rw [← (List.cons.inj h).1]⟩
    | cons d s =>
      rw [compose] at h
      split at h
      · exact absurd (List.cons.inj h).1 (by decide)
      · exact ⟨d :: s, by rw [(List.cons.inj h).1]⟩

theorem compose_idem (s : PyStr) : compose (compose s) = compose s := by
  induction s using compose.induct with
  | case1 c d rest h ih =>
    rw [compose, if_pos h, compose_cons (Or.inl (by decide)), ih]
  | case2 c d rest h ih =>
    rw [compose, if_neg h, compose_cons, ih]
    by_cases hc : c = 0x65
    · right
      intro t ht
      obtain ⟨t', ht'⟩ := compose_head ht
      exact h ⟨hc, (List.cons.inj ht').1⟩
    · exact Or.inl hc
  | case3 s h =>
    have e : compose s = s := by
      cases s with
      | nil => rfl
      | cons c s =>
        cases s with
        | nil => rfl
        | cons d s => exact absurd rfl (h c d s)
    rw [e, e]

theorem compose_eq_self {s : PyStr} (h : (0x301 : CodePoint) ∉ s) : compose s = s := by
  induction s with
  | nil => rfl
  | cons c s ih =>
    rw [List.mem_cons, not_or] at h
    rw [compose_cons, ih h.2]
    right
    rintro t rfl
    exact h.2 List.mem_cons_self

theorem compose_encodable (s : PyStr) : Encodable (compose s) ↔ Encodable s := by
  induction s using compose.induct with
  | case1 c d rest h ih =>
    obtain ⟨rfl, rfl⟩ := h
    rw [compose, if_pos ⟨rfl, rfl⟩, Json.encodable_cons, ih, Json.encodable_cons, Json.encodable_cons]
    exact ⟨fun h => ⟨by decide, by decide, h.2⟩, fun h => ⟨by decide, h.2.2⟩⟩
  | case2 c d rest h ih =>
    rw [compose, if_neg h, Json.encodable_cons, ih]
    exact Json.encodable_cons.symm
  | case3 s h =>
    have e : compose s = s := by
      cases s with
      | nil => rfl
      | cons c s =>
        cases s with
        | nil => rfl
        | cons d s => exact absurd rfl (h c d s)
    rw [e]

def smallDecimal (c : CodePoint) : Option Nat :=
  if isDigit c then some (c.val - 48)
  else if 0x660 ≤ c.val ∧ c.val ≤ 0x669 then some (c.val - 0x660)
  else none

/-- The bits of a float as a number with a fraction. -/
def bitsText (x : PyFloat) : PyStr := natText x.bits.toNat ++ py ".0"

def bitsOf (s : PyStr) : PyFloat := ⟨BitVec.ofNat 64 (JsonLoad.natOf (s.takeWhile isDigit))⟩

theorem bitsText_lexeme (x : PyFloat) : FloatLexeme (bitsText x) := by
  have h0 : py ".0" = 46 :: [48] := by rw [py_ofList]; rfl
  have hd : Digits1 [48] := ⟨by simp, fun c hc => by rw [List.mem_singleton.mp hc]; rfl⟩
  refine ⟨[], natText x.bits.toNat, 46 :: [48], [], ?_, Or.inl rfl, JsonLoad.intPart_natText _,
    Or.inr ⟨[48], hd, rfl⟩, Or.inl rfl, fun h => absurd h.1 (by simp)⟩
  rw [bitsText, h0, List.append_nil, List.nil_append]

theorem bitsOf_bitsText (x : PyFloat) : bitsOf (bitsText x) = x := by
  have h0 : py ".0" = 46 :: [48] := by rw [py_ofList]; rfl
  have hdot : ∀ c cs, (46 :: [48] : PyStr) = c :: cs → isDigit c = false := by
    rintro c cs ⟨⟩
    rfl
  have h := (JsonLoad.span_digits (natText_digits x.bits.toNat) hdot).1
  unfold bitsOf bitsText
  rw [h0, h, JsonLoad.natOf_natText, BitVec.ofNat_toNat, BitVec.setWidth_eq]

def small (maxStrDigits : Nat) : Runtime where
  nfc := compose
  decimal := smallDecimal
  printable c := 0xA1 ≤ c.val && c.val != 0xAD && !isSurrogate c
  floatRepr := bitsText
  floatOf := bitsOf
  intMaxStrDigits := maxStrDigits
  nfc_idem := compose_idem
  nfc_plain s h := by
    refine compose_eq_self fun hm => ?_
    rcases h _ hm with h | h
    · exact absurd h (by decide)
    · exact absurd h (by decide)
  nfc_encodable := compose_encodable
  decimal_ascii c h := by
    unfold smallDecimal
    split
    · rfl
    · rw [if_neg (by omega)]
  float_lexeme x _ := bitsText_lexeme x
  float_roundtrip x _ := bitsOf_bitsText x

/-! ### the text of one half and of one -/

def half : PyFloat := ⟨0x3FE0000000000000#64⟩
def one : PyFloat := ⟨0x3FF0000000000000#64⟩

def halvesText (x : PyFloat) : PyStr :=
  if x = half then py "0.5" else if x = one then py "1.0" else natText x.bits.toNat ++ py "e0"

def halvesOf (s : PyStr) : PyFloat :=
  if s = py "0.5" then half else if s = py "1.0" then one else bitsOf s

theorem halvesText_lexeme (x : PyFloat) : FloatLexeme (halvesText x) := by
  have hone : ∀ d : CodePoint, isDigit d = true → Digits1 [d] := fun d hd =>
    ⟨by simp, fun c hc => by rw [List.mem_singleton.mp hc]; exact hd⟩
  unfold halvesText
  by_cases h1 : x = half
  · rw [if_pos h1, py_ofList]
    exact ⟨[], [48], [46, 53], [], rfl, .inl rfl, .inl rfl, .inr ⟨[53], hone 53 rfl, rfl⟩, .inl rfl,
      fun h => absurd h.1 (by simp)⟩
  · rw [if_neg h1]
    by_cases h2 : x = one
    · rw [if_pos h2, py_ofList]
      exact ⟨[], [49], [46, 48], [], rfl, .inl rfl, .inr ⟨49, [], rfl, rfl, by decide, by simp⟩,
        .inr ⟨[48], hone 48 rfl, rfl⟩, .inl rfl, fun h => absurd h.1 (by simp)⟩
    · rw [if_neg h2]
      have he : py "e0" = 101 :: ([] ++ [48]) := by rw [py_ofList]; rfl
      refine ⟨[], natText x.bits.toNat, [], 101 :: ([] ++ [48]), ?_, .inl rfl, JsonLoad.intPart_natText _,
        .inl rfl, .inr ⟨101, [], [48], .inl rfl, .inl rfl, hone 48 rfl, rfl⟩, fun h => absurd h.2 (by simp)⟩
      rw [he]
      rfl

theorem halvesOf_halvesText (x : PyFloat) : halvesOf (halvesText x) = x := by
  have he : py "e0" = 101 :: [48] := by rw [py_ofList]; rfl
  unfold halvesText
  by_cases h1 : x = half
  · rw [if_pos h1, halvesOf, if_pos rfl, h1]
  · rw [if_neg h1]
    by_cases h2 : x = one
    · rw [if_pos h2, halvesOf, if_neg (by simp), if_pos rfl, h2]
    · have hne : ∀ s : String, (101 : CodePoint) ∉ py s → natText x.bits.toNat ++ py "e0" ≠ py s := by
        intro s hs e
        apply hs
        rw [← e, he]
        exact List.mem_append_right _ List.mem_cons_self
      rw [if_neg h2, halvesOf, if_neg (hne _ (by rw [py_ofList]; decide)),
        if_neg (hne _ (by rw [py_ofList]; decide))]
      have hstop : ∀ c cs, (101 :: [48] : PyStr) = c :: cs → isDigit c = false := by
        rintro c cs ⟨⟩
        rfl
      have h := (JsonLoad.span_digits (natText_digits x.bits.toNat) hstop).1
      unfold bitsOf
      rw [he, h, JsonLoad.natOf_natText, BitVec.ofNat_toNat, BitVec.setWidth_eq]

theorem tooLong_intFits (digits : Nat) (h : digits ≠ 0) :
    intFits (small digits) (10 ^ digits) = false := by
  unfold intFits small
  rw [Int.natAbs_pow, Bool.or_eq_false_iff, decide_eq_false_iff_not]
  exact ⟨beq_eq_false_iff_ne.mpr h, lt_irrefl _⟩

/-- `small` without a limit, where one half and one have the texts of Python. -/
def halves : Runtime :=
  { small 0 with
    floatRepr := halvesText
    floatOf := halvesOf
    float_lexeme := fun x _ => halvesText_lexeme x
    float_roundtrip := fun x _ => halvesOf_halvesText x }

instance : Inhabited Runtime := ⟨small 4300⟩

end Py
