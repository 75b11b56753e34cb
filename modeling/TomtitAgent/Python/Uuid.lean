import TomtitAgent.Python.Text

/-!
# `uuid.UUID`

* `int16`      `int(text, 16)`: blanks around the number, a sign, `0x`, single underscores, decimal
               digits of every script;
* `uuidOf`     the number of `uuid.UUID(text)`, `none` where it raises a `ValueError`;
* `uuidText`   `str(uuid.UUID(int=n))`;
* `canonicalUuid`   `str(uuid.UUID(text))`;
* `canonicalUuid_idem`   a canonical text is its own.
-/

namespace Py

section
variable (rt : Runtime)

/-- A character as `int` reads it: other blanks are a space, other decimal digits are ASCII digits. -/
def intChar (c : CodePoint) : CodePoint :=
  if c.val < 127 then c
  else if isSpace c then 32
  else match rt.decimal c with
    | some d => Fin.ofNat 0x110000 (48 + d)
    | none => 63

/-- The blanks of C's `isspace`. -/
def isCSpace (c : CodePoint) : Bool := (9 ≤ c.val && c.val ≤ 13) || c.val == 32

def hexVal (c : CodePoint) : Option Nat :=
  if isDigit c then some (c.val - 48)
  else if 97 ≤ c.val ∧ c.val ≤ 102 then some (c.val - 87)
  else if 65 ≤ c.val ∧ c.val ≤ 70 then some (c.val - 55)
  else none

/-- Digits with single underscores between them; `under` says that the last character was none. -/
def hexRun : Bool → Nat → PyStr → Option Nat
  | under, acc, [] => if under then none else some acc
  | under, acc, c :: cs =>
    if c = 95 then (if under then none else hexRun true acc cs)
    else match hexVal c with
      | some d => hexRun false (acc * 16 + d) cs
      | none => none

def hexNumber : PyStr → Option Nat
  | 48 :: x :: cs =>
    if x = 120 ∨ x = 88 then match cs with
      | 95 :: cs' => hexRun true 0 cs'
      | cs => hexRun true 0 cs
    else hexRun true 0 (48 :: x :: cs)
  | cs => hexRun true 0 cs

/-- `int(text, 16)` -/
def int16 (text : PyStr) : Option Int :=
  let s := text.map (intChar rt)
  match ((s.dropWhile isCSpace).reverse.dropWhile isCSpace).reverse with
  | 43 :: cs => (hexNumber cs).map Int.ofNat
  | 45 :: cs => (hexNumber cs).map fun n => -Int.ofNat n
  | cs => (hexNumber cs).map Int.ofNat

/-- `text.replace(old, "")` -/
def without (old text : PyStr) : PyStr := (splitSep old text).flatten

/-- The digits of `uuid.UUID(text)`. -/
def uuidDigits (text : PyStr) : PyStr :=
  let hex := without (py "uuid:") (without (py "urn:") text)
  let braces : PyStr := [123, 125]
  (rstripOf braces (hex.dropWhile (· ∈ braces))).filter fun c => c ≠ 45

/-- `uuid.UUID(text).int` -/
def uuidOf (text : PyStr) : Option Nat :=
  let hex := uuidDigits text
  if hex.length ≠ 32 then none
  else match int16 rt hex with
    | some (.ofNat n) => if n < 2 ^ 128 then some n else none
    | _ => none

/-- `str(uuid.UUID(int=n))` -/
def uuidText (n : Nat) : PyStr :=
  let hex := hexText 32 n
  hex.take 8 ++ 45 :: ((hex.drop 8).take 4 ++ 45 :: ((hex.drop 12).take 4 ++ 45 ::
    ((hex.drop 16).take 4 ++ 45 :: hex.drop 20)))

/-- `str(uuid.UUID(text))` -/
def canonicalUuid (text : PyStr) : Option PyStr := (uuidOf rt text).map uuidText

end

/-! ### the text of a number -/

theorem hexVal_hexDigit {n : Nat} (h : n < 16) : hexVal (hexDigit n) = some n := by
  interval_cases n <;> rfl

theorem hexRun_append (a b : PyStr) (under : Bool) (acc : Nat) :
    (∀ c ∈ a, c ≠ 95 ∧ (hexVal c).isSome) → a ≠ [] →
    hexRun under acc (a ++ b) = hexRun false (a.foldl (fun n c => n * 16 + (hexVal c).getD 0) acc) b := by
  induction a generalizing under acc with
  | nil => exact fun _ h => absurd rfl h
  | cons c a ih =>
    intro h _
    obtain ⟨⟨hc, hv⟩, ha⟩ := List.forall_mem_cons.mp h
    obtain ⟨d, hd⟩ := Option.isSome_iff_exists.mp hv
    rw [List.cons_append, hexRun, if_neg hc, hd, List.foldl_cons, hd, Option.getD_some]
    dsimp only
    by_cases hne : a = []
    · rw [hne]
      rfl
    · exact ih false _ ha hne

theorem hexDigit_ne {n : Nat} (h : n < 16) :
    hexDigit n ≠ 95 ∧ hexDigit n ≠ 45 ∧ hexDigit n ≠ 123 ∧ hexDigit n ≠ 125 ∧
      hexDigit n ≠ 117 ∧ hexDigit n ≠ 120 ∧ hexDigit n ≠ 88 ∧ hexDigit n ≠ 46 ∧
      isCSpace (hexDigit n) = false ∧ (hexDigit n).val < 127 ∧ hexDigit n ≠ 43 := by
  interval_cases n <;> decide

theorem mem_hexText {width n : Nat} {c : CodePoint} (h : c ∈ hexText width n) :
    ∃ d < 16, c = hexDigit d := by
  induction width generalizing n with
  | zero => exact absurd h List.not_mem_nil
  | succ width ih =>
    rw [hexText] at h
    rcases List.mem_append.mp h with h | h
    · exact ih h
    · exact ⟨n % 16, Nat.mod_lt n (by norm_num), List.mem_singleton.mp h⟩

theorem foldl_hexText (width n acc : Nat) :
    (hexText width n).foldl (fun m c => m * 16 + (hexVal c).getD 0) acc =
      acc * 16 ^ width + n % 16 ^ width := by
  induction width generalizing n with
  | zero => rw [hexText, List.foldl_nil, pow_zero, Nat.mod_one, mul_one, add_zero]
  | succ width ih =>
    rw [hexText, List.foldl_append, ih, List.foldl_cons, List.foldl_nil,
      hexVal_hexDigit (Nat.mod_lt n (by norm_num)), Option.getD_some]
    have hmod : n % 16 ^ (width + 1) = n / 16 % 16 ^ width * 16 + n % 16 := by
      rw [pow_succ', Nat.mod_mul]
      omega
    rw [hmod, pow_succ]
    ring

/-! ### characters that are not there -/

theorem splitSepFrom_absent {c : CodePoint} {old text cur : PyStr} (h : c ∉ text) :
    splitSepFrom (c :: old) 0 cur text = [cur.reverse ++ text] := by
  induction text generalizing cur with
  | nil => rw [splitSepFrom, List.append_nil]
  | cons d text ih =>
    obtain ⟨hd, ht⟩ := not_or.mp (List.mem_cons.not.mp h)
    have hpre : (c :: old).isPrefixOf (d :: text) = false := by
      rw [List.isPrefixOf, Bool.and_eq_false_iff]
      exact Or.inl (beq_false_of_ne hd)
    rw [splitSepFrom, if_neg (by rw [hpre]; simp), ih ht, List.reverse_cons, List.append_assoc]
    rfl

theorem without_absent {c : CodePoint} {old text : PyStr} (h : c ∉ text) :
    without (c :: old) text = text := by
  unfold without splitSep
  rw [splitSepFrom_absent h]
  exact List.append_nil text

theorem dropWhile_absent {p : CodePoint → Bool} {text : PyStr} (h : ∀ c ∈ text, p c = false) :
    text.dropWhile p = text := by
  cases text with
  | nil => rfl
  | cons c text => rw [List.dropWhile_cons, h c List.mem_cons_self]; rfl

theorem dropWhile_both_absent {p : CodePoint → Bool} {text : PyStr} (h : ∀ c ∈ text, p c = false) :
    ((text.dropWhile p).reverse.dropWhile p).reverse = text := by
  rw [dropWhile_absent h, dropWhile_absent fun c hc => h c (List.mem_reverse.mp hc),
    List.reverse_reverse]

/-! ### `str(uuid.UUID(...))` -/

theorem mem_uuidText {n : Nat} {c : CodePoint} (h : c ∈ uuidText n) :
    c = 45 ∨ ∃ d < 16, c = hexDigit d := by
  have hhex : ∀ c ∈ hexText 32 n, c = 45 ∨ ∃ d < 16, c = hexDigit d :=
    fun c hc => Or.inr (mem_hexText hc)
  unfold uuidText at h
  simp only [List.mem_append, List.mem_cons] at h
  rcases h with h | h | h | h | h | h | h | h | h
  · exact hhex c (List.mem_of_mem_take h)
  · exact Or.inl h
  · exact hhex c (List.mem_of_mem_drop (List.mem_of_mem_take h))
  · exact Or.inl h
  · exact hhex c (List.mem_of_mem_drop (List.mem_of_mem_take h))
  · exact Or.inl h
  · exact hhex c (List.mem_of_mem_drop (List.mem_of_mem_take h))
  · exact Or.inl h
  · exact hhex c (List.mem_of_mem_drop h)

theorem uuidText_absent {n : Nat} {c : CodePoint} (h45 : c ≠ 45) (hc : ∀ d < 16, hexDigit d ≠ c) :
    c ∉ uuidText n := by
  intro hm
  rcases mem_uuidText hm with h | ⟨d, hd, h⟩
  · exact h45 h
  · exact hc d hd h.symm

theorem uuidText_filter (n : Nat) : (uuidText n).filter (fun c => c ≠ 45) = hexText 32 n := by
  have hkeep : ∀ s : PyStr, (∀ c ∈ s, c ∈ hexText 32 n) → s.filter (fun c => c ≠ 45) = s := by
    intro s hs
    refine List.filter_eq_self.mpr fun c hc => ?_
    obtain ⟨d, hd, rfl⟩ := mem_hexText (hs c hc)
    exact decide_eq_true (hexDigit_ne hd).2.1
  have hmid : ∀ k, ((hexText 32 n).drop k).take 4 ++ (hexText 32 n).drop (k + 4) =
      (hexText 32 n).drop k := by
    intro k
    rw [← List.drop_drop, List.take_append_drop]
  unfold uuidText
  simp only [List.filter_append, List.filter_cons, ne_eq, not_true_eq_false, decide_false]
  rw [if_neg (by simp), if_neg (by simp), if_neg (by simp), if_neg (by simp),
    hkeep _ fun c h => List.mem_of_mem_take h,
    hkeep _ fun c h => List.mem_of_mem_drop (List.mem_of_mem_take h),
    hkeep _ fun c h => List.mem_of_mem_drop (List.mem_of_mem_take h),
    hkeep _ fun c h => List.mem_of_mem_drop (List.mem_of_mem_take h),
    hkeep _ fun c h => List.mem_of_mem_drop h, hmid 16, hmid 12, hmid 8, List.take_append_drop]

theorem uuidDigits_uuidText (n : Nat) : uuidDigits (uuidText n) = hexText 32 n := by
  have hu : (117 : CodePoint) ∉ uuidText n :=
    uuidText_absent (by decide) fun d hd => (hexDigit_ne hd).2.2.2.2.1
  have hbrace : ∀ c ∈ uuidText n, decide (c ∈ ([123, 125] : PyStr)) = false := by
    intro c hc
    refine decide_eq_false fun h => ?_
    rcases mem_uuidText hc with rfl | ⟨d, hd, rfl⟩
    · exact absurd h (by decide)
    · rcases List.mem_cons.mp h with h | h
      · exact (hexDigit_ne hd).2.2.1 h
      · exact (hexDigit_ne hd).2.2.2.1 (List.mem_singleton.mp h)
  have hurn : without (py "urn:") (uuidText n) = uuidText n := without_absent hu
  have huuid : without (py "uuid:") (uuidText n) = uuidText n := without_absent hu
  show (rstripOf [123, 125] (List.dropWhile (· ∈ ([123, 125] : PyStr))
    (without (py "uuid:") (without (py "urn:") (uuidText n))))).filter (fun c => c ≠ 45) = _
  rw [hurn, huuid]
  unfold rstripOf
  rw [dropWhile_both_absent hbrace, uuidText_filter]

theorem hexNumber_digits {cs : PyStr} (h : ∀ c ∈ cs, ∃ d < 16, c = hexDigit d) :
    hexNumber cs = hexRun true 0 cs := by
  unfold hexNumber
  split
  · next x rest =>
    obtain ⟨d, hd, rfl⟩ := h x (by simp)
    rw [if_neg fun hx => hx.elim (hexDigit_ne hd).2.2.2.2.2.1 (hexDigit_ne hd).2.2.2.2.2.2.1]
  · rfl

section
variable (rt : Runtime)

theorem int16_hexText (n : Nat) {width : Nat} (hw : width ≠ 0) :
    int16 rt (hexText width n) = some (Int.ofNat (n % 16 ^ width)) := by
  have hmem := fun c => @mem_hexText width n c
  have hmap : (hexText width n).map (intChar rt) = hexText width n := by
    refine (List.map_congr_left fun c hc => ?_).trans (List.map_id _)
    obtain ⟨d, hd, rfl⟩ := hmem c hc
    exact if_pos (hexDigit_ne hd).2.2.2.2.2.2.2.2.2.1
  have hspace : ∀ c ∈ hexText width n, isCSpace c = false := by
    intro c hc
    obtain ⟨d, hd, rfl⟩ := hmem c hc
    exact (hexDigit_ne hd).2.2.2.2.2.2.2.2.1
  have hnumber : hexNumber (hexText width n) = some (n % 16 ^ width) := by
    have hne : hexText width n ≠ [] := by
      rw [← List.length_pos_iff, hexText_length]
      omega
    have hrun := hexRun_append (hexText width n) [] true 0 (fun c hc => by
      obtain ⟨d, hd, rfl⟩ := hmem c hc
      exact ⟨(hexDigit_ne hd).1, by rw [hexVal_hexDigit hd]; rfl⟩) hne
    rw [List.append_nil, foldl_hexText, zero_mul, zero_add] at hrun
    rw [hexNumber_digits fun c hc => hmem c hc, hrun]
    rfl
  show (match (((hexText width n).map (intChar rt)).dropWhile isCSpace).reverse.dropWhile
    isCSpace |>.reverse with
    | 43 :: cs => (hexNumber cs).map Int.ofNat
    | 45 :: cs => (hexNumber cs).map fun n => -Int.ofNat n
    | cs => (hexNumber cs).map Int.ofNat) = _
  rw [hmap, dropWhile_both_absent hspace]
  split
  · next cs h =>
    obtain ⟨d, hd, e⟩ := hmem 43 (by rw [h]; simp)
    exact absurd e.symm (hexDigit_ne hd).2.2.2.2.2.2.2.2.2.2
  · next cs h =>
    obtain ⟨d, hd, e⟩ := hmem 45 (by rw [h]; simp)
    exact absurd e.symm (hexDigit_ne hd).2.1
  · rw [hnumber]
    rfl

theorem uuidOf_uuidText {n : Nat} (h : n < 2 ^ 128) : uuidOf rt (uuidText n) = some n := by
  have hmod : n % 16 ^ 32 = n := Nat.mod_eq_of_lt (by
    have e : (16 : Nat) ^ 32 = 2 ^ 128 := by norm_num
    omega)
  unfold uuidOf
  rw [uuidDigits_uuidText]
  dsimp only
  rw [if_neg (not_not.mpr (hexText_length 32 n)), int16_hexText rt n (by norm_num), hmod]
  exact if_pos h

theorem uuidOf_lt {text : PyStr} {n : Nat} (h : uuidOf rt text = some n) : n < 2 ^ 128 := by
  unfold uuidOf at h
  dsimp only at h
  split_ifs at h
  split at h
  · split_ifs at h with hn
    rw [← Option.some.inj h]
    exact hn
  · exact absurd h (by simp)

/-- A canonical text is its own. -/
theorem canonicalUuid_idem {text canonical : PyStr} (h : canonicalUuid rt text = some canonical) :
    canonicalUuid rt canonical = some canonical := by
  obtain ⟨n, hn, rfl⟩ := Option.map_eq_some_iff.mp h
  unfold canonicalUuid
  rw [uuidOf_uuidText rt (uuidOf_lt rt hn)]
  rfl

theorem canonicalUuid_no_dot {text canonical : PyStr} (h : canonicalUuid rt text = some canonical) :
    (46 : CodePoint) ∉ canonical := by
  obtain ⟨n, _, rfl⟩ := Option.map_eq_some_iff.mp h
  exact uuidText_absent (by decide) fun d hd => (hexDigit_ne hd).2.2.2.2.2.2.2.1

theorem canonicalUuid_ne_nil {text canonical : PyStr} (h : canonicalUuid rt text = some canonical) :
    canonical ≠ [] := by
  obtain ⟨n, _, rfl⟩ := Option.map_eq_some_iff.mp h
  have hm : (45 : CodePoint) ∈ uuidText n := by
    unfold uuidText
    simp
  exact List.ne_nil_of_mem hm

end

end Py
