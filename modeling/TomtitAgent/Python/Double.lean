import TomtitAgent.Python.Value

/-!
# Arithmetic of `float` on exact rationals

* `roundDouble`   the binary64 number nearest to a rational, ties to the even significand;
* `doubleOfInt`   `float(n)`, which overflows, and `floatOfInt` as a datum;
* `fixed3`        the text of `f"{x:.3f}"`.

A finite `float` is given by the rational it stands for.
-/

namespace Py

def roundHalfEven (q : Rat) : Int :=
  let low := q.floor
  let rest := q - low
  if rest < 1 / 2 then low else if 1 / 2 < rest then low + 1 else if low % 2 = 0 then low else low + 1

/-- `2 ^ e` -/
def twoPow (e : Int) : Rat := if 0 ≤ e then (2 ^ e.toNat : Nat) else 1 / (2 ^ (-e).toNat : Nat)

/-- The exponent of the last significand bit of a positive rational. -/
def lastBit (q : Rat) : Int :=
  let guess : Int := Nat.log2 q.num.natAbs - Nat.log2 q.den - 52
  let significand := q * twoPow (-guess)
  let e := if (2 ^ 53 : Nat) ≤ significand then guess + 1 else if significand < (2 ^ 52 : Nat) then guess - 1 else guess
  max e (-1074)

def roundDouble (q : Rat) : Rat :=
  if q = 0 then 0
  else
    let e := lastBit q.abs
    roundHalfEven (q * twoPow (-e)) * twoPow e

def overflowError (msg : PyStr) : PyExc := ⟨["OverflowError", "ArithmeticError"], msg⟩

def doubleLimit : Nat := 2 ^ 1024

theorem doubleLimit_pos : 0 < doubleLimit := by
  unfold doubleLimit
  positivity

/-- `float(n)` -/
def doubleOfInt (n : Int) : Except PyExc Rat := do
  let x := roundDouble n
  raiseIf (doubleLimit ≤ x.abs) (overflowError (py "int too large to convert to float"))
  return x

/-- The datum of an integer that has one, by sign and magnitude. -/
def PyFloat.ofMagnitude (negative : Bool) (k : Nat) : PyFloat :=
  if k = 0 then ⟨0⟩
  else
    let e := Nat.log2 k
    let significand := if e ≤ 52 then k * 2 ^ (52 - e) else k / 2 ^ (e - 52)
    ⟨BitVec.ofNat 64 ((if negative then 2 ^ 63 else 0) + (e + 1023) * 2 ^ 52 + significand % 2 ^ 52)⟩

theorem PyFloat.isFinite_ofMagnitude (negative : Bool) {k : Nat} (h : k < doubleLimit) :
    (PyFloat.ofMagnitude negative k).isFinite = true := by
  unfold PyFloat.ofMagnitude
  by_cases hk : k = 0
  · rw [if_pos hk]
    decide
  · rw [if_neg hk]
    have he : ∀ n, k < 2 ^ n → Nat.log2 k < n := fun n => (Nat.log2_lt hk).mpr
    replace he := he 1024 h
    dsimp only
    generalize Nat.log2 k = e at he
    generalize (if e ≤ 52 then k * 2 ^ (52 - e) else k / 2 ^ (e - 52)) = m
    unfold PyFloat.isFinite PyFloat.exponent
    rw [bne_iff_ne, BitVec.toNat_ofNat]
    cases negative with
    | true =>
      rw [if_pos rfl]
      omega
    | false =>
      rw [if_neg Bool.false_ne_true]
      omega

def floatOfInt (n : Int) : Except PyExc PyFloat := do
  let x ← doubleOfInt n
  return .ofMagnitude (x < 0) x.abs.floor.toNat

theorem floatOfInt_finite {n : Int} {x : PyFloat} (h : floatOfInt n = .ok x) : x.isFinite = true := by
  unfold floatOfInt doubleOfInt at h
  simp only [bind_eq_ok, raiseIf_eq_ok, exists_unit] at h
  obtain ⟨q, ⟨hlimit, hq⟩, hx⟩ := h
  rw [Except.ok.inj hq] at hlimit
  rw [← Except.ok.inj hx]
  refine PyFloat.isFinite_ofMagnitude _ ?_
  have hlt : ((q.abs.floor : Int) : Rat) < ((doubleLimit : Int) : Rat) :=
    (Rat.floor_le q.abs).trans_lt (not_le.mp hlimit)
  have hint : q.abs.floor < (doubleLimit : Int) := by exact_mod_cast hlt
  have hpos := doubleLimit_pos
  omega

/-- `f"{x:.3f}"` of a number that is not negative. -/
def fixed3 (x : Rat) : PyStr :=
  let n := (roundHalfEven (x * 1000)).toNat
  let digits := natText (n % 1000)
  natText (n / 1000) ++ py "." ++ List.replicate (3 - digits.length) 48 ++ digits

end Py
