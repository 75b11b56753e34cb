import TomtitAgent.Python.Double
import Mathlib.Data.Int.Log
import Mathlib.Data.Rat.Floor

/-!
# `decimal` under its default context

* `DigitTable`      the characters of category `Nd` and what they stand for;
* `decimalOf`       `Decimal(text)`, which is exact;
* `roundDecimal`    the result of an operation: 28 digits, half even, and what is too large raises;
* `Representable`   the results that an operation returns as they are (`roundDecimal_exact`).

A finite `Decimal` is given by the rational it stands for.
-/

namespace Py

/-- The decimal digits of the interpreter: what `\d` matches and `Decimal` reads. -/
structure DigitTable where
  value : CodePoint → Option Nat
  ascii : ∀ c, c.val < 128 → value c = if isDigit c then some (c.val - 48) else none
  not_space : ∀ c, (value c).isSome → isSpace c = false

namespace DigitTable
variable (dt : DigitTable)

def isDecimal (c : CodePoint) : Bool := (dt.value c).isSome

def number (digits : PyStr) : Nat := digits.foldl (fun n c => 10 * n + (dt.value c).getD 0) 0

variable {dt}

theorem isDecimal_ascii {c : CodePoint} (h : c.val < 128) : dt.isDecimal c = isDigit c := by
  unfold isDecimal
  rw [dt.ascii c h]
  cases isDigit c
  · rfl
  · rfl

end DigitTable

def invalidOperation : PyExc :=
  ⟨["InvalidOperation", "DecimalException", "ArithmeticError"], py "[<class 'decimal.ConversionSyntax'>]"⟩

def decimalOverflow : PyExc :=
  ⟨["Overflow", "Inexact", "Rounded", "DecimalException", "ArithmeticError"], py "[<class 'decimal.Overflow'>]"⟩

/-- A number from its sign and its digits before and after the point. -/
def signedDecimal (dt : DigitTable) (neg : Bool) (whole frac : PyStr) : Rat :=
  (if neg then -1 else 1) * (dt.number (whole ++ frac) / 10 ^ frac.length)

/-- `Decimal(text)`, where the numerals are `-?\d+(?:\.\d+)?`. -/
def decimalOf (dt : DigitTable) (text : PyStr) : Except PyExc Rat :=
  let neg : Bool := text.head? = some 45
  let digits := if neg then text.tail else text
  let whole := digits.takeWhile dt.isDecimal
  if whole = [] then .error invalidOperation
  else
    match digits.dropWhile dt.isDecimal with
    | [] => .ok (signedDecimal dt neg whole [])
    | c :: frac =>
      if c = 46 ∧ frac ≠ [] ∧ frac.all dt.isDecimal = true then .ok (signedDecimal dt neg whole frac)
      else .error invalidOperation

/-- The exponent of the last digit that a number keeps: 28 digits, and none below `Etiny`. -/
def quantum (q : Rat) : Int := max (Int.log 10 |q| - 27) (-1000026)

/-- The result of an operation whose exact result is `q`. -/
def roundDecimal (q : Rat) : Except PyExc Rat :=
  if q = 0 then .ok 0
  else
    let r : Rat := roundHalfEven (q * 10 ^ (-quantum q)) * 10 ^ quantum q
    if 999999 < Int.log 10 |r| then .error decimalOverflow else .ok r

/-- At most 28 digits, between `Etiny` and the largest exponent. -/
def Representable (q : Rat) : Prop :=
  ∃ c e : Int, |c| < 10 ^ 28 ∧ -1000026 ≤ e ∧ e ≤ 999972 ∧ q = c * 10 ^ e

theorem Representable.neg {q : Rat} (h : Representable q) : Representable (-q) := by
  obtain ⟨c, e, hc, hlow, hhigh, rfl⟩ := h
  refine ⟨-c, e, ?_, hlow, hhigh, ?_⟩
  · rw [abs_neg]
    exact hc
  · rw [Int.cast_neg, neg_mul]

theorem representable_int {n : Int} (h : |n| < 10 ^ 28) : Representable n := by
  refine ⟨n, 0, h, by norm_num, by norm_num, ?_⟩
  rw [zpow_zero, mul_one]

theorem roundHalfEven_int (n : Int) : roundHalfEven n = n := by
  unfold roundHalfEven
  have hfloor : (n : Rat).floor = n := Rat.floor_intCast n
  dsimp only
  rw [hfloor, sub_self, if_pos (by norm_num)]

theorem roundDecimal_zero : roundDecimal 0 = .ok 0 := rfl

/-- The first digit of a number with at most 28 digits is not far to the left of the last one. -/
theorem log_lt_of_digits {c e : Int} (hc : |c| < 10 ^ 28) (h0 : (c : Rat) * 10 ^ e ≠ 0) :
    Int.log 10 |(c : Rat) * 10 ^ e| < e + 28 := by
  have hpos : 0 < |(c : Rat) * 10 ^ e| := abs_pos.mpr h0
  have hbound : |(c : Rat) * 10 ^ e| < ((10 : Nat) : Rat) ^ (e + 28) := by
    have hcast : |(c : Rat)| < 10 ^ (28 : Int) := by
      rw [← Int.cast_abs]
      exact_mod_cast hc
    rw [abs_mul, abs_of_pos (zpow_pos (by norm_num : (0 : Rat) < 10) e), Nat.cast_ofNat,
      zpow_add₀ (by norm_num : (10 : Rat) ≠ 0), mul_comm]
    exact mul_lt_mul_of_pos_left hcast (zpow_pos (by norm_num) e)
  exact (Int.lt_zpow_iff_log_lt (by norm_num) hpos).mp hbound

/-- An operation returns its exact result where that has at most 28 digits. -/
theorem roundDecimal_exact {q : Rat} (h : Representable q) : roundDecimal q = .ok q := by
  obtain ⟨c, e, hc, hlow, hhigh, rfl⟩ := h
  by_cases h0 : (c : Rat) * 10 ^ e = 0
  · rw [h0]
    exact roundDecimal_zero
  · have hlog := log_lt_of_digits hc h0
    have hquantum : quantum (c * 10 ^ e) ≤ e := by
      unfold quantum
      exact max_le (by omega) hlow
    -- the digits that are kept are all there are
    obtain ⟨k, hk⟩ := Int.le.dest hquantum
    have hkept : (c : Rat) * 10 ^ e * 10 ^ (-quantum (c * 10 ^ e)) = ((c * 10 ^ k : Int) : Rat) := by
      rw [mul_assoc, ← zpow_add₀ (by norm_num : (10 : Rat) ≠ 0), ← sub_eq_add_neg,
        show e - quantum (c * 10 ^ e) = (k : Int) by omega, zpow_natCast]
      push_cast
      rfl
    have hback : ((c * 10 ^ k : Int) : Rat) * 10 ^ quantum (c * 10 ^ e) = c * 10 ^ e := by
      rw [← hkept, mul_assoc, ← zpow_add₀ (by norm_num : (10 : Rat) ≠ 0), neg_add_cancel, zpow_zero, mul_one]
    unfold roundDecimal
    rw [if_neg h0]
    dsimp only
    rw [hkept, roundHalfEven_int, hback, if_neg (by omega)]

end Py
