import TomtitAgent.BuildHarness.RepoPath
import TomtitAgent.Python.Double

/-!
# `canonical.py`: timestamps and durations

* `parseRfc3339Utc`     `datetime.strptime` with the format of the module, in microseconds;
* `validateRfc3339Utc`  the pattern first, then the calendar;
* `validateDurationMs`  the duration against the two timestamps, in `float` arithmetic.
-/

open Py

namespace Tomtit

namespace Canonical

section
variable (rt : Runtime)

/-! ### the pattern -/

/-- `_RE_RFC3339_UTC`: `none` stands for `\d`. -/
def rfc3339Template : List (Option CodePoint) :=
  (py "0000-00-00T00:00:00.000000Z").map fun c => if c = 48 then none else some c

def matchesTemplate : List (Option CodePoint) → PyStr → Bool
  | [], [] => true
  | none :: ts, c :: cs => (rt.decimal c).isSome && matchesTemplate ts cs
  | some literal :: ts, c :: cs => literal == c && matchesTemplate ts cs
  | _, _ => false

/-! ### `strptime` -/

def pairAt (s : PyStr) (i : Nat) : CodePoint × CodePoint := (s.getD i 0, s.getD (i + 1) 0)

/-- `int(text)` of decimal digits. -/
def decimalOf (cs : PyStr) : Nat := cs.foldl (fun n c => n * 10 + (rt.decimal c).getD 0) 0

def within (low high c : CodePoint) : Bool := low.val ≤ c.val && c.val ≤ high.val

/-- The directives `%m`, `%d`, `%H`, `%M` and `%S` on the two digits that the pattern gives them, and `%f` on
its six. -/
def matchesDirectives (s : PyStr) : Bool :=
  let decimal (c : CodePoint) := (rt.decimal c).isSome
  let month := pairAt s 5
  let day := pairAt s 8
  let hour := pairAt s 11
  let minute := pairAt s 14
  let second := pairAt s 17
  (month.1 == 49 && within 48 50 month.2 || month.1 == 48 && within 49 57 month.2) &&
  (day.1 == 51 && within 48 49 day.2 || within 49 50 day.1 && decimal day.2 ||
    day.1 == 48 && within 49 57 day.2) &&
  (hour.1 == 50 && within 48 51 hour.2 || within 48 49 hour.1 && decimal hour.2) &&
  (within 48 53 minute.1 && decimal minute.2) &&
  (second.1 == 54 && within 48 49 second.2 || within 48 53 second.1 && decimal second.2) &&
  ((s.drop 20).take 6).all isDigit

def isLeap (year : Nat) : Bool := year % 4 == 0 && (year % 100 != 0 || year % 400 == 0)

def daysInMonth (year month : Nat) : Nat :=
  if month = 2 then if isLeap year then 29 else 28
  else if month = 4 ∨ month = 6 ∨ month = 9 ∨ month = 11 then 30 else 31

def ordinal (year month day : Nat) : Nat :=
  let y := year - 1
  y * 365 + y / 4 - y / 100 + y / 400 + ((List.range (month - 1)).map fun m => daysInMonth year (m + 1)).sum +
    (day - 1)

/-- `datetime.strptime(value, "%Y-%m-%dT%H:%M:%S.%fZ")` of a text that the pattern matched, in microseconds. -/
def parseRfc3339Utc (value : PyStr) : Except PyExc Nat := do
  let number (i n : Nat) := decimalOf rt ((value.drop i).take n)
  raiseIf (matchesDirectives rt value = false) (valueError (py "time data " ++ reprStr rt value ++
    py " does not match format '%Y-%m-%dT%H:%M:%S.%fZ'"))
  raiseIf (27 < value.length) (valueError (py "unconverted data remains: " ++ value.drop 27))
  raiseIf (number 0 4 = 0) (valueError (py "year 0 is out of range"))
  raiseIf (daysInMonth (number 0 4) (number 5 2) < number 8 2) (valueError (py "day is out of range for month"))
  raiseIf (59 < number 17 2) (valueError (py "second must be in 0..59"))
  return (((ordinal (number 0 4) (number 5 2) (number 8 2) * 24 + number 11 2) * 60 + number 14 2) * 60 +
    number 17 2) * 1000000 + number 20 6

/-- `validate_rfc3339_utc`, with the time that the text stands for. -/
def validateRfc3339Utc (field value : PyStr) : Except PyExc Nat := do
  let text ← requireStr field false (.str value)
  raiseIf (dollar (matchesTemplate rt rfc3339Template) text = false) (p09bValidationError (field ++ py " " ++
    reprStr rt value ++ py " must be strict UTC RFC3339 YYYY-MM-DDTHH:MM:SS.ffffffZ"))
  match parseRfc3339Utc rt text with
  | .ok time => .ok time
  | .error e => .error (p09bValidationError (field ++ py " " ++ reprStr rt value ++
      py " is not a valid timestamp: " ++ e.msg))

/-- `validate_duration_ms`; the two times are in microseconds. -/
def validateDurationMs (field : PyStr) (durationMs : Int) (start finish : Nat) : Except PyExc Unit := do
  let expectedMs := roundDouble (roundDouble (((finish : Int) - (start : Int) : Int) / 1000000) * 1000)
  let duration ← doubleOfInt durationMs
  if (1 : Rat) < (roundDouble (duration - expectedMs)).abs then do
    let shown ← strInt rt durationMs
    .error (p09bValidationError (field ++ py " " ++ shown ++ py " disagrees with timestamps (" ++ fixed3 expectedMs ++
      py "ms) by more than 1ms"))
  else .ok ()

/-! ### a time in ASCII digits -/

variable {rt}

theorem decimal_digit {c : CodePoint} (h : isDigit c = true) : rt.decimal c = some (c.val - 48) := by
  have hlt : c.val < 128 := by
    simp only [isDigit, Bool.and_eq_true, decide_eq_true_eq] at h
    omega
  rw [rt.decimal_ascii c hlt, if_pos h]

theorem decimalOf_digits {ds : PyStr} (h : ds.all isDigit = true) :
    decimalOf rt ds = ds.foldl (fun n c => n * 10 + (c.val - 48)) 0 := by
  have hfold : ∀ n, ds.foldl (fun n c => n * 10 + (rt.decimal c).getD 0) n =
      ds.foldl (fun n c => n * 10 + (c.val - 48)) n := by
    induction ds with
    | nil => exact fun n => rfl
    | cons c ds ih =>
      intro n
      rw [List.all_cons, Bool.and_eq_true] at h
      rw [List.foldl_cons, List.foldl_cons, decimal_digit h.1, Option.getD_some]
      exact ih h.2 _
  exact hfold 0

theorem rfc3339Template_eq : rfc3339Template =
    [none, none, none, none, some 45, none, none, some 45, none, none, some 84, none, none, some 58, none, none,
     some 58, none, none, some 46, none, none, none, none, none, none, some 90] := by
  unfold rfc3339Template
  rw [py_ofList]
  rfl

def sampleTime : PyStr := py "2026-01-01T00:00:00.000000Z"

theorem sampleTime_eq : sampleTime =
    [50, 48, 50, 54, 45, 48, 49, 45, 48, 49, 84, 48, 48, 58, 48, 48, 58, 48, 48, 46, 48, 48, 48, 48, 48, 48, 90] := by
  unfold sampleTime
  rw [py_ofList]
  rfl

variable (rt)

theorem validateRfc3339Utc_sample : ∃ n, ∀ field, validateRfc3339Utc rt field sampleTime = .ok n := by
  have hd (c : CodePoint) (h : isDigit c = true) : rt.decimal c = some (c.val - 48) := decimal_digit h
  have hpattern : dollar (matchesTemplate rt rfc3339Template) sampleTime = true := by
    have h : matchesTemplate rt rfc3339Template sampleTime = true := by
      rw [rfc3339Template_eq, sampleTime_eq]
      simp only [matchesTemplate, hd 50 rfl, hd 48 rfl, hd 54 rfl, hd 49 rfl]
      rfl
    unfold dollar
    rw [h, Bool.true_or]
  have hdirectives : matchesDirectives rt sampleTime = true := by
    unfold matchesDirectives
    rw [sampleTime_eq]
    simp only [pairAt, List.getD_cons_succ, List.getD_cons_zero, hd 49 rfl, hd 48 rfl]
    rfl
  have hyear : decimalOf rt ((sampleTime.drop 0).take 4) = 2026 := by
    rw [sampleTime_eq, decimalOf_digits rfl]
    rfl
  have hmonth : decimalOf rt ((sampleTime.drop 5).take 2) = 1 := by
    rw [sampleTime_eq, decimalOf_digits rfl]
    rfl
  have hday : decimalOf rt ((sampleTime.drop 8).take 2) = 1 := by
    rw [sampleTime_eq, decimalOf_digits rfl]
    rfl
  have hsecond : decimalOf rt ((sampleTime.drop 17).take 2) = 0 := by
    rw [sampleTime_eq, decimalOf_digits rfl]
    rfl
  have hlength : sampleTime.length = 27 := by
    rw [sampleTime_eq]
    rfl
  have hparse : ∃ n, parseRfc3339Utc rt sampleTime = .ok n := by
    unfold parseRfc3339Utc
    simp only [bind_eq_ok, raiseIf_eq_ok, exists_unit, hdirectives, hyear, hmonth, hday, hsecond, hlength]
    exact ⟨_, by decide, by decide, by decide, by decide, by decide, rfl⟩
  obtain ⟨n, hn⟩ := hparse
  refine ⟨n, fun field => ?_⟩
  unfold validateRfc3339Utc requireStr
  simp only [bind_eq_ok, raiseIf_eq_ok]
  refine ⟨sampleTime, ⟨(), ?_, rfl⟩, (), by rw [hpattern]; exact Bool.noConfusion, ?_⟩
  · rintro ⟨-, h⟩
    rw [h] at hlength
    exact absurd hlength (by decide)
  · rw [hn]
theorem validateDurationMs_zero (field : PyStr) (time : Nat) : validateDurationMs rt field 0 time time = .ok () := by
  have hzero : roundDouble 0 = 0 := if_pos rfl
  have hdouble : doubleOfInt 0 = .ok 0 := by
    have hsmall : ¬ (doubleLimit : Rat) ≤ (0 : Rat).abs := by
      rw [show (0 : Rat).abs = 0 from rfl, not_le]
      exact Nat.cast_pos.mpr doubleLimit_pos
    unfold doubleOfInt raiseIf
    rw [Int.cast_zero, hzero]
    show (if (doubleLimit : Rat) ≤ (0 : Rat).abs then _ else Except.ok ()) >>= _ = _
    rw [if_neg hsmall]
    rfl
  have hrest : ¬ (1 : Rat) < (0 : Rat).abs := by
    rw [show (0 : Rat).abs = 0 from rfl]
    norm_num
  unfold validateDurationMs
  simp only [Int.sub_self, Int.cast_zero, zero_div, hzero, zero_mul, hdouble, sub_zero, hrest, if_false, bind,
    Except.bind]

end
end Canonical
end Tomtit
