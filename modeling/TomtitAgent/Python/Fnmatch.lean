import TomtitAgent.Python.Str

/-!
# `fnmatch` patterns

* `Token`, `translate`   a shell pattern as a list of tokens: `*`, `?`, `[seq]`, `[!seq]`, characters;
* `fnmatch name pattern`   the whole name matches the pattern (POSIX: case is significant);
* `fnmatch_plain`   a pattern without metacharacters matches itself alone.

A set keeps the quirks of `fnmatch.translate`: a `]` at its start is a member, a hyphen between two
members is a range, an empty range is dropped together with its ends, and only then a `!` at the
start negates.
-/

namespace Py
namespace Fnmatch

inductive Token
  | star
  | any
  | char (c : CodePoint)
  | set (negated : Bool) (ranges : List (CodePoint × CodePoint))

def Token.test : Token → CodePoint → Bool
  | .star, _ => false
  | .any, _ => true
  | .char c, d => c == d
  | .set negated ranges, c => negated != ranges.any fun r => r.1 ≤ c && c ≤ r.2

/-! ### sets -/

/-- What stands between `[` and its `]`, and what follows; `none` when the set is not closed. -/
def closing (rest : PyStr) : Option (PyStr × PyStr) :=
  let bang := if rest.head? = some 33 then 1 else 0
  let first := if (rest.drop bang).head? = some 93 then bang + 1 else bang
  match (rest.drop first).dropWhile (· != 93) with
  | [] => none
  | _ :: after => some (rest.take first ++ (rest.drop first).takeWhile (· != 93), after)

/-- The pieces of `stuff` between the hyphens that make ranges: the next such hyphen is looked for
from index `k` on. -/
def chunks : Nat → PyStr → Nat → List PyStr
  | 0, stuff, _ => [stuff]
  | fuel + 1, stuff, k =>
    match (stuff.drop k).dropWhile (· != 45) with
    | [] => [stuff]
    | _ :: rest => (stuff.take k ++ (stuff.drop k).takeWhile (· != 45)) :: chunks fuel rest 2

/-- A hyphen at the end is a member: the last piece is empty and goes back to the one before. -/
def closeChunks : List PyStr → List PyStr
  | [] => []
  | [chunk] => [chunk]
  | [chunk, []] => [chunk ++ [45]]
  | chunk :: rest => chunk :: closeChunks rest

/-- Remove empty ranges, from the last pair of pieces to the first. -/
def dropEmptyRanges : List PyStr → List PyStr
  | [] => []
  | chunk :: rest => match dropEmptyRanges rest with
    | [] => [chunk]
    | next :: later =>
      if chunk.getLast?.getD 0 > next.headD 0 then (chunk.dropLast ++ next.tail) :: later
      else chunk :: next :: later

/-- The pieces in one list, with `none` for the hyphens that make ranges. -/
def joinChunks : List PyStr → List (Option CodePoint)
  | [] => []
  | [chunk] => chunk.map some
  | chunk :: rest => chunk.map some ++ none :: joinChunks rest

/-- The members of the character class: ranges, and single characters as ranges. -/
def classRanges : List (Option CodePoint) → List (CodePoint × CodePoint)
  | some lo :: none :: some hi :: rest => (lo, hi) :: classRanges rest
  | some c :: rest => (c, c) :: classRanges rest
  | none :: rest => (45, 45) :: classRanges rest
  | [] => []

def setToken (stuff : PyStr) : Token :=
  let pieces :=
    if 45 ∈ stuff then
      dropEmptyRanges (closeChunks (chunks stuff.length stuff (if stuff.head? = some 33 then 2 else 1)))
    else [stuff]
  match joinChunks pieces with
  | some 33 :: members => .set true (classRanges members)
  | members => .set false (classRanges members)

/-! ### patterns -/

/-- The tokens of a pattern of at most `fuel` characters. -/
def tokens : Nat → PyStr → List Token
  | 0, _ => []
  | _, [] => []
  | fuel + 1, c :: rest =>
    if c = 42 then .star :: tokens fuel rest
    else if c = 63 then .any :: tokens fuel rest
    else if c = 91 then match closing rest with
      | none => .char c :: tokens fuel rest
      | some (stuff, after) => setToken stuff :: tokens fuel after
    else .char c :: tokens fuel rest

def translate (pattern : PyStr) : List Token := tokens pattern.length pattern

def matchTokens : List Token → PyStr → Bool
  | [], s => s.isEmpty
  | .star :: ts, s => s.tails.any (matchTokens ts)
  | _ :: _, [] => false
  | t :: ts, c :: s => t.test c && matchTokens ts s

end Fnmatch

/-- `fnmatch.fnmatch(name, pattern)` -/
def fnmatch (name pattern : PyStr) : Bool := Fnmatch.matchTokens (Fnmatch.translate pattern) name

/-- None of the characters `*`, `?` and `[`. -/
def PlainPattern (pattern : PyStr) : Prop := ∀ c ∈ pattern, c ≠ 42 ∧ c ≠ 63 ∧ c ≠ 91

namespace Fnmatch

theorem tokens_plain {pattern : PyStr} (h : PlainPattern pattern) {fuel : Nat}
    (hf : pattern.length ≤ fuel) : tokens fuel pattern = pattern.map .char := by
  induction pattern generalizing fuel with
  | nil => cases fuel <;> rfl
  | cons c rest ih =>
    rw [List.length_cons] at hf
    obtain ⟨n, rfl⟩ : ∃ n, fuel = n + 1 := ⟨fuel - 1, by omega⟩
    obtain ⟨h1, h2, h3⟩ := h c List.mem_cons_self
    rw [tokens, if_neg h1, if_neg h2, if_neg h3,
      ih (fun d hd => h d (List.mem_cons_of_mem c hd)) (by omega)]
    rfl

theorem matchTokens_chars (pattern name : PyStr) :
    matchTokens (pattern.map .char) name = decide (name = pattern) := by
  induction pattern generalizing name with
  | nil => cases name <;> rfl
  | cons c rest ih =>
    cases name with
    | nil => rfl
    | cons d name =>
      show ((c == d) && matchTokens (rest.map .char) name) = _
      rw [ih, Bool.eq_iff_iff, Bool.and_eq_true, beq_iff_eq, decide_eq_true_eq, decide_eq_true_eq,
        List.cons.injEq, eq_comm (a := c)]

end Fnmatch

theorem fnmatch_plain {pattern : PyStr} (h : PlainPattern pattern) (name : PyStr) :
    fnmatch name pattern = decide (name = pattern) := by
  unfold fnmatch Fnmatch.translate
  rw [Fnmatch.tokens_plain h le_rfl, Fnmatch.matchTokens_chars]

end Py
