import TomtitAgent.Python.Value
import TomtitAgent.Python.Order

/-!
# `StrEnum` classes

`StrEnum α` lists the members of an enum class with their ASCII values.  A member and its value
compare equal in Python, so a value determines the member.
-/

namespace Py

class StrEnum (α : Type) where
  clsName : PyStr
  members : List α
  value : α → PyStr
  mem_members : ∀ a, a ∈ members
  value_inj : Function.Injective value
  value_ascii : ∀ a, Ascii (value a)

namespace StrEnum
variable {α : Type} [StrEnum α]

/-- The values of the class, `{member.value for member in cls}`. -/
def values (α : Type) [StrEnum α] : List PyStr := (members (α := α)).map value

theorem value_mem (a : α) : value a ∈ values α := List.mem_map_of_mem (mem_members a)

/-- `cls(value)`, where it does not raise. -/
def ofValue? (s : PyStr) : Option α := members.find? fun a => value a = s

theorem ofValue?_eq_some {s : PyStr} {a : α} : ofValue? s = some a ↔ value a = s := by
  unfold ofValue?
  constructor
  · intro h
    have := List.find?_some h
    exact of_decide_eq_true this
  · intro h
    cases hf : members.find? fun a : α => decide (value a = s) with
    | none => exact absurd (decide_eq_true h) (List.find?_eq_none.mp hf a (mem_members a))
    | some b =>
      have hfound := List.find?_some hf
      have hb : value b = s := of_decide_eq_true hfound
      rw [value_inj (hb.trans h.symm)]

end StrEnum
end Py
