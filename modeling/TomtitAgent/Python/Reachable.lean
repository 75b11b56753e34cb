import Mathlib.Logic.Relation

/-!
# Runs of a state machine

`Reachable step ok s₀ s`: some run of actions leads from `s₀` to `s`, and every action of it met `ok`
in the state it was taken in.
-/

namespace Py

section
variable {α σ : Type} {step : α → σ → σ} {ok ok' : α → σ → Prop} {s₀ s : σ}

/-- One action, taken where it meets `ok`. -/
def Steps (step : α → σ → σ) (ok : α → σ → Prop) (s s' : σ) : Prop := ∃ a, ok a s ∧ s' = step a s

def Reachable (step : α → σ → σ) (ok : α → σ → Prop) (s₀ s : σ) : Prop :=
  Relation.ReflTransGen (Steps step ok) s₀ s

namespace Reachable

theorem start : Reachable step ok s₀ s₀ := Relation.ReflTransGen.refl

theorem next (h : Reachable step ok s₀ s) {a : α} (ha : ok a s) : Reachable step ok s₀ (step a s) :=
  Relation.ReflTransGen.tail h ⟨a, ha, rfl⟩

theorem invariant {P : σ → Prop} (h : Reachable step ok s₀ s) (h₀ : P s₀)
    (hstep : ∀ a s, ok a s → P s → P (step a s)) : P s := by
  induction h with
  | refl => exact h₀
  | tail _ hs ih =>
    obtain ⟨a, ha, rfl⟩ := hs
    exact hstep a _ ha ih

end Reachable

end

end Py
