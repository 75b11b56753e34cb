import TomtitAgent.Python.Reachable

/-!
# Machines that keep journals

A machine whose state holds one list of entries for each key that is known in it.  Where every action only
adds what it says at the ends of the lists, a run leaves in each list what was said there, in order.

* `run`, `journal`   the state after a run, and all that its actions said;
* `Journals`         what one action does, in the states of an invariant;
* `Journals.run_known`, `Journals.run_new`   what a run does.
-/

namespace Py

section
variable {α σ κ ε : Type} [DecidableEq κ]

/-- The state after a run. -/
def run (step : α → σ → σ) (s : σ) (actions : List α) : σ := actions.foldl (fun s a => step a s) s

/-- What the actions of a run say, in order. -/
def journal (step : α → σ → σ) (said : α → σ → List (κ × ε)) : σ → List α → List (κ × ε)
  | _, [] => []
  | s, a :: actions => said a s ++ journal step said (step a s) actions

def entriesOf (k : κ) (log : List (κ × ε)) : List ε := (log.filter fun e => e.1 = k).map Prod.snd

/-- In the states of the invariant an action adds what it says, and a key that becomes known has no
entries. -/
structure Journals (step : α → σ → σ) (said : α → σ → List (κ × ε)) (entries : σ → κ → Option (List ε))
    (inv : σ → Prop) : Prop where
  keeps : ∀ a s, inv s → inv (step a s)
  known : ∀ a s k xs, inv s → entries s k = some xs → entries (step a s) k = some (xs ++ entriesOf k (said a s))
  unknown : ∀ a s k, inv s → entries s k = none → entriesOf k (said a s) = [] ∧
    (entries (step a s) k = none ∨ entries (step a s) k = some [])

variable {step : α → σ → σ} {said : α → σ → List (κ × ε)} {entries : σ → κ → Option (List ε)} {inv : σ → Prop}

theorem run_cons (s : σ) (a : α) (actions : List α) : run step s (a :: actions) = run step (step a s) actions := rfl

theorem run_append (s : σ) (actions more : List α) :
    run step s (actions ++ more) = run step (run step s actions) more := List.foldl_append

theorem entriesOf_append (k : κ) (log log' : List (κ × ε)) :
    entriesOf k (log ++ log') = entriesOf k log ++ entriesOf k log' := by
  unfold entriesOf
  rw [List.filter_append, List.map_append]

theorem entriesOf_singleton (k k' : κ) (e : ε) : entriesOf k [(k', e)] = if k' = k then [e] else [] := by
  unfold entriesOf
  by_cases h : k' = k
  · rw [if_pos h]
    simp [h]
  · rw [if_neg h]
    simp [h]

theorem run_invariant {P : σ → Prop} (hstep : ∀ a s, P s → P (step a s)) {s : σ} (hs : P s) (actions : List α) :
    P (run step s actions) := by
  induction actions generalizing s with
  | nil => exact hs
  | cons a actions ih => exact ih (hstep a s hs)

namespace Journals
variable (h : Journals step said entries inv)
include h

/-- A list that is there grows by what is said. -/
theorem run_known {s : σ} (hs : inv s) {k : κ} {xs : List ε} (hk : entries s k = some xs) (actions : List α) :
    entries (run step s actions) k = some (xs ++ entriesOf k (journal step said s actions)) := by
  induction actions generalizing s xs with
  | nil => exact hk.trans (congrArg some (List.append_nil xs).symm)
  | cons a actions ih =>
    rw [run_cons, ih (h.keeps a s hs) (h.known a s k xs hs hk), journal, entriesOf_append, List.append_assoc]

/-- A list that was not there holds what is said. -/
theorem run_new {s : σ} (hs : inv s) {k : κ} (hk : entries s k = none) {actions : List α} {xs : List ε}
    (hrun : entries (run step s actions) k = some xs) : xs = entriesOf k (journal step said s actions) := by
  induction actions generalizing s with
  | nil =>
    rw [show entries (run step s []) k = none from hk] at hrun
    exact absurd hrun (by simp)
  | cons a actions ih =>
    obtain ⟨hsilent, hnone | hnew⟩ := h.unknown a s k hs hk
    · rw [journal, entriesOf_append, hsilent, List.nil_append]
      exact ih (h.keeps a s hs) hnone hrun
    · rw [run_cons, h.run_known (h.keeps a s hs) hnew] at hrun
      rw [journal, entriesOf_append, hsilent]
      exact (Option.some.inj hrun).symm

end Journals

end

end Py
