import TomtitAgent.Python.Value

/-!
# Computations with a state

`Effect σ α` is a computation that changes a state of type `σ` and then returns or raises; what it
changed before it raised stays changed.

* `raise`, `lift`, `get`, `set`   the basic computations;
* `reraise`     `except ... as exc: raise f(exc) from exc`;
* `finally_`    `try: ... finally: ...`;
* `swallow`     `try: ... except classes: pass`;
* `bind_apply`   what a sequence does, by what its first part does.
-/

namespace Py

def Effect (σ α : Type) := σ → Except PyExc α × σ

namespace Effect
variable {σ α β : Type}

instance : Monad (Effect σ) where
  pure a := fun s => (.ok a, s)
  bind x f := fun s => match x s with
    | (.ok a, s') => f a s'
    | (.error e, s') => (.error e, s')

def raise (e : PyExc) : Effect σ α := fun s => (.error e, s)

def lift (x : Except PyExc α) : Effect σ α := fun s => (x, s)

def get : Effect σ σ := fun s => (.ok s, s)

def set (s : σ) : Effect σ Unit := fun _ => (.ok (), s)

def reraise (f : PyExc → PyExc) (x : Effect σ α) : Effect σ α := fun s => match x s with
  | (.ok a, s') => (.ok a, s')
  | (.error e, s') => (.error (f e), s')

def finally_ (x : Effect σ α) (cleanup : Effect σ Unit) : Effect σ α := fun s => match x s with
  | (r, s') => match cleanup s' with
    | (.ok _, s'') => (r, s'')
    | (.error e, s'') => (.error e, s'')

def swallow (classes : List String) (x : Effect σ Unit) : Effect σ Unit := fun s => match x s with
  | (.ok _, s') => (.ok (), s')
  | (.error e, s') => if classes.any e.isA then (.ok (), s') else (.error e, s')

/-! ### what a sequence does -/

theorem bind_apply (x : Effect σ α) (f : α → Effect σ β) (s : σ) :
    (x >>= f) s = match x s with
      | (.ok a, s') => f a s'
      | (.error e, s') => (.error e, s') := rfl

theorem swallow_ok {classes : List String} {x : Effect σ Unit} {s : σ}
    (h : ∀ e, (x s).1 = .error e → classes.any e.isA = true) :
    swallow classes x s = (.ok (), (x s).2) := by
  unfold swallow
  rcases hx : x s with ⟨r, s'⟩
  cases r with
  | ok _ => rfl
  | error e =>
    dsimp only
    rw [hx] at h
    rw [if_pos (h e rfl)]

end Effect

end Py
