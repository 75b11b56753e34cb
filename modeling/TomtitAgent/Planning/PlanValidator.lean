import TomtitAgent.Tools.Executor

/-!
# `planning/plan_validator.py`: what a plan must meet before it runs
-/

open Py

namespace Tomtit

section
variable (rt : Runtime) {μ : Type}

/-- One turn of the loop of `validate_plan`; `stepIds` are the ids before the step. -/
def validateStep (tools : ToolRegistry μ) (index : Nat) (stepIds : List PyStr) (step : Step) :
    Except PyExc Unit := do
  let place := natText index
  raiseIf (step.id ∈ stepIds)
    (valueError (py "Duplicate step id at step " ++ place ++ py ": " ++ step.id))
  match tools.get? step.action with
  | none =>
    .error (valueError (py "Invalid action at step " ++ place ++ py ": " ++ step.action.value ++
      py ". Available tools: " ++ reprStrs rt (sortedSet (tools.keys.map ToolName.value))))
  | some spec =>
    let unknownDependencies := missingFrom step.dependsOn (step.id :: stepIds)
    raiseIf (unknownDependencies ≠ [])
      (valueError (py "Invalid depends_on at step " ++ place ++ py ": " ++ reprStrs rt unknownDependencies))
    let missingArgs := missingFrom spec.requiredArgs step.args.keys
    raiseIf (missingArgs ≠ [])
      (valueError (py "Missing required args at step " ++ place ++ py " for action " ++ step.action.value ++
        py ": " ++ reprStrs rt missingArgs))
    let unknownArgs := missingFrom step.args.keys spec.allowedArgs
    raiseIf (unknownArgs ≠ [])
      (valueError (py "Unknown args at step " ++ place ++ py " for action " ++ step.action.value ++
        py ": " ++ reprStrs rt unknownArgs))

def validateSteps (tools : ToolRegistry μ) : Nat → List PyStr → List Step → Except PyExc Unit
  | _, _, [] => .ok ()
  | index, stepIds, step :: steps => do
    validateStep rt tools index stepIds step
    validateSteps tools (index + 1) (step.id :: stepIds) steps

/-- `validate_plan` -/
def validatePlan (plan : List Step) (tools : ToolRegistry μ) : Except PyExc Unit :=
  if plan = [] then .error (valueError (py "Plan cannot be empty.")) else validateSteps rt tools 1 [] plan

end

/-! ### what a valid plan is -/

theorem missingFrom_eq_nil {xs ys : List PyStr} : missingFrom xs ys = [] ↔ ∀ x ∈ xs, x ∈ ys := by
  unfold missingFrom
  rw [List.eq_nil_iff_forall_not_mem]
  constructor
  · intro h x hx
    by_contra hy
    exact h x (mem_sortedSet.mpr (List.mem_filter.mpr ⟨hx, decide_eq_true hy⟩))
  · intro h x hx
    obtain ⟨hmem, hnot⟩ := List.mem_filter.mp (mem_sortedSet.mp hx)
    exact of_decide_eq_true hnot (h x hmem)

/-- The step can run with these tools, after steps of these ids. -/
structure ValidStep {μ : Type} (tools : ToolRegistry μ) (stepIds : List PyStr) (step : Step) : Prop where
  fresh : step.id ∉ stepIds
  depends : ∀ d ∈ step.dependsOn, d ∈ step.id :: stepIds
  available : ∃ spec, tools.get? step.action = some spec ∧
    (∀ a ∈ spec.requiredArgs, a ∈ step.args.keys) ∧ ∀ a ∈ step.args.keys, a ∈ spec.allowedArgs

theorem validateStep_eq_ok {rt : Runtime} {μ : Type} {tools : ToolRegistry μ} {index : Nat}
    {stepIds : List PyStr} {step : Step} :
    validateStep rt tools index stepIds step = .ok () ↔ ValidStep tools stepIds step := by
  unfold validateStep
  cases h : tools.get? step.action with
  | none =>
    constructor
    · intro hok
      obtain ⟨_, -, hok⟩ := bind_eq_ok.mp hok
      exact absurd hok (by simp)
    · intro hv
      obtain ⟨spec, hspec, -⟩ := hv.available
      rw [h] at hspec
      exact absurd hspec (by simp)
  | some spec =>
    simp only [bind_eq_ok, raiseIf_eq_ok, not_not, missingFrom_eq_nil]
    constructor
    · intro hok
      obtain ⟨_, hfresh, _, hdepends, _, hrequired, hallowed⟩ := hok
      exact ⟨hfresh, hdepends, spec, h, hrequired, hallowed⟩
    · intro hv
      obtain ⟨spec', hspec, hrequired, hallowed⟩ := hv.available
      rw [Option.some.inj (h.symm.trans hspec)]
      exact ⟨(), hv.fresh, (), hv.depends, (), hrequired, hallowed⟩

theorem validateSteps_cons {rt : Runtime} {μ : Type} {tools : ToolRegistry μ} {index : Nat}
    {stepIds : List PyStr} {step : Step} {steps : List Step} :
    validateSteps rt tools index stepIds (step :: steps) = .ok () ↔
      ValidStep tools stepIds step ∧ validateSteps rt tools (index + 1) (step.id :: stepIds) steps = .ok () := by
  rw [validateSteps, bind_eq_ok, ← (validateStep_eq_ok : validateStep rt tools index stepIds step = .ok () ↔ _)]
  exact ⟨fun ⟨_, h, h'⟩ => ⟨h, h'⟩, fun ⟨h, h'⟩ => ⟨(), h, h'⟩⟩

/-- A plan without dependencies is valid when its ids differ and each step can run with the tools. -/
theorem validateSteps_eq_ok {rt : Runtime} {μ : Type} {tools : ToolRegistry μ} {plan : List Step}
    (hfree : ∀ step ∈ plan, step.dependsOn = []) {index : Nat} {stepIds : List PyStr} :
    validateSteps rt tools index stepIds plan = .ok () ↔ (plan.map Step.id).Nodup ∧
      (∀ step ∈ plan, step.id ∉ stepIds) ∧ ∀ step ∈ plan, ∃ spec, tools.get? step.action = some spec ∧
        (∀ a ∈ spec.requiredArgs, a ∈ step.args.keys) ∧ ∀ a ∈ step.args.keys, a ∈ spec.allowedArgs := by
  induction plan generalizing index stepIds with
  | nil => exact iff_of_true rfl ⟨List.nodup_nil, fun _ h => absurd h List.not_mem_nil,
      fun _ h => absurd h List.not_mem_nil⟩
  | cons step plan ih =>
    rw [List.forall_mem_cons] at hfree
    rw [validateSteps_cons, ih hfree.2, List.map_cons, List.nodup_cons, List.forall_mem_cons,
      List.forall_mem_cons]
    have hid : step.id ∉ plan.map Step.id ↔ ∀ step' ∈ plan, step'.id ≠ step.id := by
      rw [List.mem_map]
      exact ⟨fun h s hs e => h ⟨s, hs, e⟩, fun h ⟨s, hs, e⟩ => h s hs e⟩
    simp only [List.mem_cons, not_or, hid]
    constructor
    · rintro ⟨hvalid, hnodup, hfresh, hrest⟩
      exact ⟨⟨fun s hs => (hfresh s hs).1, hnodup⟩, ⟨hvalid.fresh, fun s hs => (hfresh s hs).2⟩,
        hvalid.available, hrest⟩
    · rintro ⟨⟨hdiff, hnodup⟩, ⟨hfresh, hfreshes⟩, havailable, hrest⟩
      refine ⟨⟨hfresh, fun d hd => ?_, havailable⟩, hnodup, fun s hs => ⟨hdiff s hs, hfreshes s hs⟩, hrest⟩
      rw [hfree.1] at hd
      exact absurd hd List.not_mem_nil

end Tomtit
