import TomtitAgent.Planning.PlanAgreement
import TomtitAgent.Runtime.RuntimeAgent

/-!
# The order of a valid plan

* `NamesEarlier`   a list whose elements name elements before them; without repeated names such a list has
                   no cycle (`NamesEarlier.acyclic`);
* `PlanOrdered`    ids of its own, dependencies that come before, no cycle, and runs that follow the order;
* `planOrdered_iff`   a valid plan is ordered exactly when no step depends on itself.

`validate_plan` adds the id of a step before it looks at what the step depends on.
-/

open Py

namespace Tomtit

/-! ### lists that name what came before -/

section
variable {α ι : Type} (name : α → ι) (deps : α → List ι)

/-- Each element names only elements before it. -/
def NamesEarlier (xs : List α) : Prop :=
  ∀ before x after, xs = before ++ x :: after → ∀ d ∈ deps x, d ∈ before.map name

def NamedBy (xs : List α) (x y : α) : Prop := x ∈ xs ∧ y ∈ xs ∧ name y ∈ deps x

variable {name deps} {xs : List α}

theorem NamesEarlier.take (h : NamesEarlier name deps xs) {ys : List α} (hys : ys <+: xs) :
    NamesEarlier name deps ys := by
  obtain ⟨zs, rfl⟩ := hys
  intro before x after he
  refine h before x (after ++ zs) ?_
  rw [he, List.append_assoc, List.cons_append]

def place [DecidableEq ι] (name : α → ι) (xs : List α) (x : α) : Nat := (xs.map name).idxOf (name x)

theorem place_lt [DecidableEq ι] (h : NamesEarlier name deps xs) (hnodup : (xs.map name).Nodup) {x y : α}
    (hxy : NamedBy name deps xs x y) : place name xs y < place name xs x := by
  obtain ⟨hx, -, hdep⟩ := hxy
  obtain ⟨before, after, rfl⟩ := List.append_of_mem hx
  have hbefore : name y ∈ before.map name := h before x after rfl (name y) hdep
  have hnot : name x ∉ before.map name := by
    intro hin
    rw [List.map_append, List.map_cons] at hnodup
    exact (List.nodup_append.mp hnodup).2.2 _ hin _ List.mem_cons_self rfl
  unfold place
  rw [List.map_append, List.map_cons, List.idxOf_append_of_mem hbefore, List.idxOf_append_of_notMem hnot]
  exact Nat.lt_add_right _ (List.idxOf_lt_length_of_mem hbefore)

/-- Following names leads back to the start of the list, never around. -/
theorem NamesEarlier.acyclic [DecidableEq ι] (h : NamesEarlier name deps xs) (hnodup : (xs.map name).Nodup)
    (x : α) : ¬ Relation.TransGen (NamedBy name deps xs) x x := by
  have hlt : ∀ y, Relation.TransGen (NamedBy name deps xs) x y → place name xs y < place name xs x := by
    intro y hy
    induction hy with
    | single hxy => exact place_lt h hnodup hxy
    | tail _ hyz ih => exact (place_lt h hnodup hyz).trans ih
  exact fun hx => Nat.lt_irrefl _ (hlt x hx)

end

/-! ### what the validator checks -/

section
variable {rt : Runtime} {μ : Type} {tools : ToolRegistry μ}

theorem validateSteps_order (plan : List Step) (index : Nat) (stepIds : List PyStr)
    (h : validateSteps rt tools index stepIds plan = .ok ()) :
    (plan.map Step.id).Nodup ∧ (∀ step ∈ plan, step.id ∉ stepIds) ∧
      ∀ before step after, plan = before ++ step :: after →
        ∀ d ∈ step.dependsOn, d = step.id ∨ d ∈ before.map Step.id ∨ d ∈ stepIds := by
  induction plan generalizing index stepIds with
  | nil =>
    refine ⟨List.nodup_nil, fun _ h => absurd h List.not_mem_nil, fun before step after he => ?_⟩
    exact absurd he.symm (List.append_ne_nil_of_right_ne_nil before (List.cons_ne_nil step after))
  | cons first plan ih =>
    obtain ⟨hvalid, hrest⟩ := validateSteps_cons.mp h
    obtain ⟨hnodup, hfresh, hdeps⟩ := ih _ _ hrest
    refine ⟨?_, ?_, ?_⟩
    · rw [List.map_cons, List.nodup_cons]
      refine ⟨fun hin => ?_, hnodup⟩
      obtain ⟨step, hstep, hid⟩ := List.mem_map.mp hin
      exact hfresh step hstep (hid ▸ List.mem_cons_self)
    · intro step hstep
      rcases List.mem_cons.mp hstep with rfl | hstep
      · exact hvalid.fresh
      · exact fun hin => hfresh step hstep (List.mem_cons_of_mem _ hin)
    · intro before step after he d hd
      cases before with
      | nil =>
        obtain ⟨rfl, rfl⟩ := List.cons.inj he
        rcases List.mem_cons.mp (hvalid.depends d hd) with hself | hin
        · exact .inl hself
        · exact .inr (.inr hin)
      | cons first' before =>
        obtain ⟨rfl, hplan⟩ := List.cons.inj he
        rcases hdeps before step after hplan d hd with hself | hin | hin
        · exact .inl hself
        · exact .inr (.inl (List.mem_cons_of_mem _ hin))
        · rcases List.mem_cons.mp hin with rfl | hin
          · exact .inr (.inl List.mem_cons_self)
          · exact .inr (.inr hin)

theorem validatePlan_order {plan : List Step} (h : validatePlan rt plan tools = .ok ()) :
    (plan.map Step.id).Nodup ∧ ∀ before step after, plan = before ++ step :: after →
      ∀ d ∈ step.dependsOn, d = step.id ∨ d ∈ before.map Step.id := by
  unfold validatePlan at h
  split at h
  · exact absurd h (by simp)
  · obtain ⟨hnodup, -, hdeps⟩ := validateSteps_order plan 1 [] h
    refine ⟨hnodup, fun before step after he d hd => ?_⟩
    exact (hdeps before step after he d hd).imp_right fun hin => hin.resolve_right List.not_mem_nil

end

/-! ### runs follow the plan -/

section
variable {μ : Type}

theorem executeSteps_inOrder {rt : Runtime} {agent : RuntimeAgent μ} (steps : List Step) (i : Nat)
    (s : AgentState μ) {trace : Trace μ} {s' : AgentState μ}
    (h : agent.executeSteps rt i steps s = .ok (trace, s')) : trace.map Prod.fst <+: steps := by
  induction steps generalizing i s trace s' with
  | nil =>
    obtain ⟨rfl, -⟩ := Prod.mk.inj (Except.ok.inj h)
    exact List.nil_prefix
  | cons step steps ih =>
    rw [RuntimeAgent.executeSteps] at h
    split at h
    · obtain ⟨rfl, -⟩ := Prod.mk.inj (Except.ok.inj h)
      exact List.nil_prefix
    · split at h
      · obtain ⟨text, -, h⟩ := bind_eq_ok.mp h
        obtain ⟨rfl, -⟩ := Prod.mk.inj (Except.ok.inj h)
        exact List.nil_prefix
      · obtain ⟨⟨x, s₁⟩, -, h⟩ := bind_eq_ok.mp h
        dsimp only at h
        split at h
        · obtain ⟨⟨rest, s₂⟩, hrest, h⟩ := bind_eq_ok.mp h
          obtain ⟨rfl, rfl⟩ := Prod.mk.inj (Except.ok.inj h)
          exact List.cons_prefix_cons.mpr ⟨rfl, ih _ _ hrest⟩
        · obtain ⟨rfl, -⟩ := Prod.mk.inj (Except.ok.inj h)
          exact List.cons_prefix_cons.mpr ⟨rfl, List.nil_prefix⟩

/-- Ids of its own, dependencies that come before, no cycle; and no run starts a step before one that it
depends on. -/
structure PlanOrdered (rt : Runtime) (μ : Type) (plan : List Step) : Prop where
  ids : (plan.map Step.id).Nodup
  earlier : NamesEarlier Step.id Step.dependsOn plan
  acyclic : ∀ step, ¬ Relation.TransGen (NamedBy Step.id Step.dependsOn plan) step step
  runs : ∀ (agent : RuntimeAgent μ) s trace s', agent.executeSteps rt 1 plan s = .ok (trace, s') →
    NamesEarlier Step.id Step.dependsOn (trace.map Prod.fst)

/-- A plan that the validator accepts is ordered exactly when no step depends on itself. -/
theorem planOrdered_iff {rt : Runtime} {plan : List Step} {tools : ToolRegistry μ}
    (h : validatePlan rt plan tools = .ok ()) :
    PlanOrdered rt μ plan ↔ ∀ step ∈ plan, step.id ∉ step.dependsOn := by
  obtain ⟨hnodup, hdeps⟩ := validatePlan_order h
  constructor
  · intro hordered step hstep hself
    exact hordered.acyclic step (.single ⟨hstep, hstep, hself⟩)
  · intro hself
    have hearlier : NamesEarlier Step.id Step.dependsOn plan := by
      intro before step after he d hd
      refine (hdeps before step after he d hd).resolve_left ?_
      rintro rfl
      refine hself step ?_ hd
      rw [he]
      exact List.mem_append_right _ List.mem_cons_self
    exact ⟨hnodup, hearlier, hearlier.acyclic hnodup,
      fun agent s trace s' hrun => hearlier.take (executeSteps_inOrder plan 1 s hrun)⟩

end

/-! ### a step that depends on itself -/

def finishTools : ToolRegistry Unit := Dict.ofItems [(.finish, builtinToolSpec (fun _ => []) idleTools .finish)]

def twoAnswers : List Step := [
  newStep countedIds 0 (py "a") .finish [(py "answer", .str (py "a"))],
  { newStep countedIds 1 (py "b") .finish [(py "answer", .str (py "b"))] with dependsOn := [countedIds 0] }]

def selfAnswer : List Step := [
  { newStep countedIds 0 (py "a") .finish [(py "answer", .str (py "a"))] with dependsOn := [countedIds 0] }]

theorem validStep_finish {stepIds : List PyStr} {step : Step} (haction : step.action = .finish)
    (hargs : step.args.keys = [py "answer"]) (hfresh : step.id ∉ stepIds)
    (hdepends : ∀ d ∈ step.dependsOn, d ∈ step.id :: stepIds) : ValidStep finishTools stepIds step := by
  refine ⟨hfresh, hdepends, builtinToolSpec (fun _ => []) idleTools .finish, ?_, ?_, ?_⟩
  · rw [haction]
    exact (Dict.get?_set _ _ _ _).trans (if_pos rfl)
  · rw [hargs]
    exact fun _ h => h
  · rw [hargs]
    exact fun _ h => h

/-- Two answers in a row are ordered. -/
theorem planOrdered_twoAnswers : PlanOrdered (small 4300) Unit twoAnswers := by
  have hvalid : validatePlan (small 4300) twoAnswers finishTools = .ok () := by
    refine (if_neg (List.cons_ne_nil _ _)).trans (validateSteps_cons.mpr ⟨?_, validateSteps_cons.mpr ⟨?_, rfl⟩⟩)
    · exact validStep_finish rfl rfl List.not_mem_nil fun _ h => absurd h List.not_mem_nil
    · exact validStep_finish rfl rfl (by decide) fun d hd => List.mem_cons_of_mem _ hd
  refine (planOrdered_iff hvalid).mpr fun step hstep => ?_
  rcases List.mem_pair.mp hstep with rfl | rfl
  · exact List.not_mem_nil
  · show countedIds 1 ∉ [countedIds 0]
    decide

/-- The validator accepts a step that depends on itself. -/
theorem selfAnswer_accepted : validatePlan (small 4300) selfAnswer finishTools = .ok () ∧
    ¬ PlanOrdered (small 4300) Unit selfAnswer := by
  constructor
  · refine (if_neg (List.cons_ne_nil _ _)).trans (validateSteps_cons.mpr ⟨?_, rfl⟩)
    exact validStep_finish rfl rfl List.not_mem_nil fun d hd => hd
  · intro hordered
    exact absurd (hordered.earlier [] _ [] rfl (countedIds 0) (List.mem_singleton_self _)) List.not_mem_nil

end Tomtit
