import TomtitAgent.Planning.IntentPlanner

/-!
# Skills and the tools that there are

The catalog of any skills for any tools, with the strict registry that it builds for the active ones, and the
planner over it.

* `StrictRegistry.fromSpecs`   `SkillRegistry.from_specs`: an index of names and one of intents, with all its checks;
* `StrictRegistry.of_distinct` the checks do not fail for skills that are distinct and have their tools;
* `StrictCatalog.fromSpecs`, `StrictCatalog.makePlan`   `SkillCatalog.from_specs` and the planner;
* `catalog_partition`          the catalog exists exactly for distinct skills; each of them is active or
                               disabled, and plans made for it use only tools that there are.
-/

open Py

namespace Tomtit
open SkillCatalog

/-- `SkillRegistry` with its two dictionaries. -/
structure StrictRegistry where
  data : Dict SkillName SkillSpec
  intentIndex : Dict IntentName SkillName

namespace StrictRegistry

def indexIntents (name : SkillName) : Dict IntentName SkillName → List IntentName →
    Except PyExc (Dict IntentName SkillName)
  | index, [] => .ok index
  | index, intent :: intents =>
    match index.get? intent with
    | some owner => .error (skillError "DuplicateSkillIntentError" (py "Intent " ++
        memberRepr (py "IntentName") intent.value ++ py " already owned by skill " ++
        memberRepr (py "SkillName") owner.value ++ py "; cannot also assign to " ++
        memberRepr (py "SkillName") name.value))
    | none => indexIntents name (index.set intent name) intents

def register (available : List ToolName) : StrictRegistry → List SkillSpec → Except PyExc StrictRegistry
  | registry, [] => .ok registry
  | registry, spec :: specs => do
    raiseIf (spec.name ∈ registry.data.keys) (skillError "DuplicateSkillError"
      (py "Skill " ++ memberRepr (py "SkillName") spec.name.value ++ py " registered more than once"))
    raiseIf (missingTools available spec ≠ []) (skillError "MissingSkillToolError"
      (py "Skill " ++ memberRepr (py "SkillName") spec.name.value ++ py " requires tools not in registry: " ++
        joinWith (py ", ") ((missingTools available spec).map ToolName.value)))
    let index ← indexIntents spec.name registry.intentIndex spec.applicableIntents
    register available ⟨registry.data.set spec.name spec, index⟩ specs

def empty : StrictRegistry := ⟨Dict.empty, Dict.empty⟩

/-- `from_specs` -/
def fromSpecs (specs : List SkillSpec) (available : List ToolName) : Except PyExc StrictRegistry :=
  register available empty specs

/-- `for_intent` -/
def forIntent (registry : StrictRegistry) (intent : IntentName) : Except PyExc (Option SkillSpec) :=
  match registry.intentIndex.get? intent with
  | none => .ok none
  | some name =>
    match registry.data.get? name with
    | none => .error (keyError (memberRepr (py "SkillName") name.value))
    | some spec => .ok (some spec)

end StrictRegistry

/-- `SkillCatalog` over the strict registry. -/
structure StrictCatalog where
  active : StrictRegistry
  disabled : List DisabledSkill

namespace StrictCatalog

/-- `from_specs`, step by step -/
def fromSpecs (specs : List SkillSpec) (available : List ToolName) : Except PyExc StrictCatalog := do
  checkDistinct [] [] specs
  let active ← StrictRegistry.fromSpecs (specs.filter fun spec => missingTools available spec = []) available
  return ⟨active, (specs.filter fun spec => missingTools available spec ≠ []).map (disabledOf available)⟩

/-- `unavailable_for_intent` -/
def unavailableForIntent (catalog : StrictCatalog) (intent : IntentName) : Option DisabledSkill :=
  catalog.disabled.reverse.find? fun ds => intent ∈ ds.applicableIntents

/-- `SkillAwareIntentPlanner.make_plan` -/
def makePlan (newId : Nat → PyStr) (catalog : StrictCatalog) (p : ParsedIntent) : Except PyExc (List Step) :=
  if p.missingSlots ≠ [] then .ok (IntentPlanner.makePlan newId p)
  else do
    match ← catalog.active.forIntent p.intent with
    | some active => do
      let steps ← active.planFactory newId (SkillAwareIntentPlanner.extractInputs active p)
      SkillAwareIntentPlanner.validateSkillPlan active steps
      return steps
    | none =>
      match catalog.unavailableForIntent p.intent with
      | some disabled => return SkillAwareIntentPlanner.capabilityUnavailablePlan newId disabled
      | none => return IntentPlanner.makePlan newId p

end StrictCatalog

def claimantOf (specs : List SkillSpec) (intent : IntentName) : Option SkillSpec :=
  specs.find? fun spec => intent ∈ spec.applicableIntents

/-- What a catalog of some skills says of an intent and plans for it. -/
structure Partitions (specs : List SkillSpec) (available : List ToolName) (catalog : StrictCatalog) : Prop where
  active : ∀ intent, catalog.active.forIntent intent =
    .ok ((claimantOf specs intent).filter fun spec => missingTools available spec = [])
  disabled : ∀ intent, catalog.unavailableForIntent intent =
    ((claimantOf specs intent).filter fun spec => missingTools available spec ≠ []).map (disabledOf available)
  usable : ∀ newId p spec steps, p.missingSlots = [] → claimantOf specs p.intent = some spec →
    (∀ t ∈ spec.requiredTools, t ∈ available) → catalog.makePlan newId p = .ok steps →
    steps ≠ [] ∧ ∀ step ∈ steps, step.action ∈ spec.requiredTools ∧ step.action ∈ available
  unusable : ∀ newId p spec, p.missingSlots = [] → claimantOf specs p.intent = some spec →
    (∃ t ∈ spec.requiredTools, t ∉ available) → catalog.makePlan newId p =
      .ok (SkillAwareIntentPlanner.capabilityUnavailablePlan newId (disabledOf available spec))
  other : ∀ newId p, claimantOf specs p.intent = none → catalog.makePlan newId p = .ok (IntentPlanner.makePlan newId p)

/-! ### the check of the duplicates is complete -/

theorem claimIntents_complete {name : SkillName} {intents : List IntentName} (hnodup : intents.Nodup) :
    ∀ seen : List (IntentName × SkillName), (∀ i ∈ intents, i ∉ seen.map Prod.fst) →
      ∃ seen', claimIntents name seen intents = .ok seen' := by
  induction intents with
  | nil => exact fun seen _ => ⟨seen, rfl⟩
  | cons intent intents ih =>
    intro seen hfresh
    obtain ⟨hintent, hnodup⟩ := List.nodup_cons.mp hnodup
    have hnone : seen.lookup intent = none := by
      cases h : seen.lookup intent with
      | none => rfl
      | some owner =>
        refine absurd ?_ (hfresh intent List.mem_cons_self)
        exact assoc_isSome_iff.mp ⟨owner, h⟩
    rw [claimIntents, hnone]
    refine ih hnodup _ fun i hi hmem => ?_
    rcases List.mem_cons.mp hmem with rfl | hmem
    · exact hintent hi
    · exact hfresh i (List.mem_cons_of_mem _ hi) hmem

theorem checkDistinct_complete {specs : List SkillSpec} (h : Distinct specs) :
    ∀ (names : List SkillName) (seen : List (IntentName × SkillName)), (∀ spec ∈ specs, spec.name ∉ names) →
      (∀ i ∈ specs.flatMap SkillSpec.applicableIntents, i ∉ seen.map Prod.fst) →
      checkDistinct names seen specs = .ok () := by
  induction specs with
  | nil => exact fun _ _ _ _ => rfl
  | cons spec specs ih =>
    intro names seen hnames hfresh
    obtain ⟨hname, hrest⟩ := List.nodup_cons.mp h.names
    obtain ⟨hspec, hothers, hdisjoint⟩ := List.nodup_append'.mp (List.flatMap_cons ▸ h.intents)
    have hclaim : ∀ i ∈ spec.applicableIntents, i ∉ seen.map Prod.fst := fun i hi =>
      hfresh i (List.mem_flatMap.mpr ⟨spec, List.mem_cons_self, hi⟩)
    obtain ⟨seen', hseen⟩ := @claimIntents_complete spec.name _ hspec seen hclaim
    have hmem := (claimIntents_ok hseen).2.2
    rw [checkDistinct, (raiseIf_eq_ok (u := ())).mpr (hnames spec List.mem_cons_self), hseen]
    refine ih ⟨hrest, hothers⟩ _ _ (fun s hs hin => ?_) fun i hi hin => ?_
    · rcases List.mem_cons.mp hin with he | hin
      · exact hname (he ▸ List.mem_map_of_mem hs)
      · exact hnames s (List.mem_cons_of_mem _ hs) hin
    · rcases (hmem i).mp hin with hin | hin
      · exact hdisjoint hin hi
      · refine hfresh i ?_ hin
        rw [List.flatMap_cons]
        exact List.mem_append_right _ hi

/-! ### the strict registry -/

namespace StrictRegistry

structure Holds (registry : StrictRegistry) (specs : List SkillSpec) : Prop where
  data : registry.data.items = specs.map fun spec => (spec.name, spec)
  index : registry.intentIndex.items = specs.flatMap fun spec => spec.applicableIntents.map fun i => (i, spec.name)

theorem holds_empty : Holds empty [] := ⟨rfl, rfl⟩

theorem Holds.names {registry : StrictRegistry} {specs : List SkillSpec} (h : Holds registry specs) :
    registry.data.keys = specs.map SkillSpec.name := by
  unfold Dict.keys
  rw [h.data, List.map_map]
  rfl

theorem Holds.intents {registry : StrictRegistry} {specs : List SkillSpec} (h : Holds registry specs) :
    registry.intentIndex.keys = specs.flatMap SkillSpec.applicableIntents := by
  unfold Dict.keys
  rw [h.index, List.map_flatMap]
  refine congrArg (fun f => specs.flatMap f) ?_
  funext spec
  rw [List.map_map]
  exact List.map_id _

theorem indexIntents_fresh {name : SkillName} {intents : List IntentName} (hnodup : intents.Nodup) :
    ∀ index : Dict IntentName SkillName, (∀ i ∈ intents, i ∉ index.keys) →
      ∃ index', indexIntents name index intents = .ok index' ∧
        index'.items = index.items ++ intents.map fun i => (i, name) := by
  induction intents with
  | nil => exact fun index _ => ⟨index, rfl, (List.append_nil _).symm⟩
  | cons intent intents ih =>
    intro index hfresh
    obtain ⟨hintent, hnodup⟩ := List.nodup_cons.mp hnodup
    have hnew : intent ∉ index.keys := hfresh intent List.mem_cons_self
    have hitems : (index.set intent name).items = index.items ++ [(intent, name)] := upsert_of_notMem hnew name
    obtain ⟨index', hrun, hindex'⟩ := ih hnodup (index.set intent name) fun i hi hmem => by
      rcases Dict.mem_keys_set.mp hmem with rfl | hmem
      · exact hintent hi
      · exact hfresh i (List.mem_cons_of_mem _ hi) hmem
    refine ⟨index', ?_, ?_⟩
    · rw [indexIntents, Dict.get?_eq_none.mpr hnew]
      exact hrun
    · rw [hindex', hitems, List.append_assoc]
      rfl

/-- The checks do not fail for skills that are distinct and have their tools. -/
theorem of_distinct {available : List ToolName} (specs : List SkillSpec) : ∀ (registry : StrictRegistry)
    (before : List SkillSpec), Holds registry before → Distinct (before ++ specs) →
    (∀ spec ∈ specs, missingTools available spec = []) →
    ∃ registry', register available registry specs = .ok registry' ∧ Holds registry' (before ++ specs) := by
  induction specs with
  | nil =>
    intro registry before h _ _
    rw [List.append_nil]
    exact ⟨registry, rfl, h⟩
  | cons spec specs ih =>
    intro registry before h hdistinct htools
    have hname : spec.name ∉ registry.data.keys := by
      rw [h.names]
      have hnodup := hdistinct.names
      rw [List.map_append, List.map_cons] at hnodup
      exact fun hmem => (List.nodup_append'.mp hnodup).2.2 hmem List.mem_cons_self
    have hintents := hdistinct.intents
    rw [List.flatMap_append, List.flatMap_cons] at hintents
    obtain ⟨-, hrest, hdisjoint⟩ := List.nodup_append'.mp hintents
    have hfresh : ∀ i ∈ spec.applicableIntents, i ∉ registry.intentIndex.keys := by
      intro i hi hmem
      rw [h.intents] at hmem
      exact hdisjoint hmem (List.mem_append_left _ hi)
    obtain ⟨index, hindex, hitems⟩ :=
      @indexIntents_fresh spec.name _ (List.nodup_append'.mp hrest).1 registry.intentIndex hfresh
    have hholds : Holds ⟨registry.data.set spec.name spec, index⟩ (before ++ [spec]) := by
      refine ⟨?_, ?_⟩
      · rw [List.map_append, ← h.data]
        exact upsert_of_notMem hname spec
      · rw [List.flatMap_append, ← h.index, List.flatMap_singleton]
        exact hitems
    have happend : before ++ spec :: specs = (before ++ [spec]) ++ specs := by
      rw [List.append_assoc]
      rfl
    rw [happend] at hdistinct ⊢
    obtain ⟨registry', hrun, hholds'⟩ := ih _ _ hholds hdistinct fun s hs => htools s (List.mem_cons_of_mem _ hs)
    refine ⟨registry', ?_, hholds'⟩
    rw [register, (raiseIf_eq_ok (u := ())).mpr hname,
      (raiseIf_eq_ok (u := ())).mpr (not_not_intro (htools spec List.mem_cons_self)), hindex]
    exact hrun

theorem Holds.forIntent {registry : StrictRegistry} {specs : List SkillSpec} (h : Holds registry specs)
    (intent : IntentName) : registry.forIntent intent = .ok (claimantOf specs intent) := by
  unfold StrictRegistry.forIntent
  cases hindex : registry.intentIndex.get? intent with
  | none =>
    have hnot := Dict.get?_eq_none.mp hindex
    rw [h.intents] at hnot
    have hnone : claimantOf specs intent = none := by
      refine List.find?_eq_none.mpr fun spec hspec hserves => hnot ?_
      exact List.mem_flatMap.mpr ⟨spec, hspec, of_decide_eq_true hserves⟩
    rw [hnone]
  | some name =>
    have hmem := Dict.get?_eq_some.mp hindex
    rw [h.index] at hmem
    obtain ⟨spec, hspec, hpair⟩ := List.mem_flatMap.mp hmem
    obtain ⟨i, hi, he⟩ := List.mem_map.mp hpair
    obtain ⟨rfl, rfl⟩ := Prod.mk.inj he
    have hdata : registry.data.get? spec.name = some spec := by
      rw [Dict.get?_eq_some, h.data]
      exact List.mem_map_of_mem (f := fun spec : SkillSpec => (spec.name, spec)) hspec
    have howner : claimantOf specs i = some spec := by
      cases hfind : claimantOf specs i with
      | none => exact absurd (decide_eq_true hi) (List.find?_eq_none.mp hfind spec hspec)
      | some other =>
        -- an intent has one entry in the index, so both skills have the name of that entry
        have hother := List.mem_of_find?_eq_some hfind
        have hserves := List.find?_some (p := fun spec : SkillSpec => decide (i ∈ spec.applicableIntents)) hfind
        have hentry : (i, other.name) ∈ registry.intentIndex.items := by
          rw [h.index]
          exact List.mem_flatMap.mpr ⟨other, hother, List.mem_map_of_mem (of_decide_eq_true hserves)⟩
        have hname : other.name = spec.name := by
          have := Dict.get?_eq_some.mpr hentry
          rw [hindex] at this
          exact (Option.some.inj this).symm
        have hget : registry.data.get? other.name = some other := by
          rw [Dict.get?_eq_some, h.data]
          exact List.mem_map_of_mem (f := fun spec : SkillSpec => (spec.name, spec)) hother
        rw [hname, hdata] at hget
        exact hget.symm
    dsimp only
    rw [hdata, howner]

end StrictRegistry

/-! ### the plans -/

theorem validateSkillSteps_ok {spec : SkillSpec} {steps : List Step} : ∀ i : Nat,
    SkillAwareIntentPlanner.validateSkillSteps spec i steps = .ok () →
      ∀ step ∈ steps, step.action ∈ spec.requiredTools := by
  induction steps with
  | nil => exact fun _ _ _ h => absurd h List.not_mem_nil
  | cons step steps ih =>
    intro i h
    obtain ⟨_, hstep, hrest⟩ := bind_eq_ok.mp h
    refine List.forall_mem_cons.mpr ⟨not_not.mp (raiseIf_eq_ok.mp hstep), ih (i + 1) hrest⟩

theorem validateSkillPlan_ok {spec : SkillSpec} {steps : List Step}
    (h : SkillAwareIntentPlanner.validateSkillPlan spec steps = .ok ()) :
    steps ≠ [] ∧ ∀ step ∈ steps, step.action ∈ spec.requiredTools := by
  obtain ⟨_, hne, hsteps⟩ := bind_eq_ok.mp h
  exact ⟨raiseIf_eq_ok.mp hne, validateSkillSteps_ok 0 hsteps⟩

/-! What the planner does with the answers of a catalog. -/

section
variable {catalog : StrictCatalog} {newId : Nat → PyStr} {p : ParsedIntent} (hslots : p.missingSlots = [])
include hslots

theorem makePlan_active {spec : SkillSpec} (h : catalog.active.forIntent p.intent = .ok (some spec)) :
    catalog.makePlan newId p = (do
      let steps ← spec.planFactory newId (SkillAwareIntentPlanner.extractInputs spec p)
      SkillAwareIntentPlanner.validateSkillPlan spec steps
      return steps) := by
  unfold StrictCatalog.makePlan
  rw [if_neg (not_not_intro hslots), h]
  rfl

theorem makePlan_disabled {ds : DisabledSkill} (h : catalog.active.forIntent p.intent = .ok none)
    (hds : catalog.unavailableForIntent p.intent = some ds) :
    catalog.makePlan newId p = .ok (SkillAwareIntentPlanner.capabilityUnavailablePlan newId ds) := by
  unfold StrictCatalog.makePlan
  rw [if_neg (not_not_intro hslots), h]
  dsimp only [bind, Except.bind]
  rw [hds]
  rfl

theorem makePlan_other (h : catalog.active.forIntent p.intent = .ok none)
    (hds : catalog.unavailableForIntent p.intent = none) :
    catalog.makePlan newId p = .ok (IntentPlanner.makePlan newId p) := by
  unfold StrictCatalog.makePlan
  rw [if_neg (not_not_intro hslots), h]
  dsimp only [bind, Except.bind]
  rw [hds]
  rfl

end

theorem partitions_of_holds {specs : List SkillSpec} {available : List ToolName} (hdistinct : Distinct specs)
    {registry : StrictRegistry}
    (h : registry.Holds (specs.filter fun spec => missingTools available spec = [])) :
    Partitions specs available ⟨registry,
      (specs.filter fun spec => missingTools available spec ≠ []).map (disabledOf available)⟩ := by
  have hactive : ∀ intent, registry.forIntent intent =
      .ok ((claimantOf specs intent).filter fun spec => missingTools available spec = []) := by
    intro intent
    rw [h.forIntent]
    exact congrArg Except.ok (find?_filter_of_unique _ (hdistinct.owner intent))
  have hdisabled : ∀ intent, StrictCatalog.unavailableForIntent ⟨registry,
      (specs.filter fun spec => missingTools available spec ≠ []).map (disabledOf available)⟩ intent =
      ((claimantOf specs intent).filter fun spec => missingTools available spec ≠ []).map (disabledOf available) := by
    intro intent
    show List.find? _ (List.map _ _).reverse = _
    rw [← List.map_reverse, List.find?_map]
    refine congrArg (Option.map _) ?_
    exact (find?_reverse_of_unique ((hdistinct.filter _).owner intent)).trans
      (find?_filter_of_unique _ (hdistinct.owner intent))
  refine ⟨hactive, hdisabled, fun newId p spec steps hslots howner htools hplan => ?_,
    fun newId p spec hslots howner htool => ?_, fun newId p howner => ?_⟩
  · have hnone := missingTools_eq_nil.mpr htools
    have hspec := hactive p.intent
    rw [howner, Option.filter_some, if_pos (decide_eq_true hnone)] at hspec
    rw [makePlan_active hslots hspec] at hplan
    obtain ⟨made, -, hplan⟩ := bind_eq_ok.mp hplan
    obtain ⟨_, hvalid, hret⟩ := bind_eq_ok.mp hplan
    obtain rfl := Except.ok.inj hret
    obtain ⟨hne, hsteps⟩ := validateSkillPlan_ok hvalid
    exact ⟨hne, fun step hstep => ⟨hsteps step hstep, htools _ (hsteps step hstep)⟩⟩
  · have hsome : missingTools available spec ≠ [] := by
      intro hnil
      obtain ⟨t, ht, hnot⟩ := htool
      exact hnot (missingTools_eq_nil.mp hnil t ht)
    have hspec := hactive p.intent
    rw [howner, Option.filter_some, if_neg fun hdec => hsome (of_decide_eq_true hdec)] at hspec
    have hds := hdisabled p.intent
    rw [howner, Option.filter_some, if_pos (decide_eq_true hsome)] at hds
    exact makePlan_disabled hslots hspec hds
  · by_cases hslots : p.missingSlots = []
    · have hspec := hactive p.intent
      have hds := hdisabled p.intent
      rw [howner] at hspec hds
      exact makePlan_other hslots hspec hds
    · unfold StrictCatalog.makePlan
      rw [if_pos hslots]

/-- **The catalog partitions its skills**, for any skills and any tools. -/
theorem catalog_partition (specs : List SkillSpec) (available : List ToolName) :
    ((∃ catalog, StrictCatalog.fromSpecs specs available = .ok catalog) ↔ Distinct specs) ∧
      ∀ catalog, StrictCatalog.fromSpecs specs available = .ok catalog → Partitions specs available catalog := by
  have hmade : Distinct specs → ∃ catalog, StrictCatalog.fromSpecs specs available = .ok catalog ∧
      Partitions specs available catalog := by
    intro hdistinct
    obtain ⟨registry, hrun, hholds⟩ := StrictRegistry.of_distinct
      (specs.filter fun spec => missingTools available spec = []) StrictRegistry.empty [] StrictRegistry.holds_empty
      (hdistinct.filter _) fun spec hspec => of_decide_eq_true (List.mem_filter.mp hspec).2
    refine ⟨_, ?_, partitions_of_holds hdistinct hholds⟩
    unfold StrictCatalog.fromSpecs StrictRegistry.fromSpecs
    rw [checkDistinct_complete hdistinct [] [] (fun _ _ => List.not_mem_nil) fun _ _ => List.not_mem_nil]
    dsimp only [bind, Except.bind]
    rw [hrun]
    rfl
  have hdistinct : ∀ catalog, StrictCatalog.fromSpecs specs available = .ok catalog → Distinct specs := by
    intro catalog h
    obtain ⟨_, hcheck, -⟩ := bind_eq_ok.mp h
    exact (checkDistinct_ok hcheck).1
  refine ⟨⟨?_, fun h => (hmade h).imp fun _ hc => hc.1⟩, fun catalog h => ?_⟩
  · rintro ⟨catalog, h⟩
    exact hdistinct catalog h
  · obtain ⟨catalog', h', hpartitions⟩ := hmade (hdistinct catalog h)
    rw [h] at h'
    rw [Except.ok.inj h']
    exact hpartitions

end Tomtit
