import TomtitAgent.Planning.Intents
import TomtitAgent.State.AgentState

/-!
# Skills (`skills/base.py`, `skills/registry.py`, and the three built-in skills)

* `SkillSpec`, `builtinSkillSpecs`   a skill with the intents it serves, its inputs, its tools and its plan;
* `SkillRegistry`   skills with distinct names and distinct intents;
* `SkillCatalog.fromSpecs`   the skills whose tools are all there, and the records of the others;
* `builtinCatalog_ok`   the catalog of the built-in skills exists for every set of tools, and serves each
                        intent by its skill or says which tools are missing.
-/

open Py

namespace Tomtit

inductive SkillName where
  | calculateAndSave | readAndSummarize | webSearch
deriving DecidableEq, Repr

def SkillName.value : SkillName → PyStr
  | .calculateAndSave => py "calculate_and_save"
  | .readAndSummarize => py "read_and_summarize"
  | .webSearch => py "web_search"

structure SkillSpec where
  name : SkillName
  applicableIntents : List IntentName
  requiredInputs : List PyStr
  requiredTools : List ToolName
  planFactory : (Nat → PyStr) → Dict PyStr (Option PyStr) → Except PyExc (List Step)

structure DisabledSkill where
  name : SkillName
  applicableIntents : List IntentName
  missingTools : List ToolName

/-! ### the built-in skills -/

/-- `inputs[key]` -/
def skillInput (inputs : Dict PyStr (Option PyStr)) (key : PyStr) : Except PyExc (Option PyStr) :=
  match inputs.get? key with
  | some value => .ok value
  | none => .error (keyError (py "'" ++ key ++ py "'"))

section
variable (newId : Nat → PyStr)

/-- `CalculateAndSaveSkill.make_steps` -/
def calculateAndSaveSteps (expression noteName : Option PyStr) : List Step := [
  newStep newId 0 (py "Cần tính toán biểu thức trước") .calculate [(py "expression", .optStr expression)],
  newStep newId 1 (py "Lưu kết quả vào ghi chú") .writeNote
    [(py "name", .optStr noteName), (py "content", .str (py "$last_text"))],
  newStep newId 2 (py "Thông báo hoàn tất cho user") .finish [(py "answer",
    .str (py "Đã tính xong và lưu vào ghi chú '" ++ noteName.getD (py "None") ++
      py "'. Kết quả: $\x7bslot.calc_result\x7d"))]]

/-- `ReadAndSummarizeSkill.make_steps` -/
def readAndSummarizeSteps (noteName : Option PyStr) : List Step := [
  newStep newId 0 (py "Đọc nội dung ghi chú") .readNote [(py "name", .optStr noteName)],
  newStep newId 1 (py "Tóm tắt nội dung ghi chú") .summarize [(py "text", .str (py "$last.output.content"))],
  newStep newId 2 (py "Trả summary cho user") .finish
    [(py "answer", .str (py "Tóm tắt: $\x7blast.output.summary\x7d"))]]

/-- `WebSearchSkill.make_steps` -/
def webSearchSteps (query : Option PyStr) (maxResults : Int) : List Step := [
  newStep newId 0 (py "Tìm thông tin trên web") .webSearch
    [(py "query", .optStr query), (py "max_results", .int maxResults)],
  newStep newId 1 (py "Trả kết quả search cho user") .finish [(py "answer", .str (py "$last_text"))]]

end

def calculateAndSaveSkill : SkillSpec where
  name := .calculateAndSave
  applicableIntents := [.calculateThenSaveNote]
  requiredInputs := [py "expression", py "note_name"]
  requiredTools := [.calculate, .writeNote, .finish]
  planFactory newId inputs := do
    let expression ← skillInput inputs (py "expression")
    let noteName ← skillInput inputs (py "note_name")
    return calculateAndSaveSteps newId expression noteName

def readAndSummarizeSkill : SkillSpec where
  name := .readAndSummarize
  applicableIntents := [.readNoteThenSummarize]
  requiredInputs := [py "note_name"]
  requiredTools := [.readNote, .summarize, .finish]
  planFactory newId inputs := do
    let noteName ← skillInput inputs (py "note_name")
    return readAndSummarizeSteps newId noteName

def webSearchSkill : SkillSpec where
  name := .webSearch
  applicableIntents := [.webSearch]
  requiredInputs := [py "query"]
  requiredTools := [.webSearch, .finish]
  planFactory newId inputs := do
    let query ← skillInput inputs (py "query")
    return webSearchSteps newId query 3

/-- `builtin_skill_specs` -/
def builtinSkillSpecs : List SkillSpec := [calculateAndSaveSkill, readAndSummarizeSkill, webSearchSkill]

/-! ### the registry and the catalog -/

/-- `repr` of a member of a string enum; the name of a member is its value in capitals. -/
def memberRepr (cls value : PyStr) : PyStr :=
  py "<" ++ cls ++ py "." ++ value.map (fun c => if isLower c then c - 32 else c) ++ py ": '" ++ value ++ py "'>"

def skillError (cls : String) (msg : PyStr) : PyExc := ⟨[cls, "SkillRegistryError"], msg⟩

/-- No two skills have one name, and none serves an intent of another. -/
structure Distinct (specs : List SkillSpec) : Prop where
  names : (specs.map SkillSpec.name).Nodup
  intents : (specs.flatMap SkillSpec.applicableIntents).Nodup

theorem Distinct.filter {specs : List SkillSpec} (h : Distinct specs) (q : SkillSpec → Bool) :
    Distinct (specs.filter q) where
  names := h.names.sublist (List.filter_sublist.map _)
  intents := h.intents.sublist (List.filter_sublist.flatMap _)

/-- The skills whose tools are all registered. -/
structure SkillRegistry where
  specs : List SkillSpec
  distinct : Distinct specs

/-- `for_intent`; the intent index finds the only skill that serves the intent. -/
def SkillRegistry.forIntent (registry : SkillRegistry) (intent : IntentName) : Option SkillSpec :=
  registry.specs.find? fun spec => intent ∈ spec.applicableIntents

structure SkillCatalog where
  active : SkillRegistry
  disabled : List DisabledSkill

namespace SkillCatalog

def activeForIntent (catalog : SkillCatalog) (intent : IntentName) : Option SkillSpec :=
  catalog.active.forIntent intent

/-- `unavailable_for_intent`; in the index a later record replaces an earlier one. -/
def unavailableForIntent (catalog : SkillCatalog) (intent : IntentName) : Option DisabledSkill :=
  catalog.disabled.reverse.find? fun ds => intent ∈ ds.applicableIntents

/-- The required tools that are not available, by their values. -/
def missingTools (available : List ToolName) (spec : SkillSpec) : List ToolName :=
  (spec.requiredTools.filter fun t => t ∉ available).insertionSort fun a b => a.value ≤ b.value

def disabledOf (available : List ToolName) (spec : SkillSpec) : DisabledSkill where
  name := spec.name
  applicableIntents := spec.applicableIntents
  missingTools := missingTools available spec

/-- The loop over the intents of one skill; `seen` are the intents before it with their owners. -/
def claimIntents (name : SkillName) : List (IntentName × SkillName) → List IntentName →
    Except PyExc (List (IntentName × SkillName))
  | seen, [] => .ok seen
  | seen, intent :: intents =>
    match seen.lookup intent with
    | some owner => .error (skillError "DuplicateSkillIntentError" (py "Intent " ++
        memberRepr (py "IntentName") intent.value ++ py " owned by both " ++
        memberRepr (py "SkillName") owner.value ++ py " and " ++ memberRepr (py "SkillName") name.value))
    | none => claimIntents name ((intent, name) :: seen) intents

def checkDistinct : List SkillName → List (IntentName × SkillName) → List SkillSpec → Except PyExc Unit
  | _, _, [] => .ok ()
  | names, seen, spec :: specs => do
    raiseIf (spec.name ∈ names) (skillError "DuplicateSkillError"
      (py "Skill " ++ memberRepr (py "SkillName") spec.name.value ++ py " defined more than once"))
    let seen ← claimIntents spec.name seen spec.applicableIntents
    checkDistinct (spec.name :: names) seen specs

theorem claimIntents_ok {name : SkillName} {seen seen' : List (IntentName × SkillName)}
    {intents : List IntentName} (h : claimIntents name seen intents = .ok seen') :
    intents.Nodup ∧ (∀ i ∈ intents, i ∉ seen.map Prod.fst) ∧
      ∀ i, i ∈ seen'.map Prod.fst ↔ i ∈ intents ∨ i ∈ seen.map Prod.fst := by
  induction intents generalizing seen with
  | nil =>
    rw [← Except.ok.inj h]
    exact ⟨List.nodup_nil, fun i hi => absurd hi List.not_mem_nil,
      fun i => (or_iff_right List.not_mem_nil).symm⟩
  | cons intent intents ih =>
    rw [claimIntents] at h
    cases hseen : seen.lookup intent with
    | some owner =>
      rw [hseen] at h
      exact absurd h (by simp)
    | none =>
      rw [hseen] at h
      obtain ⟨hnodup, hfresh, hmem⟩ := ih h
      have hnot : intent ∉ seen.map Prod.fst := by
        rw [← assoc_isSome_iff]
        rintro ⟨owner, howner⟩
        exact absurd (hseen.symm.trans howner) (by simp)
      rw [List.map_cons] at hfresh hmem
      refine ⟨List.nodup_cons.mpr ⟨fun hin => hfresh intent hin List.mem_cons_self, hnodup⟩,
        fun i hi => ?_, fun i => ?_⟩
      · rcases List.mem_cons.mp hi with rfl | hi
        · exact hnot
        · exact fun hin => hfresh i hi (List.mem_cons_of_mem _ hin)
      · rw [hmem, List.mem_cons, List.mem_cons, or_left_comm, or_assoc]

theorem checkDistinct_ok {names : List SkillName} {seen : List (IntentName × SkillName)}
    {specs : List SkillSpec} (h : checkDistinct names seen specs = .ok ()) :
    Distinct specs ∧ (∀ spec ∈ specs, spec.name ∉ names) ∧
      ∀ i ∈ specs.flatMap SkillSpec.applicableIntents, i ∉ seen.map Prod.fst := by
  induction specs generalizing names seen with
  | nil => exact ⟨⟨List.nodup_nil, List.nodup_nil⟩, fun _ h => absurd h List.not_mem_nil,
      fun _ h => absurd h List.not_mem_nil⟩
  | cons spec specs ih =>
    rw [checkDistinct] at h
    obtain ⟨_, hname, h⟩ := bind_eq_ok.mp h
    obtain ⟨seen', hclaim, h⟩ := bind_eq_ok.mp h
    obtain ⟨hnodup, hfresh, hmem⟩ := claimIntents_ok hclaim
    obtain ⟨hdistinct, hnames, hintents⟩ := ih h
    refine ⟨⟨?_, ?_⟩, fun s hs => ?_, fun i hi => ?_⟩
    · rw [List.map_cons, List.nodup_cons]
      refine ⟨fun hin => ?_, hdistinct.names⟩
      obtain ⟨s, hs, e⟩ := List.mem_map.mp hin
      exact hnames s hs (e ▸ List.mem_cons_self)
    · rw [List.flatMap_cons]
      refine hnodup.append hdistinct.intents fun i hi hi' => ?_
      exact hintents i hi' ((hmem i).mpr (.inl hi))
    · rcases List.mem_cons.mp hs with rfl | hs
      · exact raiseIf_eq_ok.mp hname
      · exact fun hin => hnames s hs (List.mem_cons_of_mem _ hin)
    · rw [List.flatMap_cons] at hi
      rcases List.mem_append.mp hi with hi | hi
      · exact hfresh i hi
      · exact fun hin => hintents i hi ((hmem i).mpr (.inr hin))

/-- `from_specs`.  The active skills were checked with the others, so that their registry is one. -/
def fromSpecs (specs : List SkillSpec) (available : List ToolName) : Except PyExc SkillCatalog :=
  match h : checkDistinct [] [] specs with
  | .error e => .error e
  | .ok () => .ok {
      active := ⟨specs.filter fun spec => missingTools available spec = [], (checkDistinct_ok h).1.filter _⟩
      disabled := (specs.filter fun spec => missingTools available spec ≠ []).map (disabledOf available) }

end SkillCatalog

/-- `build_skill_catalog` -/
def buildSkillCatalog (available : List ToolName) : Except PyExc SkillCatalog :=
  SkillCatalog.fromSpecs builtinSkillSpecs available

/-! ### what the catalog says of an intent -/

section
variable {α : Type} {p : α → Bool}

/-- Where at most one element passes the test, a search of the kept elements finds it if it is kept. -/
theorem find?_filter_of_unique (q : α → Bool) {l : List α} (h : l.Pairwise fun a b => ¬ (p a = true ∧ p b = true)) :
    (l.filter q).find? p = (l.find? p).filter q := by
  induction l with
  | nil => rfl
  | cons a l ih =>
    rw [List.pairwise_cons] at h
    cases hp : p a with
    | false =>
      rw [List.find?_cons, hp, ← ih h.2]
      cases hq : q a with
      | false => rw [List.filter_cons_of_neg (by rw [hq]; exact Bool.false_ne_true)]
      | true => rw [List.filter_cons_of_pos hq, List.find?_cons, hp]
    | true =>
      rw [List.find?_cons, hp]
      cases hq : q a with
      | false =>
        rw [List.filter_cons_of_neg (by rw [hq]; exact Bool.false_ne_true)]
        show (l.filter q).find? p = Option.filter q (some a)
        rw [Option.filter_some_neg hq, List.find?_eq_none]
        exact fun b hb hpb => h.1 b (List.mem_of_mem_filter hb) ⟨hp, hpb⟩
      | true =>
        rw [List.filter_cons_of_pos hq, List.find?_cons, hp]
        exact (Option.filter_some_pos hq).symm

theorem find?_reverse_of_unique {l : List α} (h : l.Pairwise fun a b => ¬ (p a = true ∧ p b = true)) :
    l.reverse.find? p = l.find? p := by
  induction l with
  | nil => rfl
  | cons a l ih =>
    rw [List.pairwise_cons] at h
    rw [List.reverse_cons, List.find?_append, ih h.2]
    cases hp : p a with
    | false =>
      rw [List.find?_cons_of_neg (by rw [hp]; exact Bool.false_ne_true),
        List.find?_cons_of_neg (by rw [hp]; exact Bool.false_ne_true)]
      exact Option.or_none
    | true =>
      have hnone : l.find? p = none := List.find?_eq_none.mpr fun b hb hpb => h.1 b hb ⟨hp, hpb⟩
      rw [hnone, List.find?_cons_of_pos hp, List.find?_cons_of_pos hp]
      rfl

end

def skillOf (intent : IntentName) : Option SkillSpec :=
  builtinSkillSpecs.find? fun spec => intent ∈ spec.applicableIntents

theorem missingTools_eq_nil {available : List ToolName} {spec : SkillSpec} :
    SkillCatalog.missingTools available spec = [] ↔ ∀ t ∈ spec.requiredTools, t ∈ available := by
  have hperm := List.perm_insertionSort (fun a b : ToolName => a.value ≤ b.value)
    (spec.requiredTools.filter fun t => t ∉ available)
  constructor
  · intro h t ht
    by_contra hnot
    have hmem := hperm.mem_iff.mpr (List.mem_filter.mpr ⟨ht, decide_eq_true hnot⟩)
    unfold SkillCatalog.missingTools at h
    rw [h] at hmem
    exact absurd hmem List.not_mem_nil
  · intro h
    refine List.eq_nil_iff_forall_not_mem.mpr fun t ht => ?_
    obtain ⟨hmem, hnot⟩ := List.mem_filter.mp (hperm.mem_iff.mp ht)
    exact of_decide_eq_true hnot (h t hmem)

theorem Distinct.owner {specs : List SkillSpec} (h : Distinct specs) (intent : IntentName) :
    specs.Pairwise fun a b =>
      ¬ (decide (intent ∈ a.applicableIntents) = true ∧ decide (intent ∈ b.applicableIntents) = true) := by
  refine (List.nodup_flatMap.mp h.intents).2.imp fun hdisjoint hboth => ?_
  exact hdisjoint (of_decide_eq_true hboth.1) (of_decide_eq_true hboth.2)

/-- The catalog of the built-in skills exists for every set of tools.  A skill without missing tools serves
its intent, another one is reported with its missing tools, and the other intents have no skill. -/
theorem builtinCatalog_ok (available : List ToolName) :
    ∃ catalog, buildSkillCatalog available = .ok catalog ∧
      (∀ intent, catalog.activeForIntent intent =
        (skillOf intent).filter fun spec => SkillCatalog.missingTools available spec = []) ∧
      ∀ intent, catalog.unavailableForIntent intent =
        ((skillOf intent).filter fun spec => SkillCatalog.missingTools available spec ≠ []).map
          (SkillCatalog.disabledOf available) := by
  have hdistinct : Distinct builtinSkillSpecs := ⟨by decide, by decide⟩
  refine ⟨_, rfl, fun intent => ?_, fun intent => ?_⟩
  · exact find?_filter_of_unique _ (hdistinct.owner intent)
  · show List.find? _ (List.map _ _).reverse = _
    rw [← List.map_reverse, List.find?_map]
    congr 1
    exact (find?_reverse_of_unique ((hdistinct.filter _).owner intent)).trans
      (find?_filter_of_unique _ (hdistinct.owner intent))

end Tomtit
