import TomtitAgent.Conversation.Completeness
import TomtitAgent.Conversation.ProfileEffects
import TomtitAgent.Python.Reachable

/-!
# Opposite statements in the profile

A profile is `Consistent` for pairs of shelves when no two live records show one entry on the two
shelves of a pair.  The snapshot of a consistent profile has no value on both (`Consistent.apart`).

Every write is a loop of deletions and a save.  `Consistent.delete` and `Consistent.save` are what
they do to a consistent profile: a save keeps it consistent when the deletions before it left no
record that shows the entry of the save on the opposite shelf.
-/

namespace Tomtit
open Py

/-- A write of a turn: the session and the message it comes from. -/
structure Turn (α : Type) where
  sessionId : PyStr
  text : PyStr
  write : α

section
variable {env : MemoryEnv}

/-! ### slots and shelves -/

def ProfileSlot.concern (slot : ProfileSlot) : PyStr × PyStr :=
  ((profileSlots.find? fun row => row.2.2 = slot).map fun row => (row.1, row.2.1)).getD ([], [])

theorem concerns_of_slot {r : MemoryRecord} {slot : ProfileSlot} (h : r.slot? = some slot) :
    r.concerns slot.concern.1 slot.concern.2 = true := by
  have htable : ∀ row ∈ profileSlots, row.2.2.concern = (row.1, row.2.1) := by
    unfold profileSlots
    simp only [List.forall_mem_cons, List.not_mem_nil, false_implies, implies_true, and_true]
    exact ⟨rfl, rfl, rfl, rfl, rfl, rfl, rfl, rfl, rfl, rfl, rfl, rfl, rfl, rfl, rfl, rfl, rfl, rfl,
      rfl, rfl, rfl, rfl⟩
  obtain ⟨row, hrow, rfl⟩ := Option.map_eq_some_iff.mp h
  rw [htable row (List.mem_of_find?_eq_some hrow)]
  have hc : (fun row : PyStr × PyStr × ProfileSlot => r.concerns row.1 row.2.1) row = true :=
    List.find?_some (p := fun row : PyStr × PyStr × ProfileSlot => r.concerns row.1 row.2.1) hrow
  exact hc

theorem slot_of_concerns {r : MemoryRecord} {subject relation : PyStr}
    (h : r.concerns subject relation = true) :
    r.slot? = (profileSlots.find? fun row => subject = row.1 && relation = row.2.1).map
      fun row => row.2.2 := by
  obtain ⟨hs, hr⟩ := Bool.and_eq_true_iff.mp h
  have hsubject : (r.metadata.dict.get? (py "subject")).bind PyVal.asStr = some subject :=
    of_decide_eq_true hs
  have hrelation : (r.metadata.dict.get? (py "relation")).bind PyVal.asStr = some relation :=
    of_decide_eq_true hr
  unfold MemoryRecord.slot? MemoryRecord.concerns Metadata.is holdsText
  rw [hsubject, hrelation]
  simp only [Option.some.injEq]

theorem shown_congr {r r' : MemoryRecord} (h : r.metadata = r'.metadata) :
    r.shown env = r'.shown env := by
  unfold MemoryRecord.shown MemoryRecord.readable MemoryRecord.slot? MemoryRecord.concerns
  rw [h]

theorem shown_eq_some {r : MemoryRecord} {s : Shelf} {k : PyStr × PyStr}
    (h : r.shown env = some (s, k)) : r.readable env = true ∧
      ∃ slot, r.slot? = some slot ∧ slotEntry env r.metadata r.metadata.value slot = some (s, k) := by
  unfold MemoryRecord.shown at h
  split_ifs at h with hread
  obtain ⟨slot, hslot, hentry⟩ := Option.bind_eq_some_iff.mp h
  exact ⟨hread, slot, hslot, hentry⟩

theorem isConfirmedProfile_fact {r : MemoryRecord} (htype : r.type = .fact)
    (htags : userProfile ∈ r.tags) (hconfirmed : r.metadata.confirmedProfile = true) :
    r.tagged .fact = true ∧ r.isConfirmedProfile = true := by
  have htagged : r.tagged .fact = true := by
    unfold MemoryRecord.tagged
    rw [htype, decide_eq_true htags]
    rfl
  refine ⟨htagged, ?_⟩
  unfold MemoryRecord.isConfirmedProfile
  rw [htagged, hconfirmed]
  rfl

theorem v2Fact_reads {subject relation value originalText : PyStr} {extra : List (PyStr × PyStr)}
    (hextra : Extra extra) {x : MemoryRecord}
    (hx : x.metadata = v2Metadata subject relation value originalText extra) :
    x.slot? = ((profileSlots.find? fun row => subject = row.1 && relation = row.2.1).map
        fun row => row.2.2) ∧ x.metadata.value = value ∧ x.metadata.confirmedProfile = true ∧
      ∀ s, x.metadata.is (py "relation") s = decide (relation = s) := by
  obtain ⟨hvalue, hconfirmed, -, -, hrelation⟩ :=
    @v2Metadata_reads subject relation value originalText extra hextra
  rw [slot?_v2 hx hextra, hx]
  exact ⟨rfl, hvalue, hconfirmed, hrelation⟩

theorem states_of_slot {r : MemoryRecord} {slot : ProfileSlot} (hprofile : r.isConfirmedProfile = true)
    (h : r.slot? = some slot) : r.states slot.concern.1 slot.concern.2 = true := by
  unfold MemoryRecord.states
  rw [(Bool.and_eq_true_iff.mp hprofile).2, concerns_of_slot h]
  rfl

/-- Within the limits `_delete_profile_records` leaves no record of the subject, the relation and the
key. -/
theorem mem_live_deleteProfileRecords {subject relation value : PyStr} {w : World}
    (hlimits : w.withinLimits) {r : MemoryRecord}
    (hr : r ∈ (deleteProfileRecords env subject relation value w).live) :
    r ∈ w.live ∧ (r.tagged .fact = true → r.states subject relation = true →
      env.norm r.metadata.value ≠ env.norm value) := by
  obtain ⟨hlive, hout⟩ :=
    (World.mem_live_deleteEach env (mem_live_of_profileRecords env)).mp hr
  refine ⟨hlive, fun htagged hstates hkey => hout ⟨?_, ?_⟩⟩
  · exact (mem_profileRecords_within hlimits.1).mpr ⟨hlive, htagged⟩
  · rw [Bool.and_eq_true]
    exact ⟨hstates, decide_eq_true hkey⟩

/-! ### consistent profiles -/

/-- No value of one list equals one of the other under `_norm_cmp`. -/
def Apart (env : MemoryEnv) (xs ys : List PyStr) : Prop := ∀ x ∈ xs, ∀ y ∈ ys, env.norm x ≠ env.norm y

/-- No two live records show one entry on the two shelves of a pair. -/
def Consistent (env : MemoryEnv) (pairs : List (Shelf × Shelf)) (w : World) : Prop :=
  ∀ p ∈ pairs, ∀ r ∈ w.live, ∀ r' ∈ w.live, ∀ k,
    r.shown env = some (p.1, k) → r'.shown env ≠ some (p.2, k)

variable {pairs : List (Shelf × Shelf)}

theorem consistent_empty : Consistent env pairs .empty := fun _ _ _ hr => absurd hr List.not_mem_nil

theorem Consistent.not_mem_keys {w : World} (h : Consistent env pairs w) {p : Shelf × Shelf}
    (hp : p ∈ pairs) {k : PyStr × PyStr} (hk : k ∈ (collectProfileSnapshot env w).keys env p.1) :
    k ∉ (collectProfileSnapshot env w).keys env p.2 := by
  intro hk'
  obtain ⟨r, hr, e⟩ := (mem_keys_collect env).mp hk
  obtain ⟨r', hr', e'⟩ := (mem_keys_collect env).mp hk'
  exact h p hp r ((mem_confirmedRecords env).mp hr).1 r' ((mem_confirmedRecords env).mp hr').1 k e e'

theorem mem_keys_within {w : World} (hlimits : w.withinLimits) {s : Shelf} {k : PyStr × PyStr} :
    k ∈ (collectProfileSnapshot env w).keys env s ↔
      ∃ r ∈ w.live, r.isConfirmedProfile = true ∧ r.shown env = some (s, k) := by
  have hread : ∀ r, r ∈ confirmedRecords env w ↔ r ∈ w.live ∧ r.isConfirmedProfile = true := by
    intro r
    unfold confirmedRecords MemoryRecord.isConfirmedProfile
    rw [List.mem_insertionSort, List.mem_filter, List.mem_append, mem_profileRecords_within hlimits.1,
      mem_profileRecords_within hlimits.2, ← and_or_left, Bool.and_eq_true, Bool.or_eq_true, and_assoc]
  rw [mem_keys_collect]
  constructor
  · rintro ⟨r, hr, e⟩
    exact ⟨r, ((hread r).mp hr).1, ((hread r).mp hr).2, e⟩
  · rintro ⟨r, hlive, hprofile, e⟩
    exact ⟨r, (hread r).mpr ⟨hlive, hprofile⟩, e⟩

theorem not_apart_of_keys {xs ys : List PyStr} {k : PyStr × PyStr} (hx : k ∈ valueKeys env xs)
    (hy : k ∈ valueKeys env ys) : ¬ Apart env xs ys := by
  intro h
  obtain ⟨x, hmem, rfl⟩ := List.mem_map.mp hx
  obtain ⟨y, hmem', e⟩ := List.mem_map.mp hy
  exact h x hmem y hmem' (Prod.mk.inj e).2.symm

theorem apart_of_keys {xs ys : List PyStr} (h : ∀ k ∈ valueKeys env xs, k ∉ valueKeys env ys) :
    Apart env xs ys := by
  intro x hx y hy e
  have hy' : ([], env.norm y) ∈ valueKeys env ys := List.mem_map.mpr ⟨y, hy, rfl⟩
  refine h ([], env.norm x) (List.mem_map.mpr ⟨x, hx, rfl⟩) ?_
  rw [e]
  exact hy'

theorem forall_live_trySave {P : MemoryRecord → Prop} {sessionId : PyStr} {m : NewMemory} {w : World}
    (h : ∀ r ∈ w.live, P r)
    (hm : ∀ r : MemoryRecord, r.type = m.type → r.tags = m.tags → r.metadata = m.metadata → P r) :
    ∀ r ∈ (trySave env sessionId m w).2.live, P r := by
  intro r hr
  rcases mem_live_trySave hr with hr | ⟨htype, htags, hmd⟩
  · exact h r hr
  · exact hm r htype htags hmd

theorem Consistent.sub {w w' : World} (h : Consistent env pairs w)
    (hsub : ∀ r ∈ w'.live, r ∈ w.live) : Consistent env pairs w' :=
  fun p hp r hr r' hr' => h p hp r (hsub r hr) r' (hsub r' hr')

/-- A save keeps a profile consistent when no record shows its entry on the opposite shelf. -/
theorem Consistent.save {sessionId : PyStr} {m : NewMemory} {w : World}
    (h : Consistent env pairs w) (hpairs : ∀ p ∈ pairs, p.1 ≠ p.2)
    (hnew : env.fault w.made = none → ∀ x : MemoryRecord, x.metadata = m.metadata →
      ∀ p ∈ pairs, ∀ k, ∀ r ∈ w.live,
        (x.shown env = some (p.1, k) → r.shown env ≠ some (p.2, k)) ∧
        (x.shown env = some (p.2, k) → r.shown env ≠ some (p.1, k))) :
    Consistent env pairs (trySave env sessionId m w).2 := by
  by_cases hsaved : (trySave env sessionId m w).1 = true
  · have hfault : env.fault w.made = none := by
      by_contra hf
      by_cases hm : strip m.content = []
      · unfold trySave MemoryAgent.saveMemory at hsaved
        rw [if_pos hm] at hsaved
        exact Bool.noConfusion hsaved
      · rw [trySave_fst hm] at hsaved
        exact hf (Option.isNone_iff_eq_none.mp hsaved)
    intro p hp r hr r' hr' k e e'
    rcases mem_live_trySave hr with hr | ⟨-, -, hr⟩
    · rcases mem_live_trySave hr' with hr' | ⟨-, -, hr'⟩
      · exact h p hp r hr r' hr' k e e'
      · exact (hnew hfault r' hr' p hp k r hr).2 e' e
    · rcases mem_live_trySave hr' with hr' | ⟨-, -, hr'⟩
      · exact (hnew hfault r hr p hp k r' hr').1 e e'
      · rw [shown_congr (hr.trans hr'.symm), e'] at e
        exact hpairs p hp (Prod.mk.inj (Option.some.inj e)).1.symm
  · rw [Bool.not_eq_true] at hsaved
    intro p hp r hr r' hr'
    rw [trySave_live hsaved] at hr hr'
    exact h p hp r hr r' hr'

end

/-! ### two saves from the empty store -/

theorem two_saves {sessionId : PyStr} {m₁ m₂ : NewMemory} (h₁ : strip m₁.content ≠ [])
    (h₂ : strip m₂.content ≠ []) {w₁ w₂ : World} (e₁ : w₁ = (trySave plainEnv sessionId m₁ .empty).2)
    (e₂ : w₂ = (trySave plainEnv sessionId m₂ w₁).2) :
    ∃ r₁ r₂, w₁.live = [r₁] ∧ w₂.live = [r₁, r₂] ∧
      (r₁.type = m₁.type ∧ r₁.tags = m₁.tags ∧ r₁.metadata = m₁.metadata) ∧
      (r₂.type = m₂.type ∧ r₂.tags = m₂.tags ∧ r₂.metadata = m₂.metadata) := by
  obtain ⟨hlive₁, hmade₁, hkeys₁⟩ :=
    @trySave_fresh plainEnv sessionId m₁ h₁ .empty rfl List.not_mem_nil
  rw [← e₁] at hlive₁ hmade₁ hkeys₁
  have hfresh : plainEnv.uuid w₁.made ∉ w₁.store.records.keys := by
    rw [hkeys₁, hmade₁]
    decide
  obtain ⟨hlive₂, -⟩ := @trySave_fresh plainEnv sessionId m₂ h₂ w₁ rfl hfresh
  rw [← e₂, hlive₁] at hlive₂
  exact ⟨_, _, hlive₁, hlive₂, ⟨rfl, rfl, rfl⟩, rfl, rfl, rfl⟩

end Tomtit
