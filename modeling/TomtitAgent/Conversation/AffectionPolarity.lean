import TomtitAgent.Conversation.Polarity

/-!
# Affections and their negations

Each of the four saves deletes the opposite records whose value has the key of the new one under
`_norm_cmp`; the snapshot compares persons after `canonical_person_name`, which identifies more
spellings.  A removal deletes the affections of one key and saves the negation of what it found.

`affections_apart_of_run`   in a run in which every save finds the opposite records of its person in the
spelling it looks for, no state has a person on two opposite shelves.
-/

namespace Tomtit
open Py

inductive AffectionWrite where
  | affection (value : PyStr)
  | negative (value : PyStr)
  | external (admirer : PyStr)
  | negativeExternal (admirer : PyStr)
  | add (op : MemoryOperation)
  | remove (op : MemoryOperation)
  | removePart (value : PyStr)
  | removeAll

section
variable (env : MemoryEnv)

/-- The removal of a batch: `delete_affection_fact`, and the negation of what was removed. -/
def retractAffection (value sessionId text : PyStr) (w : World) : Option PyStr × World :=
  match deleteAffectionFact env value w with
  | (some removed, w1) =>
    (some removed, (saveNegativeAffectionFact env removed sessionId text w1).2)
  | (none, w1) => (none, w1)

def Turn.writesAffection (t : Turn AffectionWrite) (w : World) : World :=
  match t.write with
  | .affection value => (saveAffectionFact env value t.sessionId t.text w).2
  | .negative value => (saveNegativeAffectionFact env value t.sessionId t.text w).2
  | .external admirer => (saveExternalAffectionFact env admirer t.sessionId t.text w).2
  | .negativeExternal admirer => (saveNegativeExternalAffectionFact env admirer t.sessionId t.text w).2
  | .add op => (applyAddAffection env op t.sessionId w).2
  | .remove op => (applyRemoveAffection env op t.sessionId w).2
  | .removePart value => (retractAffection env value t.sessionId t.text w).2
  | .removeAll => (deleteAllAffectionFacts env w).2

/-- The live records that show the person on the shelf have the key of the value. -/
def SpelledAlike (shelf : Shelf) (value : PyStr) (w : World) : Prop :=
  value ≠ [] → isDirtyValue env.toUnicode value = false →
    ∀ r ∈ w.live, r.shown env = some (shelf, env.personKey value) →
      env.norm r.metadata.value = env.norm value

/-- The affections for a person whom the removal of the value finds all have the key it looks for. -/
def RemovesPerson (value : PyStr) (w : World) : Prop :=
  ∀ r ∈ w.live, ∀ k, r.shown env = some (.affections, k) →
    env.norm r.metadata.value = canonicalizeMemoryValue env.toUnicode value →
    ∀ r' ∈ w.live, r'.shown env = some (.affections, k) →
      env.norm r'.metadata.value = canonicalizeMemoryValue env.toUnicode value

def findsOpposite (t : Turn AffectionWrite) (w : World) : Prop :=
  match t.write with
  | .affection value => SpelledAlike env .negativeAffections value w
  | .negative value => SpelledAlike env .affections value w
  | .external admirer => SpelledAlike env .negativeExternal admirer w
  | .negativeExternal admirer => SpelledAlike env .external admirer w
  | .add op => keyAmong env op (collectProfileSnapshot env w).affections = false →
      SpelledAlike env .negativeAffections op.value w
  | .remove op => keyAmong env op (collectProfileSnapshot env w).affections = true →
      RemovesPerson env op.value w
  | .removePart value => RemovesPerson env value w
  | .removeAll => True

end

def affectionPairs : List (Shelf × Shelf) :=
  [(.affections, .negativeAffections), (.external, .negativeExternal)]

def personSlot : Shelf → Option ProfileSlot
  | .affections => some .affection
  | .negativeAffections => some .negativeAffection
  | .external => some .externalAffection
  | .negativeExternal => some .negativeExternalAffection
  | _ => none

def oppositePersons : Shelf → Shelf
  | .affections => .negativeAffections
  | .negativeAffections => .affections
  | .external => .negativeExternal
  | .negativeExternal => .external
  | s => s

def slotPersons : ProfileSlot → Shelf
  | .affection => .affections
  | .negativeAffection => .negativeAffections
  | .externalAffection => .external
  | _ => .negativeExternal

theorem slotPersons_personSlot {s : Shelf} {slot : ProfileSlot} (h : personSlot s = some slot) :
    slotPersons slot = s := by
  cases s with
  | affections => exact Option.some.inj h ▸ rfl
  | negativeAffections => exact Option.some.inj h ▸ rfl
  | external => exact Option.some.inj h ▸ rfl
  | negativeExternal => exact Option.some.inj h ▸ rfl
  | _ => simp [personSlot] at h

theorem personSlot_inj {s t : Shelf} {slot : ProfileSlot} (hs : personSlot s = some slot)
    (ht : personSlot t = some slot) : s = t := by
  rw [← slotPersons_personSlot hs, slotPersons_personSlot ht]

theorem affectionPairs_spec {p : Shelf × Shelf} (hp : p ∈ affectionPairs) :
    p.2 = oppositePersons p.1 ∧ p.1 = oppositePersons p.2 ∧
      (∃ slot, personSlot p.1 = some slot) ∧ ∃ slot, personSlot p.2 = some slot := by
  simp only [affectionPairs, List.mem_cons, List.not_mem_nil, or_false] at hp
  rcases hp with rfl | rfl
  · exact ⟨rfl, rfl, ⟨_, rfl⟩, _, rfl⟩
  · exact ⟨rfl, rfl, ⟨_, rfl⟩, _, rfl⟩

section
variable {env : MemoryEnv}

theorem shown_person {r : MemoryRecord} {s : Shelf} {slot : ProfileSlot} {k : PyStr × PyStr}
    (hs : personSlot s = some slot) (h : r.shown env = some (s, k)) :
    r.slot? = some slot ∧ k = env.personKey r.metadata.value ∧ r.readable env = true := by
  obtain ⟨hread, slot', hslot, hentry⟩ := shown_eq_some h
  have hfound : some slot' = personSlot s ∧ k = env.personKey r.metadata.value := by
    cases slot' with
    | preference =>
      rw [slotEntry] at hentry
      split_ifs at hentry
      · obtain ⟨rfl, -⟩ := Prod.mk.inj (Option.some.inj hentry)
        simp [personSlot] at hs
      · obtain ⟨rfl, -⟩ := Prod.mk.inj (Option.some.inj hentry)
        simp [personSlot] at hs
    | affection =>
      obtain ⟨rfl, rfl⟩ := Prod.mk.inj (Option.some.inj hentry)
      exact ⟨rfl, rfl⟩
    | negativeAffection =>
      obtain ⟨rfl, rfl⟩ := Prod.mk.inj (Option.some.inj hentry)
      exact ⟨rfl, rfl⟩
    | externalAffection =>
      obtain ⟨rfl, rfl⟩ := Prod.mk.inj (Option.some.inj hentry)
      exact ⟨rfl, rfl⟩
    | negativeExternalAffection =>
      obtain ⟨rfl, rfl⟩ := Prod.mk.inj (Option.some.inj hentry)
      exact ⟨rfl, rfl⟩
    | _ =>
      simp only [slotEntry, Option.some.injEq, Prod.mk.injEq, reduceCtorEq] at hentry <;>
        (obtain ⟨rfl, -⟩ := hentry; simp [personSlot] at hs)
  rw [hslot, hfound.1, hs]
  exact ⟨rfl, hfound.2, hread⟩

/-! ### deletions -/

theorem mem_live_deleteAffectionFact {value : PyStr} {w : World} (hlimits : w.withinLimits)
    {r : MemoryRecord} (hr : r ∈ (deleteAffectionFact env value w).2.live) :
    r ∈ w.live ∧ (r.tagged .fact = true → r.states self (py "affection") = true →
      env.norm r.metadata.value ≠ canonicalizeMemoryValue env.toUnicode value) := by
  obtain ⟨hlive, hout⟩ :=
    (World.mem_live_deleteEach env (mem_live_of_confirmedProfileFacts env)).mp hr
  refine ⟨hlive, fun htagged hstates hkey => hout ⟨?_, ?_⟩⟩
  · exact List.mem_filter.mpr ⟨(mem_profileRecords_within hlimits.1).mpr ⟨hlive, htagged⟩,
      (Bool.and_eq_true_iff.mp hstates).1⟩
  · rw [Bool.and_eq_true]
    exact ⟨(Bool.and_eq_true_iff.mp hstates).2, decide_eq_true hkey⟩

/-! ### the invariant -/

structure AffectionsInv (env : MemoryEnv) (w : World) : Prop where
  kept : ∀ r ∈ w.live, r.tagged .fact = true ∧ r.isConfirmedProfile = true
  consistent : Consistent env affectionPairs w

theorem AffectionsInv.empty : AffectionsInv env .empty :=
  ⟨fun _ hr => absurd hr List.not_mem_nil, consistent_empty⟩

theorem AffectionsInv.sub {w w' : World} (h : AffectionsInv env w)
    (hsub : ∀ r ∈ w'.live, r ∈ w.live) : AffectionsInv env w' :=
  ⟨fun r hr => h.kept r (hsub r hr), h.consistent.sub hsub⟩

/-- A save keeps the invariant when no record is left that shows its person on the opposite shelf. -/
theorem AffectionsInv.saveFact {subject relation value content sessionId text : PyStr}
    {tags : List PyStr} {s : Shelf} {slot : ProfileSlot} (hs : personSlot s = some slot)
    (hslot : ((profileSlots.find? fun row => subject = row.1 && relation = row.2.1).map
      fun row => row.2.2) = some slot)
    (hrelation : relation ≠ py "comparative") (htags : userProfile ∈ tags) {w : World}
    (h : AffectionsInv env w)
    (hnew : env.fault w.made = none → value ≠ [] → isDirtyValue env.toUnicode value = false →
      ∀ r ∈ w.live, r.shown env ≠ some (oppositePersons s, env.personKey value)) :
    AffectionsInv env
      (saveProfileV2Fact env sessionId subject relation value content tags text [] w).2 := by
  have hextra : Extra [] := fun _ hkv => absurd hkv List.not_mem_nil
  refine ⟨?_, ?_⟩
  · refine forall_live_trySave h.kept fun r htype htag hmd => ?_
    exact isConfirmedProfile_fact htype (by rw [htag]; exact htags) (v2Fact_reads hextra hmd).2.2.1
  · refine h.consistent.save (by simp [affectionPairs]) fun hfault x hx p hp k r hr => ?_
    obtain ⟨hxslot, hvalue, -, hcomparative⟩ := v2Fact_reads hextra hx
    rw [hslot] at hxslot
    have key : ∀ s' slot', personSlot s' = some slot' → x.shown env = some (s', k) →
        r.shown env ≠ some (oppositePersons s', k) := by
      intro s' slot' hs' hshown
      obtain ⟨hslot', hk, hread⟩ := shown_person hs' hshown
      rw [hxslot, Option.some.injEq] at hslot'
      rw [← hslot'] at hs'
      rw [personSlot_inj hs' hs, hk, hvalue]
      obtain ⟨hne, hclean⟩ := Bool.and_eq_true_iff.mp hread
      rw [hvalue, decide_eq_true_eq] at hne
      rw [hcomparative, decide_eq_false hrelation, Bool.false_or, hvalue, Bool.not_eq_true'] at hclean
      exact hnew hfault hne hclean r hr
    obtain ⟨hp2, hp1, ⟨slot1, hslot1⟩, slot2, hslot2⟩ := affectionPairs_spec hp
    constructor
    · intro hshown
      rw [hp2]
      exact key p.1 slot1 hslot1 hshown
    · intro hshown
      rw [hp1]
      exact key p.2 slot2 hslot2 hshown

theorem AffectionsInv.replace {subject relation opposite value content sessionId text : PyStr}
    {tags : List PyStr} {s : Shelf} {slot oslot : ProfileSlot} (hs : personSlot s = some slot)
    (hslot : ((profileSlots.find? fun row => subject = row.1 && relation = row.2.1).map
      fun row => row.2.2) = some slot)
    (hrelation : relation ≠ py "comparative") (htags : userProfile ∈ tags)
    (ht : personSlot (oppositePersons s) = some oslot) (hconcern : oslot.concern = (subject, opposite))
    {w : World} (h : AffectionsInv env w) (hlimits : w.withinLimits)
    (halike : env.fault w.made = none → SpelledAlike env (oppositePersons s) value w) :
    AffectionsInv env (saveProfileV2Fact env sessionId subject relation value content tags text []
      (deleteProfileRecords env subject opposite value w)).2 := by
  have h1 : AffectionsInv env (deleteProfileRecords env subject opposite value w) :=
    h.sub fun r hr => live_deleteEach_sub.subset hr
  refine h1.saveFact hs hslot hrelation htags fun hfault hne hclean r hr hshown => ?_
  obtain ⟨hlive, hkeeps⟩ := mem_live_deleteProfileRecords hlimits hr
  have hmade : (deleteProfileRecords env subject opposite value w).made = w.made :=
    World.made_deleteEach env _ _
  rw [hmade] at hfault
  obtain ⟨htagged, hprofile⟩ := h.kept r hlive
  have hstates := states_of_slot hprofile (shown_person ht hshown).1
  rw [hconcern] at hstates
  exact hkeeps htagged hstates (halike hfault hne hclean r hlive hshown)

/-! ### the writes -/

theorem AffectionsInv.affection {value sessionId text : PyStr} {w : World} (h : AffectionsInv env w)
    (hlimits : w.withinLimits)
    (halike : env.fault w.made = none → SpelledAlike env .negativeAffections value w) :
    AffectionsInv env (saveAffectionFact env value sessionId text w).2 := by
  exact h.replace (s := .affections) rfl (slot_of_row 2 rfl) (by simp) List.mem_cons_self rfl rfl hlimits halike

theorem AffectionsInv.negative {value sessionId text : PyStr} {w : World} (h : AffectionsInv env w)
    (hlimits : w.withinLimits)
    (halike : env.fault w.made = none → SpelledAlike env .affections value w) :
    AffectionsInv env (saveNegativeAffectionFact env value sessionId text w).2 := by
  exact h.replace (s := .negativeAffections) rfl (slot_of_row 3 rfl) (by simp) List.mem_cons_self rfl rfl hlimits halike

theorem AffectionsInv.external {value sessionId text : PyStr} {w : World} (h : AffectionsInv env w)
    (hlimits : w.withinLimits)
    (halike : env.fault w.made = none → SpelledAlike env .negativeExternal value w) :
    AffectionsInv env (saveExternalAffectionFact env value sessionId text w).2 := by
  exact h.replace (s := .external) rfl (slot_of_row 4 rfl) (by simp) List.mem_cons_self rfl rfl hlimits halike

theorem AffectionsInv.negativeExternal {value sessionId text : PyStr} {w : World}
    (h : AffectionsInv env w) (hlimits : w.withinLimits)
    (halike : env.fault w.made = none → SpelledAlike env .external value w) :
    AffectionsInv env (saveNegativeExternalAffectionFact env value sessionId text w).2 := by
  exact h.replace (s := .negativeExternal) rfl (slot_of_row 5 rfl) (by simp) List.mem_cons_self rfl rfl hlimits halike

theorem AffectionsInv.retract {value sessionId text : PyStr} {w : World} (h : AffectionsInv env w)
    (hlimits : w.withinLimits) (hperson : env.fault w.made = none → RemovesPerson env value w) :
    AffectionsInv env (retractAffection env value sessionId text w).2 := by
  have hsub : ∀ r ∈ (deleteAffectionFact env value w).2.live, r ∈ w.live :=
    fun r hr => live_deleteEach_sub.subset hr
  have h1 := h.sub hsub
  have hlimits1 := hlimits.sub (show (deleteAffectionFact env value w).2.live.Sublist w.live from
    live_deleteEach_sub)
  have hmade : (deleteAffectionFact env value w).2.made = w.made := World.made_deleteEach env _ _
  unfold retractAffection
  cases e : deleteAffectionFact env value w with
  | mk found w1 =>
    rw [e] at h1 hlimits1 hmade
    cases found with
    | none => exact h1
    | some removed =>
      refine h1.negative hlimits1 fun hfault hne hclean r' hr' hshown' => ?_
      obtain ⟨r, hr, hcond, hvalue⟩ := exists_of_matchedValue (congrArg Prod.fst e)
      rw [Bool.and_eq_true, decide_eq_true_eq] at hcond
      obtain ⟨hconcerns, hkey⟩ := hcond
      have hlive := mem_live_of_confirmedProfileFacts env r hr
      have hslot : r.slot? = some .affection := by
        rw [slot_of_concerns hconcerns]
        exact slot_of_row 2 rfl
      have hshown : r.shown env = some (.affections, env.personKey removed) := by
        rw [← hvalue] at hne hclean ⊢
        unfold MemoryRecord.shown MemoryRecord.readable
        rw [hslot, decide_eq_true hne, hclean, Bool.not_false, Bool.or_true]
        rfl
      have hgone : r' ∈ (deleteAffectionFact env value w).2.live := by
        rw [e]
        exact hr'
      obtain ⟨hlive', hkeeps⟩ := mem_live_deleteAffectionFact hlimits hgone
      obtain ⟨htagged', hprofile'⟩ := h.kept r' hlive'
      rw [hmade] at hfault
      have hkey' := hperson hfault r hlive _ hshown hkey r' hlive' hshown'
      have hslot' : r'.slot? = some .affection := (shown_person rfl hshown').1
      exact absurd hkey' (hkeeps htagged' (states_of_slot hprofile' hslot'))

theorem AffectionsInv.step {t : Turn AffectionWrite} {w : World} (h : AffectionsInv env w)
    (hlimits : w.withinLimits) (hfinds : env.fault w.made = none → findsOpposite env t w) :
    AffectionsInv env (t.writesAffection env w) := by
  obtain ⟨sessionId, text, write⟩ := t
  cases write with
  | affection value => exact h.affection hlimits hfinds
  | negative value => exact h.negative hlimits hfinds
  | external admirer => exact h.external hlimits hfinds
  | negativeExternal admirer => exact h.negativeExternal hlimits hfinds
  | add op =>
    show AffectionsInv env (applyAddAffection env op sessionId w).2
    unfold applyAddAffection
    cases hactive : keyAmong env op (collectProfileSnapshot env w).affections with
    | true => exact h
    | false =>
      have hadd := @AffectionsInv.affection env op.value sessionId op.rawText w h hlimits
        fun hfault => hfinds hfault hactive
      show AffectionsInv env (afterSave _ _).2
      rw [afterSave_snd]
      exact hadd
  | remove op =>
    show AffectionsInv env (applyRemoveAffection env op sessionId w).2
    unfold applyRemoveAffection
    cases hactive : keyAmong env op (collectProfileSnapshot env w).affections with
    | false => exact h
    | true =>
      have hremove := @AffectionsInv.retract env op.value sessionId op.rawText w h hlimits
        fun hfault => hfinds hfault hactive
      unfold retractAffection at hremove
      simp only [Bool.not_true, Bool.false_eq_true, if_false]
      generalize deleteAffectionFact env op.value w = d at hremove ⊢
      obtain ⟨_ | removed, w1⟩ := d
      · exact hremove
      · exact hremove
  | removePart value => exact h.retract hlimits hfinds
  | removeAll => exact h.sub fun r hr => live_deleteEach_sub.subset hr

/-- In a run within the search limits in which every write finds the opposite records of its person,
no state has a person on two opposite shelves. -/
theorem affections_apart_of_run {w : World}
    (h : Reachable (fun t => Turn.writesAffection env t)
      (fun t w => w.withinLimits ∧ (env.fault w.made = none → findsOpposite env t w)) .empty w) :
    Apart env (collectProfileSnapshot env w).affections (collectProfileSnapshot env w).negativeAffections ∧
      Apart env (collectProfileSnapshot env w).externalAffections
        (collectProfileSnapshot env w).negativeExternalAffections := by
  have hinv : AffectionsInv env w :=
    h.invariant AffectionsInv.empty fun t w hok hw => hw.step hok.1 hok.2
  refine ⟨apart_of_keys fun k hk => ?_, apart_of_keys fun k hk => ?_⟩
  · exact hinv.consistent.not_mem_keys (p := (.affections, .negativeAffections))
      (by simp [affectionPairs]) hk
  · exact hinv.consistent.not_mem_keys (p := (.external, .negativeExternal))
      (by simp [affectionPairs]) hk

end

/-! ### one person in two spellings -/

def likesMay : Turn AffectionWrite := ⟨py "s", [], .affection (py "may")⟩

def leavesMay : Turn AffectionWrite := ⟨py "s", [], .negative (py "may cũng")⟩

def affectionMemory (relation value content : PyStr) : NewMemory where
  content := content
  type := .fact
  tags := [userProfile, self, py "affection"]
  importance := weight08
  confidence := weight095
  source := .user
  metadata := v2Metadata self relation value [] []
  texts := profileMetadata_texts _ _

theorem likesMay_run : likesMay.writesAffection plainEnv .empty = (trySave plainEnv (py "s")
    (affectionMemory (py "affection") (py "may") (py "bạn có tình cảm/thích " ++ py "may")) .empty).2 := by
  have hnone : deleteProfileRecords plainEnv self (py "negative_affection") (py "may") .empty = .empty := by
    unfold deleteProfileRecords
    rw [profileRecords_empty]
    rfl
  show (saveAffectionFact plainEnv (py "may") (py "s") [] .empty).2 = _
  unfold saveAffectionFact
  rw [hnone]
  rfl

theorem uTilde_small : 'ũ' ∈ vietnameseLetters.toList := by
  rw [← mem_py]
  unfold vietnameseLetters
  rw [py_ofList]
  decide

theorem mayAlso_eq : py "may cũng" = py "may" ++ space :: py "cũng" := by
  rw [py_ofList, py_ofList, py_ofList]
  rfl

theorem split_mayAlso : split (py "may cũng") = [py "may", py "cũng"] := by
  have hmay : IsWord (py "may") := isWord_py (by simp) (by simp; decide)
  have halso : IsWord (py "cũng") := isWord_py (by simp) (by simp; decide)
  rw [mayAlso_eq, split_append_space isSpace_space, split_word hmay.1 hmay.2, split_word halso.1 halso.2]
  rfl

theorem norm_mayAlso : plainEnv.norm (py "may cũng") = py "may cũng" := by
  have hmay : asciiUnicode.lower (py "may") = py "may" := asciiUnicode.lower_py (by simp)
  have halso : asciiUnicode.lower (py "cũng") = py "cũng" :=
    asciiUnicode.lower_py (by simp [uTilde_small])
  show normCmp asciiUnicode (py "may cũng") = _
  rw [normCmp_eq, split_mayAlso, List.map_cons, List.map_singleton, hmay, halso,
    joinWith_cons _ _ (by simp), joinWith_singleton]
  exact mayAlso_eq.symm

theorem isWord_may : IsWord (py "may") := isWord_py (by simp) (by simp; decide)

theorem norm_may : plainEnv.norm (py "may") = py "may" := by
  show normCmp asciiUnicode (py "may") = _
  rw [normCmp_word asciiUnicode isWord_may]
  exact asciiUnicode.lower_py (by simp)

theorem clean_may : isDirtyValue plainEnv.toUnicode (py "may") = false := by
  refine isDirtyValue_of_chars _ ?_ ?_
  · rw [show normCmp plainEnv.toUnicode (py "may") = py "may" from norm_may]
    simp [dirtyValueMarkers, dirtyValueQuestionTails, dirtyValueTerminal, List.subset_def,
      exists_mem_py, mem_py]
  · rw [split_strip, split_word isWord_may.1 isWord_may.2]
    simp

theorem clean_mayAlso : isDirtyValue plainEnv.toUnicode (py "may cũng") = false := by
  refine isDirtyValue_of_chars _ ?_ ?_
  · rw [show normCmp plainEnv.toUnicode (py "may cũng") = py "may cũng" from norm_mayAlso]
    simp [dirtyValueMarkers, dirtyValueQuestionTails, dirtyValueTerminal, List.subset_def,
      exists_mem_py, mem_py]
  · rw [split_strip, split_mayAlso]
    simp

theorem leavesMay_run : leavesMay.writesAffection plainEnv (likesMay.writesAffection plainEnv .empty) =
    (trySave plainEnv (py "s") (affectionMemory (py "negative_affection") (py "may cũng")
      (py "bạn không còn thích/quan tâm " ++ py "may cũng"))
      (likesMay.writesAffection plainEnv .empty)).2 := by
  have hnone : deleteProfileRecords plainEnv self (py "affection") (py "may cũng")
      (likesMay.writesAffection plainEnv .empty) = likesMay.writesAffection plainEnv .empty := by
    refine deleteEach_of_none (List.any_eq_false.mpr fun r hr => ?_) _
    have hlive := mem_live_of_profileRecords plainEnv r hr
    rw [likesMay_run] at hlive
    rcases mem_live_trySave hlive with hempty | ⟨-, -, hmd⟩
    · exact absurd hempty List.not_mem_nil
    · have hvalue := (v2Fact_reads (fun _ h => absurd h List.not_mem_nil) hmd).2.1
      rw [hvalue, Bool.and_eq_true, decide_eq_true_eq]
      rintro ⟨-, e⟩
      rw [show normCmp plainEnv.toUnicode (py "may") = py "may" from norm_may,
        show normCmp plainEnv.toUnicode (py "may cũng") = py "may cũng" from norm_mayAlso] at e
      simp at e
  show (saveNegativeAffectionFact plainEnv (py "may cũng") (py "s") [] _).2 = _
  unfold saveNegativeAffectionFact
  rw [hnone]
  rfl

theorem discourse_may : isDiscourseModifier asciiUnicode (py "may") = false := by
  unfold isDiscourseModifier
  rw [asciiUnicode.lower_py (s := "may") (by simp)]
  simp [personDiscourseModifiers]

theorem personKey_of_core {v : PyStr} (h : ((((split v).dropWhile (isDiscourseModifier asciiUnicode)).reverse.dropWhile
    (isDiscourseModifier asciiUnicode)).reverse) = [py "may"]) : plainEnv.personKey v = ([], py "may") := by
  have hname : canonicalPersonName plainEnv.toUnicode v = py "may" := by
    unfold canonicalPersonName
    rw [show split (collapse (strip v)) = split v by rw [collapse_strip, split_joinWith (split_words v)]]
    dsimp only
    rw [show plainEnv.toUnicode = asciiUnicode from rfl, h, if_neg (by simp), joinWith_singleton]
  unfold MemoryEnv.personKey
  rw [hname, norm_may]

theorem personKey_may : plainEnv.personKey (py "may") = ([], py "may") := by
  refine personKey_of_core ?_
  rw [split_word isWord_may.1 isWord_may.2]
  simp [List.dropWhile, discourse_may]

theorem personKey_mayAlso : plainEnv.personKey (py "may cũng") = plainEnv.personKey (py "may") := by
  have halso : isDiscourseModifier asciiUnicode (py "cũng") = true := by
    unfold isDiscourseModifier
    rw [asciiUnicode.lower_py (s := "cũng") (by simp [uTilde_small])]
    simp [personDiscourseModifiers]
  rw [personKey_may]
  refine personKey_of_core ?_
  rw [split_mayAlso]
  simp [List.dropWhile, discourse_may, halso]

theorem affectionMemory_spec {relation value content : PyStr} {s : Shelf} {slot : ProfileSlot}
    (hs : personSlot s = some slot)
    (hslot : ((profileSlots.find? fun row => self = row.1 && relation = row.2.1).map
      fun row => row.2.2) = some slot)
    (hne : value ≠ []) (hclean : isDirtyValue plainEnv.toUnicode value = false) {r : MemoryRecord}
    (htype : r.type = (affectionMemory relation value content).type)
    (htags : r.tags = (affectionMemory relation value content).tags)
    (hmd : r.metadata = (affectionMemory relation value content).metadata) :
    r.isConfirmedProfile = true ∧ r.shown plainEnv = some (s, plainEnv.personKey value) := by
  have hextra : Extra [] := fun _ h => absurd h List.not_mem_nil
  refine ⟨(isConfirmedProfile_fact htype (by rw [htags]; exact List.mem_cons_self)
    (v2Fact_reads hextra hmd).2.2.1).2, ?_⟩
  rw [shown_v2 plainEnv hmd hextra, if_pos ⟨hne, .inr hclean⟩, hslot]
  cases s with
  | affections => exact Option.some.inj hs ▸ rfl
  | negativeAffections => exact Option.some.inj hs ▸ rfl
  | external => exact Option.some.inj hs ▸ rfl
  | negativeExternal => exact Option.some.inj hs ▸ rfl
  | _ => simp [personSlot] at hs

def partsFromMay : World :=
  Turn.writesAffection plainEnv ⟨py "s", [], .negative (py "may")⟩
    (likesMay.writesAffection plainEnv .empty)

theorem affections_apart_partsFromMay :
    (∃ r ∈ (likesMay.writesAffection plainEnv .empty).live,
      r.shown plainEnv = some (.affections, plainEnv.personKey (py "may"))) ∧
    Apart plainEnv (collectProfileSnapshot plainEnv partsFromMay).affections
        (collectProfileSnapshot plainEnv partsFromMay).negativeAffections ∧
      Apart plainEnv (collectProfileSnapshot plainEnv partsFromMay).externalAffections
        (collectProfileSnapshot plainEnv partsFromMay).negativeExternalAffections := by
  have hcontent : strip (affectionMemory (py "affection") (py "may")
      (py "bạn có tình cảm/thích " ++ py "may")).content ≠ [] :=
    strip_append_ne_nil (c := 'b') (by simp) rfl
  obtain ⟨hlive, -⟩ := @trySave_fresh plainEnv (py "s") _ hcontent .empty rfl List.not_mem_nil
  rw [← likesMay_run] at hlive
  have hone : (likesMay.writesAffection plainEnv .empty).live.length = 1 := by
    rw [hlive]
    rfl
  refine ⟨⟨_, by rw [hlive]; exact List.mem_append_right _ List.mem_cons_self, ?_⟩,
    affections_apart_of_run ((Reachable.start.next ⟨⟨Nat.zero_le _, Nat.zero_le _⟩,
      fun _ _ _ _ hr => absurd hr List.not_mem_nil⟩).next
      ⟨withinLimits_of_length (by rw [hone]; simp), ?_⟩)⟩
  · exact (@affectionMemory_spec (py "affection") (py "may") (py "bạn có tình cảm/thích " ++ py "may")
      .affections _ rfl (slot_of_row 2 rfl) isWord_may.1 clean_may _ rfl rfl rfl).2
  · intro _ _ _ r hr _
    rw [likesMay_run] at hr
    rcases mem_live_trySave hr with hempty | hsaved
    · exact absurd hempty List.not_mem_nil
    · rw [(v2Fact_reads (fun _ h => absurd h List.not_mem_nil) hsaved.2.2).2.1]

/-- The affection for one spelling outlives the negation of the other. -/
theorem not_affections_apart :
    ¬ ∀ w, Reachable (fun t => Turn.writesAffection plainEnv t) (fun _ w => w.withinLimits) .empty w →
      Apart plainEnv (collectProfileSnapshot plainEnv w).affections
          (collectProfileSnapshot plainEnv w).negativeAffections ∧
        Apart plainEnv (collectProfileSnapshot plainEnv w).externalAffections
          (collectProfileSnapshot plainEnv w).negativeExternalAffections := by
  intro h
  have hcontent : ∀ {relation value : PyStr} {s : String} {v : PyStr}, 'b' ∈ s.toList →
      strip (affectionMemory relation value (py s ++ v)).content ≠ [] := by
    intro relation value s v hs
    exact strip_append_ne_nil hs rfl
  have hlikes : 'b' ∈ "bạn có tình cảm/thích ".toList := by simp
  have hleaves : 'b' ∈ "bạn không còn thích/quan tâm ".toList := by simp
  obtain ⟨r₁, r₂, hlive₁, hlive₂, ⟨htype₁, htags₁, hmd₁⟩, htype₂, htags₂, hmd₂⟩ :=
    two_saves (hcontent hlikes) (hcontent hleaves) likesMay_run leavesMay_run
  have hlimits₁ := withinLimits_of_length (w := likesMay.writesAffection plainEnv .empty)
    (by rw [hlive₁]; simp)
  have hlimits₂ := withinLimits_of_length
    (w := leavesMay.writesAffection plainEnv (likesMay.writesAffection plainEnv .empty))
    (by rw [hlive₂]; simp)
  have hreach : Reachable (fun t => Turn.writesAffection plainEnv t) (fun _ w => w.withinLimits) .empty
      (leavesMay.writesAffection plainEnv (likesMay.writesAffection plainEnv .empty)) :=
    (Reachable.start.next ⟨Nat.zero_le _, Nat.zero_le _⟩).next hlimits₁
  have hne : py "may cũng" ≠ [] := by
    intro e
    have hsplit := split_mayAlso
    rw [e, split_nil] at hsplit
    exact absurd hsplit (by simp)
  obtain ⟨hprofile₁, hshown₁⟩ := affectionMemory_spec (s := .affections) rfl
    (slot_of_row 2 rfl) isWord_may.1 clean_may htype₁ htags₁ hmd₁
  obtain ⟨hprofile₂, hshown₂⟩ := affectionMemory_spec (s := .negativeAffections) rfl
    (slot_of_row 3 rfl) hne clean_mayAlso htype₂ htags₂ hmd₂
  refine not_apart_of_keys (k := plainEnv.personKey (py "may")) ?_ ?_ (h _ hreach).1
  · refine (mem_keys_within hlimits₂ (s := .affections)).mpr ⟨r₁, ?_, hprofile₁, hshown₁⟩
    rw [hlive₂]
    simp
  · rw [personKey_mayAlso] at hshown₂
    refine (mem_keys_within hlimits₂ (s := .negativeAffections)).mpr ⟨r₂, ?_, hprofile₂, hshown₂⟩
    rw [hlive₂]
    simp

end Tomtit
