import TomtitAgent.Conversation.Completeness

/-!
# The snapshot is well formed

Whatever the store holds, the snapshot repeats no value, contradicts itself on no skill, and knows
its user's names.

* `ValueList`          the fields of the snapshot that are lists of values;
* `Draft`              what holds after each record of the loop;
* `draft_readRecord`   one record keeps it;
* `wellFormed_collect` the corrections after the loop turn it into `ProfileSnapshot.WellFormed`.
-/

namespace Tomtit
open Py

/-- The fields of type `list[str]`. -/
inductive ValueList where
  | occupation | skills | learning | goals | marryTargets | eatDesires | todayIntentions
  | preferencesPersonal | preferencesProfessional | habits | pets | dislikes | affections
  | externalAffections | negativeAffections | negativeExternalAffections | previousNames
  | negativeSkills | negativeGoals
deriving DecidableEq, Repr

def ProfileSnapshot.values (snap : ProfileSnapshot) : ValueList → List PyStr
  | .occupation => snap.occupation
  | .skills => snap.skills
  | .learning => snap.learning
  | .goals => snap.goals
  | .marryTargets => snap.marryTargets
  | .eatDesires => snap.eatDesires
  | .todayIntentions => snap.todayIntentions
  | .preferencesPersonal => snap.preferencesPersonal
  | .preferencesProfessional => snap.preferencesProfessional
  | .habits => snap.habits
  | .pets => snap.pets
  | .dislikes => snap.dislikes
  | .affections => snap.affections
  | .externalAffections => snap.externalAffections
  | .negativeAffections => snap.negativeAffections
  | .negativeExternalAffections => snap.negativeExternalAffections
  | .previousNames => snap.previousNames
  | .negativeSkills => snap.negativeSkills
  | .negativeGoals => snap.negativeGoals

section
variable (env : MemoryEnv)

/-- The name is the current one or a previous one, up to `_norm_cmp`. -/
def ProfileSnapshot.knowsName (snap : ProfileSnapshot) (val : PyStr) : Prop :=
  (∃ n, snap.name = some n ∧ env.norm val = env.norm n) ∨
    env.norm val ∈ snap.previousNames.map env.norm

/-- A confirmed record that gives the user's own name with a clean value. -/
def MemoryRecord.namesUser (r : MemoryRecord) (val : PyStr) : Prop :=
  r.isConfirmedProfile = true ∧ r.concerns self (py "name") = true ∧ r.metadata.value = val ∧
    val ≠ [] ∧ isDirtyValue env.toUnicode val = false

/-- What the snapshot of a store is to satisfy. -/
structure ProfileSnapshot.WellFormed (snap : ProfileSnapshot) (w : World) : Prop where
  distinct : ∀ l, ((snap.values l).map env.norm).Nodup
  relations : snap.relations.Nodup
  comparatives : snap.comparatives.Nodup
  skills : ∀ s ∈ snap.skills, ∀ t ∈ snap.negativeSkills, env.norm s ≠ env.norm t
  name : ∀ n, snap.name = some n → env.norm n ∉ snap.previousNames.map env.norm
  names : ∀ r ∈ w.live, w.aheadOf r.type r < 200 → ∀ val, r.namesUser env val →
    snap.knowsName env val
  focus : ∀ f, snap.currentFocus = some f → env.norm f ∈ snap.goals.map env.norm

/-- The state of the loop over the records: no field repeats a value, the texts that the later
truth tests look at are not empty, and the focus is among the goals. -/
structure Draft (snap : ProfileSnapshot) : Prop where
  distinct : ∀ l, ((snap.values l).map env.norm).Nodup
  relations : snap.relations.Nodup
  comparatives : snap.comparatives.Nodup
  name : snap.name ≠ some []
  focus : ∀ f, snap.currentFocus = some f → f ≠ [] ∧ env.norm f ∈ snap.goals.map env.norm

/-! ### the lists -/

theorem addValue_distinct {bucket : List PyStr} (val : PyStr) (h : (bucket.map env.norm).Nodup) :
    ((addValue env bucket val).map env.norm).Nodup := by
  unfold addValue
  split_ifs with hv
  · exact h
  · rw [List.map_append, List.map_singleton]
    refine List.nodup_append.mpr ⟨h, List.nodup_singleton _, fun a ha b hb => ?_⟩
    rw [List.mem_singleton] at hb
    subst hb
    exact fun e => hv (e ▸ ha)

theorem addPair_nodup {pairs : List (PyStr × PyStr)} (p : PyStr × PyStr) (h : pairs.Nodup) :
    (addPair pairs p).Nodup := by
  unfold addPair
  split_ifs with hp
  · exact h
  · refine List.nodup_append.mpr ⟨h, List.nodup_singleton _, fun a ha b hb => ?_⟩
    rw [List.mem_singleton] at hb
    subst hb
    exact fun e => hp (e ▸ ha)

theorem mem_norm_addValue {bucket : List PyStr} {val k : PyStr} :
    k ∈ (addValue env bucket val).map env.norm ↔ k ∈ bucket.map env.norm ∨ k = env.norm val := by
  unfold addValue
  split_ifs with h
  · refine ⟨.inl, fun hk => hk.elim id fun e => ?_⟩
    rw [e]
    exact h
  · rw [List.map_append, List.mem_append, List.map_singleton, List.mem_singleton]

theorem foldl_addValue_distinct {values bucket : List PyStr} (h : (bucket.map env.norm).Nodup) :
    ((values.foldl (addValue env) bucket).map env.norm).Nodup := by
  induction values generalizing bucket with
  | nil => exact h
  | cons v values ih =>
    rw [List.foldl_cons]
    exact ih (addValue_distinct env v h)

theorem filter_distinct {bucket : List PyStr} (cond : PyStr → Bool)
    (h : (bucket.map env.norm).Nodup) : ((bucket.filter cond).map env.norm).Nodup :=
  h.sublist (List.filter_sublist.map _)

/-! ### one record -/

theorem draft_empty : Draft env {} where
  distinct l := by cases l <;> exact List.nodup_nil
  relations := List.nodup_nil
  comparatives := List.nodup_nil
  name h := by cases h
  focus f h := by cases h

theorem draft_of_values {snap snap' : ProfileSnapshot} (h : Draft env snap)
    (hvalues : ∀ l, snap'.values l = snap.values l ∨
      ∃ v, snap'.values l = addValue env (snap.values l) v)
    (hrelations : snap'.relations = snap.relations)
    (hcomparatives : snap'.comparatives = snap.comparatives) (hname : snap'.name ≠ some [])
    (hfocus : snap'.currentFocus = snap.currentFocus) : Draft env snap' := by
  have hgoals : ∀ k, k ∈ snap.goals.map env.norm → k ∈ snap'.goals.map env.norm := by
    intro k hk
    rcases hvalues .goals with e | ⟨v, e⟩
    · rw [show snap'.goals = snap.goals from e]
      exact hk
    · rw [show snap'.goals = addValue env snap.goals v from e, mem_norm_addValue]
      exact .inl hk
  refine ⟨fun l => ?_, hrelations ▸ h.relations, hcomparatives ▸ h.comparatives, hname, ?_⟩
  · rcases hvalues l with e | ⟨v, e⟩
    · rw [e]
      exact h.distinct l
    · rw [e]
      exact addValue_distinct env v (h.distinct l)
  · intro f hf
    rw [hfocus] at hf
    obtain ⟨hne, hmem⟩ := h.focus f hf
    exact ⟨hne, hgoals _ hmem⟩

theorem draft_fillSlot {snap : ProfileSnapshot} {md : Metadata} {val : PyStr} {slot : ProfileSlot}
    (h : Draft env snap) (hval : val ≠ []) : Draft env (fillSlot env snap md val slot) := by
  have hsome : some val ≠ some [] := fun e => hval (Option.some.inj e)
  cases slot with
  | name =>
    rw [fillSlot]
    split
    · split_ifs
      · refine draft_of_values env h (fun l => ?_) rfl rfl hsome rfl
        cases l
        case previousNames => exact .inr ⟨_, rfl⟩
        all_goals exact .inl rfl
      · exact draft_of_values env h (fun l => .inl (by cases l <;> rfl)) rfl rfl hsome rfl
    · exact draft_of_values env h (fun l => .inl (by cases l <;> rfl)) rfl rfl hsome rfl
  | focus =>
    refine ⟨fun l => ?_, h.relations, h.comparatives, h.name, fun f hf => ?_⟩
    · have hl := h.distinct l
      cases l
      case goals => exact addValue_distinct env val hl
      all_goals exact hl
    · have e : val = f := Option.some.inj hf
      rw [← e]
      exact ⟨hval, (mem_norm_addValue env).mpr (.inr rfl)⟩
  | today =>
    rw [fillSlot]
    split_ifs
    · refine draft_of_values env h (fun l => ?_) rfl rfl h.name rfl
      cases l
      case todayIntentions => exact .inr ⟨_, rfl⟩
      all_goals exact .inl rfl
    · exact h
  | favorite =>
    rw [fillSlot]
    split_ifs <;>
      exact draft_of_values env h (fun l => .inl (by cases l <;> rfl)) rfl rfl h.name rfl
  | comparative =>
    refine ⟨fun l => ?_, h.relations, addPair_nodup _ h.comparatives, h.name, h.focus⟩
    have hl := h.distinct l
    cases l <;> exact hl
  | relation =>
    refine ⟨fun l => ?_, addPair_nodup _ h.relations, h.comparatives, h.name, h.focus⟩
    have hl := h.distinct l
    cases l <;> exact hl
  | preference =>
    rw [fillSlot]
    split_ifs
    · exact h
    · refine draft_of_values env h (fun l => ?_) rfl rfl h.name rfl
      cases l
      case preferencesProfessional => exact .inr ⟨_, rfl⟩
      all_goals exact .inl rfl
    · refine draft_of_values env h (fun l => ?_) rfl rfl h.name rfl
      cases l
      case preferencesPersonal => exact .inr ⟨_, rfl⟩
      all_goals exact .inl rfl
  | _ =>
    refine draft_of_values env h (fun l => ?_) rfl rfl h.name rfl
    cases l <;> first | exact .inl rfl | exact .inr ⟨_, rfl⟩

theorem draft_readRecord {snap : ProfileSnapshot} (r : MemoryRecord) (h : Draft env snap) :
    Draft env (readRecord env snap r) := by
  unfold readRecord
  dsimp only
  split_ifs with hval hdirty
  · exact h
  · exact h
  · cases r.slot? with
    | none => exact h
    | some slot => exact draft_fillSlot env h hval

theorem draft_foldl (rs : List MemoryRecord) {snap : ProfileSnapshot} (h : Draft env snap) :
    Draft env (rs.foldl (readRecord env) snap) := by
  induction rs generalizing snap with
  | nil => exact h
  | cons r rs ih =>
    rw [List.foldl_cons]
    exact ih (draft_readRecord env r h)

/-! ### the names -/

theorem knowsName_fillSlot_name {snap : ProfileSnapshot} {md : Metadata} {val n : PyStr}
    (hname : snap.name ≠ some []) (h : snap.knowsName env n ∨ n = val) :
    (fillSlot env snap md val .name).knowsName env n := by
  unfold ProfileSnapshot.knowsName at h ⊢
  rw [fillSlot]
  split
  next c cs e =>
    split_ifs with hsame
    · rcases h with (⟨m, hm, hn⟩ | hn) | rfl
      · rw [e] at hm
        refine .inr ((mem_norm_addValue env).mpr (.inr ?_))
        rw [hn, ← Option.some.inj hm]
      · exact .inr ((mem_norm_addValue env).mpr (.inl hn))
      · exact .inl ⟨n, rfl, rfl⟩
    · rw [ne_eq, not_not] at hsame
      rcases h with (⟨m, hm, hn⟩ | hn) | rfl
      · rw [e] at hm
        refine .inl ⟨val, rfl, ?_⟩
        rw [hn, ← Option.some.inj hm]
        exact hsame
      · exact .inr hn
      · exact .inl ⟨n, rfl, rfl⟩
  next hnone =>
    rcases h with (⟨m, hm, -⟩ | hn) | rfl
    · cases m with
      | nil => exact absurd hm hname
      | cons c cs => exact absurd hm (hnone c cs)
    · exact .inr hn
    · exact .inl ⟨n, rfl, rfl⟩

theorem fillSlot_keepsNames {snap : ProfileSnapshot} {md : Metadata} {val : PyStr}
    {slot : ProfileSlot} (h : slot ≠ .name) :
    (fillSlot env snap md val slot).name = snap.name ∧
      (fillSlot env snap md val slot).previousNames = snap.previousNames := by
  cases slot with
  | name => exact absurd rfl h
  | today => rw [fillSlot]; split_ifs <;> exact ⟨rfl, rfl⟩
  | favorite => rw [fillSlot]; split_ifs <;> exact ⟨rfl, rfl⟩
  | preference => rw [fillSlot]; split_ifs <;> exact ⟨rfl, rfl⟩
  | _ => exact ⟨rfl, rfl⟩

theorem knowsName_readRecord {snap : ProfileSnapshot} (r : MemoryRecord) {n : PyStr}
    (hname : snap.name ≠ some []) (h : snap.knowsName env n) :
    (readRecord env snap r).knowsName env n := by
  unfold readRecord
  dsimp only
  split_ifs with hval hdirty
  · exact h
  · exact h
  · cases r.slot? with
    | none => exact h
    | some slot =>
      by_cases hslot : slot = .name
      · rw [hslot]
        exact knowsName_fillSlot_name env hname (.inl h)
      · obtain ⟨e1, e2⟩ := @fillSlot_keepsNames env snap r.metadata r.metadata.value slot hslot
        show ProfileSnapshot.knowsName env (fillSlot env snap _ _ slot) n
        unfold ProfileSnapshot.knowsName
        rw [e1, e2]
        exact h

theorem knowsName_readRecord_self {snap : ProfileSnapshot} {r : MemoryRecord} {val : PyStr}
    (hname : snap.name ≠ some []) (h : r.namesUser env val) :
    (readRecord env snap r).knowsName env val := by
  obtain ⟨-, hself, rfl, hval, hclean⟩ := h
  have hslot : r.slot? = some .name := by
    unfold MemoryRecord.slot? profileSlots
    rw [List.find?_cons, hself]
    rfl
  unfold readRecord
  dsimp only
  rw [if_neg hval, hclean, Bool.and_false, if_neg Bool.false_ne_true, hslot]
  exact knowsName_fillSlot_name env hname (.inr rfl)

theorem knowsName_foldl {rs : List MemoryRecord} {snap : ProfileSnapshot} {n : PyStr}
    (hdraft : Draft env snap) (h : snap.knowsName env n ∨ ∃ r ∈ rs, r.namesUser env n) :
    (rs.foldl (readRecord env) snap).knowsName env n := by
  induction rs generalizing snap with
  | nil =>
    rcases h with h | ⟨r, hr, -⟩
    · exact h
    · exact absurd hr List.not_mem_nil
  | cons r rs ih =>
    rw [List.foldl_cons]
    refine ih (draft_readRecord env r hdraft) ?_
    rcases h with h | ⟨r', hr', h⟩
    · exact .inl (knowsName_readRecord env r hdraft.name h)
    · rcases List.mem_cons.mp hr' with rfl | hr'
      · exact .inl (knowsName_readRecord_self env hdraft.name h)
      · exact .inr ⟨r', hr', h⟩

/-! ### the corrections -/

theorem settleSnapshot_previousNames {snap : ProfileSnapshot} {n : PyStr}
    (h : snap.name = some n) (hne : n ≠ []) :
    (settleSnapshot env snap).previousNames =
      snap.previousNames.filter fun p => env.norm p ≠ env.norm n := by
  cases n with
  | nil => exact absurd rfl hne
  | cons c cs =>
    unfold settleSnapshot
    rw [h]

theorem settleSnapshot_distinct {snap : ProfileSnapshot} (h : Draft env snap) (l : ValueList) :
    (((settleSnapshot env snap).values l).map env.norm).Nodup := by
  have hl := h.distinct l
  cases l with
  | previousNames =>
    cases e : snap.name with
    | none =>
      have hkeep : (settleSnapshot env snap).previousNames = snap.previousNames := by
        unfold settleSnapshot
        rw [e]
      show ((settleSnapshot env snap).previousNames.map env.norm).Nodup
      rw [hkeep]
      exact hl
    | some n =>
      show ((settleSnapshot env snap).previousNames.map env.norm).Nodup
      rw [settleSnapshot_previousNames env e fun hn => h.name (hn ▸ e)]
      exact filter_distinct env _ hl
  | negativeSkills => exact filter_distinct env _ hl
  | skills =>
    show ((settleSnapshot env snap).skills.map env.norm).Nodup
    rw [settleSnapshot_skills]
    exact hl
  | preferencesPersonal => exact foldl_addValue_distinct env hl
  | _ => exact hl

theorem settleSnapshot_knowsName {snap : ProfileSnapshot} {val : PyStr} (h : Draft env snap)
    (hknows : snap.knowsName env val) : (settleSnapshot env snap).knowsName env val := by
  unfold ProfileSnapshot.knowsName at hknows ⊢
  have hname : (settleSnapshot env snap).name = snap.name := rfl
  rw [hname]
  rcases hknows with hn | hprev
  · exact .inl hn
  · cases e : snap.name with
    | none =>
      refine .inr ?_
      unfold settleSnapshot
      rw [e]
      exact hprev
    | some n =>
      by_cases hsame : env.norm val = env.norm n
      · exact .inl ⟨n, rfl, hsame⟩
      · refine .inr ?_
        rw [settleSnapshot_previousNames env e fun hn => h.name (hn ▸ e)]
        obtain ⟨p, hp, hpv⟩ := List.mem_map.mp hprev
        refine List.mem_map.mpr ⟨p, List.mem_filter.mpr ⟨hp, ?_⟩, hpv⟩
        rw [decide_eq_true_eq, hpv]
        exact hsame

/-- The snapshot of any store is well formed. -/
theorem wellFormed_collect (w : World) : (collectProfileSnapshot env w).WellFormed env w := by
  unfold collectProfileSnapshot
  have hdraft := draft_foldl env (confirmedRecords env w) (draft_empty env)
  have hnames : ∀ val, (∃ r ∈ confirmedRecords env w, r.namesUser env val) →
      ((confirmedRecords env w).foldl (readRecord env) {}).knowsName env val := fun val h =>
    knowsName_foldl env (draft_empty env) (.inr h)
  generalize (confirmedRecords env w).foldl (readRecord env) {} = snap at hdraft hnames
  refine ⟨settleSnapshot_distinct env hdraft, hdraft.relations, hdraft.comparatives, ?_, ?_, ?_, ?_⟩
  · intro s hs t ht e
    rw [settleSnapshot_skills] at hs
    have hout := of_decide_eq_true (List.mem_filter.mp ht).2
    exact hout (e ▸ List.mem_map_of_mem hs)
  · intro n hn hmem
    have hn' : snap.name = some n := hn
    rw [settleSnapshot_previousNames env hn' fun h => hdraft.name (h ▸ hn')] at hmem
    obtain ⟨p, hp, e⟩ := List.mem_map.mp hmem
    exact of_decide_eq_true (List.mem_filter.mp hp).2 e
  · intro r hr hahead val hval
    refine settleSnapshot_knowsName env hdraft (hnames val ⟨r, ?_, hval⟩)
    exact mem_confirmedRecords'.mpr ⟨hr, hval.1, hahead⟩
  · -- the focus was among the goals already, so it is not dropped
    intro f hf
    show env.norm f ∈ snap.goals.map env.norm
    have hf' : snap.currentFocus = some f := by
      unfold settleSnapshot at hf
      cases e : snap.currentFocus with
      | none => rw [e] at hf; exact hf
      | some g =>
        obtain ⟨hne, hg⟩ := hdraft.focus g e
        cases g with
        | nil => exact absurd rfl hne
        | cons c cs =>
          rw [e] at hf
          dsimp only at hf
          rw [if_neg (not_not.mpr hg)] at hf
          exact hf
    exact (hdraft.focus f hf').2

end

end Tomtit
