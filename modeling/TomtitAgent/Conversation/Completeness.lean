import TomtitAgent.Conversation.SnapshotContents
import TomtitAgent.Conversation.BulkDelete
import TomtitAgent.Python.JsonRoundTrip

/-!
# Completeness of the snapshot

Every live confirmed profile record with a clean value has an entry that the snapshot should show.
The snapshot reads the first 200 facts and the first 200 preferences of the ranking, so it shows all
of the entries exactly when each is also the entry of a record within the limit
(`snapshot_complete_iff`).
-/

namespace Tomtit
open Py

def MemoryRecord.isConfirmedProfile (r : MemoryRecord) : Bool :=
  (r.tagged .fact || r.tagged .preference) && r.metadata.confirmedProfile

/-- The snapshot shows the entry of every live confirmed record of the profile. -/
def SnapshotComplete (env : MemoryEnv) (w : World) : Prop :=
  ∀ r ∈ w.live, r.isConfirmedProfile = true → ∀ s k, r.shown env = some (s, k) →
    k ∈ (collectProfileSnapshot env w).keys env s

theorem mem_confirmedRecords' {env : MemoryEnv} {w : World} {r : MemoryRecord} :
    r ∈ confirmedRecords env w ↔
      r ∈ w.live ∧ r.isConfirmedProfile = true ∧ w.aheadOf r.type r < 200 := by
  unfold MemoryRecord.isConfirmedProfile
  rw [mem_confirmedRecords, Bool.and_eq_true, Bool.or_eq_true]
  exact ⟨fun ⟨h1, h2, h3, h4⟩ => ⟨h1, ⟨h3, h2⟩, h4⟩, fun ⟨h1, ⟨h3, h2⟩, h4⟩ => ⟨h1, h2, h3, h4⟩⟩

/-- The snapshot is complete exactly when each entry has a record within the limit. -/
theorem snapshot_complete_iff (env : MemoryEnv) (w : World) :
    SnapshotComplete env w ↔
      ∀ r ∈ w.live, r.isConfirmedProfile = true → ∀ s k, r.shown env = some (s, k) →
        ∃ r' ∈ w.live, r'.isConfirmedProfile = true ∧ w.aheadOf r'.type r' < 200 ∧
          r'.shown env = some (s, k) := by
  have hkeys : ∀ s k, k ∈ (collectProfileSnapshot env w).keys env s ↔
      ∃ r' ∈ w.live, r'.isConfirmedProfile = true ∧ w.aheadOf r'.type r' < 200 ∧
        r'.shown env = some (s, k) := by
    intro s k
    rw [mem_keys_collect]
    constructor
    · rintro ⟨r', hr', e⟩
      obtain ⟨hl, hp, ha⟩ := mem_confirmedRecords'.mp hr'
      exact ⟨r', hl, hp, ha, e⟩
    · rintro ⟨r', hl, hp, ha, e⟩
      exact ⟨r', mem_confirmedRecords'.mpr ⟨hl, hp, ha⟩, e⟩
  unfold SnapshotComplete
  simp only [hkeys]

/-! ### a store beyond the limit -/

theorem natText_clean (n : Nat) :
    IsWord (natText n) ∧ asciiUnicode.lower (natText n) = natText n ∧
      isDirtyValue asciiUnicode (natText n) = false := by
  have hdigit : ∀ c ∈ natText n, 48 ≤ c.val ∧ c.val ≤ 57 := by
    intro c hc
    have h := natText_digits n c hc
    simpa [isDigit] using h
  have hword : IsWord (natText n) := by
    refine ⟨natText_ne_nil n, fun c hc => ?_⟩
    obtain ⟨h1, h2⟩ := hdigit c hc
    rw [← Bool.not_eq_true]
    simp only [isSpace, Bool.or_eq_true, Bool.and_eq_true, decide_eq_true_eq, beq_iff_eq]
    omega
  have hlower : asciiUnicode.lower (natText n) = natText n := by
    show (natText n).map asciiLower = natText n
    refine (List.map_congr_left fun c hc => ?_).trans (List.map_id _)
    refine if_neg fun hup => ?_
    obtain ⟨-, h1, -⟩ := asciiLower_of_upper hup
    have := (hdigit c hc).2
    omega
  have hnot : ∀ {c : Char} {s : String}, ¬ (48 ≤ c.toNat ∧ c.toNat ≤ 57) → c ∈ s.toList →
      natText n ≠ py s := by
    intro c s hc hmem e
    have h := mem_py.mpr hmem
    rw [← e] at h
    exact hc (hdigit _ h)
  refine ⟨hword, hlower, isDirtyValue_word asciiUnicode hword ?_ ?_ ?_⟩
  · rw [hlower]
    intro h
    have h2 : (58 : Nat) ≤ 57 := (hdigit _ h).2
    omega
  · rw [hlower]
    have hg : ¬ (48 ≤ 'g'.toNat ∧ 'g'.toNat ≤ 57) := by decide
    simp only [dirtyValueQuestionTails, List.mem_cons, List.not_mem_nil, or_false, not_or]
    exact ⟨hnot hg (by simp), hnot hg (by simp), hnot (c := 'n') (by decide) (by simp),
      hnot (c := 'u') (by decide) (by simp), hnot (c := 'u') (by decide) (by simp),
      hnot (c := 'b') (by decide) (by simp), hnot (c := 'n') (by decide) (by simp)⟩
  · exact hnot (c := 'a') (by decide) (by simp)

theorem skillRecord_shown (n : Nat) :
    (skillRecord n).shown plainEnv = some (.skills, [], natText n) := by
  obtain ⟨hword, hlower, hclean⟩ := natText_clean n
  have hextra : Extra [] := fun _ h => absurd h List.not_mem_nil
  rw [shown_v2 plainEnv (r := skillRecord n) rfl hextra, if_pos ⟨natText_ne_nil n, .inr hclean⟩]
  have hslot : (profileSlots.find? fun row => self = row.1 && py "skill" = row.2.1).map
      (fun row => row.2.2) = some .skill := slot_of_row 7 rfl
  rw [hslot]
  show some (Shelf.skills, ([] : PyStr), normCmp asciiUnicode (natText n)) = _
  rw [normCmp_word asciiUnicode hword, hlower]

/-- Of 201 skills the snapshot shows 200 at most. -/
theorem not_snapshotComplete_skills :
    ¬ SnapshotComplete plainEnv (skillWorld 201 (by norm_num)) := by
  intro h
  let w : World := skillWorld 201 (by norm_num)
  have hlive : w.live = (List.range 201).map skillRecord := live_skillStore 201 (by norm_num)
  have htag : ∀ n, (skillRecord n).tagged .fact = true := fun n => by
    simp [MemoryRecord.tagged, skillRecord]
  have hmany : 200 < (w.live.filter (·.tagged .fact)).length := by
    rw [List.filter_eq_self.mpr, hlive, List.length_map, List.length_range]
    · norm_num
    · intro r hr
      rw [hlive] at hr
      obtain ⟨i, -, rfl⟩ := List.mem_map.mp hr
      exact htag i
  obtain ⟨r, hr, -, ha⟩ := exists_beyond plainEnv hmany
  have hlive' := hr
  rw [hlive] at hr
  obtain ⟨i, -, rfl⟩ := List.mem_map.mp hr
  have hconfirmed : (skillRecord i).isConfirmedProfile = true := by
    have hextra : Extra [] := fun _ h => absurd h List.not_mem_nil
    unfold MemoryRecord.isConfirmedProfile
    rw [htag i, Bool.true_or, Bool.true_and]
    exact (v2Metadata_reads hextra).2.1
  have hin := h _ hlive' hconfirmed _ _ (skillRecord_shown i)
  obtain ⟨r', hr', e⟩ := (mem_keys_collect plainEnv).mp hin
  obtain ⟨hl', -, ha'⟩ := mem_confirmedRecords'.mp hr'
  rw [show World.live _ = (List.range 201).map skillRecord from hlive] at hl'
  obtain ⟨j, -, rfl⟩ := List.mem_map.mp hl'
  rw [skillRecord_shown] at e
  have hij : natText j = natText i := by
    have e' := (Prod.mk.inj (Option.some.inj e)).2
    exact (Prod.mk.inj e').2
  have hsame : j = i := by
    rw [← JsonLoad.natOf_natText j, hij, JsonLoad.natOf_natText]
  rw [hsame] at ha'
  exact absurd ha' (Nat.not_lt.mpr ha)

end Tomtit
