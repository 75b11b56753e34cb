import TomtitAgent.Python.JsonFits
import TomtitAgent.Python.SmallRuntime
import TomtitAgent.SessionPersistence.FileStore

/-!
# What `load` makes of the bytes of a file

* `SessionState.Valid`   what the validator of the serializer checks;
* `Corrupts`             the errors that `from_dict` turns into a `SessionDataCorruptionError`, the rule for
                         each step of the reader;
* `loadsTotally_iff`     the files of which `load` makes a valid session or that exception: those whose
                         bytes decode and whose integers `int` reads.
-/

open Py

namespace Tomtit

/-- The invariants of a session that was read. -/
structure SessionState.Valid (st : SessionTexts) (s : SessionState) : Prop where
  canonical : canonicalUuid st.json s.sessionId = some s.sessionId
  created : s.createdAt.utcoffset ≠ none
  updated : s.updatedAt.utcoffset ≠ none
  completed : ∀ t ∈ s.turns, t.completedAt.utcoffset ≠ none
  ordered : s.createdAt.instant ≤ s.updatedAt.instant
  lastTurn : ∀ t, s.turns.getLast? = some t → s.updatedAt.instant = t.completedAt.instant

/-- The bytes decode, and no integer among them is too long for `int`. -/
structure Parsable (rt : Runtime) (raw : Bytes) : Prop where
  decodes : (decodePass raw (detectEncoding raw.toList)).isSome = true
  digits : loadsBytes rt raw ≠ .error intLiteralTooLong

/-- Of a session file that can be read, `load` makes a valid session with the requested id, or raises a
`SessionDataCorruptionError`. -/
def LoadsTotally (store : FileSessionStore) (env : FileEnv) (id : PyStr) (d : SessionDir) : Prop :=
  ∀ canonical raw, canonicalUuid store.texts.json id = some canonical →
    store.readSession env canonical (canonical ++ py ".json") d = .ok (some raw) →
    (∃ s, store.load env id d = .ok (some s) ∧ s.Valid store.texts ∧ s.sessionId = canonical) ∨
      ∃ msg, store.load env id d = .error (sessionDataCorruptionError msg)

namespace SessionSerializer

/-! ### errors that become a corruption -/

/-- Every error is one that the `except` clauses of `from_dict` catch. -/
def Corrupts {α : Type} (x : Except PyExc α) : Prop :=
  ∀ e, x = .error e → ∃ msg, asCorruption e = sessionDataCorruptionError msg

namespace Corrupts

theorem ok {α : Type} (a : α) : Corrupts (.ok a) := fun _ h => absurd h (by simp)

theorem corruption {α : Type} (msg : PyStr) :
    Corrupts (.error (sessionDataCorruptionError msg) : Except PyExc α) := by
  intro e h
  rw [← Except.error.inj h]
  exact ⟨msg, if_pos (by simp [sessionDataCorruptionError, PyExc.isA])⟩

theorem caught {α : Type} {cls : String} {e : PyExc}
    (hcls : cls ∈ ["KeyError", "TypeError", "ValueError", "AttributeError"]) (he : e.isA cls = true)
    (hnot : e.isA "SessionDataCorruptionError" = false) : Corrupts (.error e : Except PyExc α) := by
  intro e' h
  rw [← Except.error.inj h]
  unfold asCorruption
  rw [hnot, if_neg Bool.false_ne_true, if_pos (List.any_eq_true.mpr ⟨cls, hcls, he⟩)]
  exact ⟨_, rfl⟩

theorem keyError {α : Type} (msg : PyStr) : Corrupts (.error (Py.keyError msg) : Except PyExc α) :=
  caught List.mem_cons_self (by simp [Py.keyError, PyExc.isA]) (by simp [Py.keyError, PyExc.isA])

theorem uuidError {α : Type} : Corrupts (.error Tomtit.uuidError : Except PyExc α) :=
  @caught α "ValueError" _ (by simp) (by simp [Tomtit.uuidError, valueError, PyExc.isA])
    (by simp [Tomtit.uuidError, valueError, PyExc.isA])

theorem bind {α β : Type} {x : Except PyExc α} {f : α → Except PyExc β} (hx : Corrupts x)
    (hf : ∀ a, x = .ok a → Corrupts (f a)) : Corrupts (x >>= f) := by
  cases x with
  | error e => exact fun e' h => hx e' (congrArg _ (Except.error.inj h))
  | ok a => exact hf a rfl

theorem raiseIf {cond : Prop} [Decidable cond] (msg : PyStr) :
    Corrupts (Py.raiseIf cond (sessionDataCorruptionError msg)) := by
  unfold Py.raiseIf
  split_ifs
  · exact corruption msg
  · exact ok ()

theorem mapM {α β : Type} {f : α → Except PyExc β} {xs : List α} (h : ∀ x ∈ xs, Corrupts (f x)) :
    Corrupts (xs.mapM f) := by
  induction xs with
  | nil => exact ok []
  | cons x xs ih =>
    rw [List.mapM_cons]
    exact (h x List.mem_cons_self).bind fun y _ =>
      (ih fun z hz => h z (List.mem_cons_of_mem x hz)).bind fun ys _ => ok (y :: ys)

end Corrupts

section
variable {st : SessionTexts}

theorem corruptRepr_eq (before rest : PyStr) {j : Json} (hj : j.intsFit st.json = true) :
    ∃ msg, corruptRepr st before j rest = sessionDataCorruptionError msg := by
  obtain ⟨t, ht⟩ := reprVal_toPy st.json hj
  unfold corruptRepr
  rw [ht]
  exact ⟨_, rfl⟩

theorem corrupts_repr {α : Type} (before rest : PyStr) {j : Json} (hj : j.intsFit st.json = true) :
    Corrupts (.error (corruptRepr st before j rest) : Except PyExc α) := by
  obtain ⟨msg, hmsg⟩ := corruptRepr_eq before rest hj
  rw [hmsg]
  exact .corruption msg

theorem corrupts_jsonItem (data : List (PyStr × Json)) (key : PyStr) : Corrupts (jsonItem st data key) := by
  unfold jsonItem
  cases assoc data key with
  | some j => exact .ok j
  | none => exact .keyError _

theorem jsonItem_fits {data : List (PyStr × Json)} {key : PyStr} {j : Json}
    (hdata : (Json.obj data).intsFit st.json = true) (h : jsonItem st data key = .ok j) :
    j.intsFit st.json = true := by
  unfold jsonItem at h
  cases hfound : assoc data key with
  | none => rw [hfound] at h; exact absurd h (by simp)
  | some j' =>
    rw [hfound] at h
    obtain rfl := Except.ok.inj h
    rw [Json.intsFit, Json.intsFitItems_iff] at hdata
    exact hdata _ (assoc_mem hfound)

theorem corrupts_requireJsonStr (field : PyStr) (j : Json) : Corrupts (requireJsonStr field j) := by
  cases j with
  | str s => exact .ok s
  | _ => exact .corruption _

theorem corrupts_requireJsonOptStr (field : PyStr) (j : Json) : Corrupts (requireJsonOptStr field j) := by
  cases j with
  | str s => exact .ok _
  | null => exact .ok _
  | _ => exact .corruption _

theorem corrupts_requireJsonBool (field : PyStr) (j : Json) : Corrupts (requireJsonBool field j) := by
  cases j with
  | bool b => exact .ok b
  | _ => exact .corruption _

theorem corrupts_requireJsonStrs (field : PyStr) (j : Json) : Corrupts (requireJsonStrs field j) := by
  unfold requireJsonStrs
  cases requireJsonStrs.rawStrs j with
  | some xs => exact .ok xs
  | none => exact .corruption _

theorem corrupts_requireStatus {j : Json} (hj : j.intsFit st.json = true) : Corrupts (requireStatus st j) := by
  cases j with
  | str s =>
    unfold requireStatus
    dsimp only
    cases (StrEnum.ofValue? s : Option AgentStatus) with
    | some status => exact .ok status
    | none => exact corrupts_repr _ _ hj
  | _ => exact corrupts_repr _ _ hj

theorem corrupts_parseDt (field : PyStr) (j : Json) : Corrupts (parseDt st field j) := by
  cases j with
  | str s =>
    unfold parseDt
    dsimp only
    cases st.fromisoformat s with
    | none => exact .corruption _
    | some t => exact (Corrupts.raiseIf _).bind fun _ _ => .ok t
  | _ => exact .corruption _

theorem corrupts_turnFromDict {j : Json} (hj : j.intsFit st.json = true) : Corrupts (turnFromDict st j) := by
  cases j with
  | obj data =>
    -- the fields are read one after the other
    have field : ∀ {α : Type} {key : PyStr} {f : Json → Except PyExc α},
        (∀ j, j.intsFit st.json = true → Corrupts (f j)) → Corrupts (jsonItem st data key >>= f) :=
      fun hf => (corrupts_jsonItem data _).bind fun j h => hf j (jsonItem_fits hj h)
    unfold turnFromDict
    refine (field fun j _ => corrupts_requireJsonStr _ j).bind fun _ _ => ?_
    refine (field fun j _ => corrupts_requireJsonStr _ j).bind fun _ _ => ?_
    refine (field fun j _ => corrupts_requireJsonOptStr _ j).bind fun _ _ => ?_
    refine (field fun j hj => corrupts_requireStatus hj).bind fun _ _ => ?_
    refine (field fun j _ => corrupts_requireJsonStrs _ j).bind fun _ _ => ?_
    refine (field fun j _ => corrupts_requireJsonBool _ j).bind fun _ _ => ?_
    refine (field fun j _ => corrupts_requireJsonBool _ j).bind fun _ _ => ?_
    refine (field fun j _ => corrupts_requireJsonStrs _ j).bind fun _ _ => ?_
    exact (field fun j _ => corrupts_parseDt _ j).bind fun _ _ => .ok _
  | _ => exact .corruption _

theorem corrupts_requireVersion1 {data : List (PyStr × Json)}
    (hdata : (Json.obj data).intsFit st.json = true) : Corrupts (requireVersion1 st data) := by
  have hversion : ((assoc data (py "schema_version")).getD .null).intsFit st.json = true := by
    cases hfound : assoc data (py "schema_version") with
    | none => rfl
    | some j =>
      rw [Json.intsFit, Json.intsFitItems_iff] at hdata
      exact hdata _ (assoc_mem hfound)
  unfold requireVersion1
  generalize (assoc data (py "schema_version")).getD .null = j at hversion
  cases j with
  | str s => exact .raiseIf _
  | _ => exact corrupts_repr _ _ hversion

theorem corrupts_requireExpected (sessionId expected : PyStr) :
    Corrupts (requireExpected st sessionId expected) := by
  unfold requireExpected
  cases canonicalUuid st.json expected with
  | none => exact .uuidError
  | some canonical => exact .raiseIf _

theorem corrupts_lt (t u : Datetime) : Corrupts (t.lt u) := by
  have htype : ∀ msg, Corrupts (.error (typeError msg) : Except PyExc Bool) := fun msg =>
    @Corrupts.caught Bool "TypeError" _ (by simp) (by simp [typeError, PyExc.isA])
      (by simp [typeError, PyExc.isA])
  unfold Datetime.lt
  split_ifs
  · exact .ok _
  · cases t.utcoffset <;> cases u.utcoffset
    · exact .ok _
    · exact htype _
    · exact htype _
    · exact .ok _

theorem corrupts_validateInvariants (s : SessionState) : Corrupts (validateInvariants st s) := by
  unfold validateInvariants requireLastTurn
  refine (corrupts_lt _ _).bind fun _ _ => (Corrupts.raiseIf _).bind fun _ _ => ?_
  cases s.turns.getLast? with
  | none => exact .ok ()
  | some last => exact .raiseIf _

theorem corrupts_requireSessionId (j : Json) : Corrupts (requireSessionId st j) := by
  unfold requireSessionId requireCanonicalUuid
  refine (corrupts_requireJsonStr _ j).bind fun value _ => ?_
  cases canonicalUuid st.json value with
  | some canonical => exact .ok canonical
  | none => exact .corruption _

/-- Whatever `json.loads` returned, the reader returns a session or raises an exception that is caught. -/
theorem corrupts_sessionOf (expected : PyStr) {j : Json} (hj : j.intsFit st.json = true) :
    Corrupts (sessionOf st expected j) := by
  cases j with
  | obj data =>
    unfold sessionOf
    refine (corrupts_requireVersion1 hj).bind fun _ _ => ?_
    refine Corrupts.bind (.raiseIf _) fun _ _ => ?_
    refine ((corrupts_jsonItem data _).bind fun j _ => corrupts_requireSessionId j).bind fun _ _ => ?_
    refine (corrupts_requireExpected _ _).bind fun _ _ => ?_
    refine ((corrupts_jsonItem data _).bind fun j _ => corrupts_parseDt _ j).bind fun _ _ => ?_
    refine ((corrupts_jsonItem data _).bind fun j _ => corrupts_parseDt _ j).bind fun _ _ => ?_
    have hrows : ∀ j rows, requireTurns j = .ok rows → j = .arr rows := by
      intro j rows h
      cases j with
      | arr xs => exact congrArg _ (Except.ok.inj h)
      | _ => exact absurd h (by simp [requireTurns])
    have hturns : ∀ j, Corrupts (requireTurns j) := by
      intro j
      cases j with
      | arr xs => exact .ok xs
      | _ => exact .corruption _
    refine ((corrupts_jsonItem data _).bind fun j _ => hturns j).bind fun rows h => ?_
    obtain ⟨j, hitem, hrow⟩ := bind_eq_ok.mp h
    have hfit := jsonItem_fits hj hitem
    rw [hrows j rows hrow, Json.intsFit, Json.intsFitList_iff] at hfit
    refine (Corrupts.mapM fun row hmem => corrupts_turnFromDict (hfit row hmem)).bind fun _ _ => ?_
    exact (corrupts_validateInvariants _).bind fun _ _ => .ok _
  | _ => exact .corruption _

/-! ### a session that was read -/

theorem mem_of_mapM_ok {α β : Type} {f : α → Except PyExc β} {xs : List α} {ys : List β}
    (h : xs.mapM f = .ok ys) {y : β} (hy : y ∈ ys) : ∃ x ∈ xs, f x = .ok y := by
  induction xs generalizing ys with
  | nil =>
    obtain rfl := Except.ok.inj h
    exact absurd hy List.not_mem_nil
  | cons x xs ih =>
    rw [List.mapM_cons] at h
    obtain ⟨y', hfirst, h⟩ := bind_eq_ok.mp h
    obtain ⟨ys', hrest, hret⟩ := bind_eq_ok.mp h
    obtain rfl := Except.ok.inj hret
    rcases List.mem_cons.mp hy with rfl | hmem
    · exact ⟨x, List.mem_cons_self, hfirst⟩
    · obtain ⟨z, hz, hread⟩ := ih hrest hmem
      exact ⟨z, List.mem_cons_of_mem x hz, hread⟩

theorem parseDt_aware {field : PyStr} {j : Json} {t : Datetime} (h : parseDt st field j = .ok t) :
    t.utcoffset ≠ none ∧ t.reread = t := by
  cases j with
  | str s =>
    unfold parseDt at h
    dsimp only at h
    cases hread : st.fromisoformat s with
    | none => rw [hread] at h; exact absurd h (by simp)
    | some t' =>
      rw [hread] at h
      obtain ⟨_, haware, hret⟩ := bind_eq_ok.mp h
      obtain rfl := Except.ok.inj hret
      exact ⟨fun hn => raiseIf_eq_ok.mp haware (.inr hn), st.fromisoformat_reread s _ hread⟩
  | _ => exact absurd h (by simp [parseDt])

theorem turnFromDict_aware {j : Json} {t : TurnRecord} (h : turnFromDict st j = .ok t) :
    t.completedAt.utcoffset ≠ none ∧ t.completedAt.reread = t.completedAt := by
  cases j with
  | obj data =>
    unfold turnFromDict at h
    obtain ⟨_, -, h⟩ := bind_eq_ok.mp h
    obtain ⟨_, -, h⟩ := bind_eq_ok.mp h
    obtain ⟨_, -, h⟩ := bind_eq_ok.mp h
    obtain ⟨_, -, h⟩ := bind_eq_ok.mp h
    obtain ⟨_, -, h⟩ := bind_eq_ok.mp h
    obtain ⟨_, -, h⟩ := bind_eq_ok.mp h
    obtain ⟨_, -, h⟩ := bind_eq_ok.mp h
    obtain ⟨_, -, h⟩ := bind_eq_ok.mp h
    obtain ⟨completedAt, hcompleted, h⟩ := bind_eq_ok.mp h
    obtain ⟨_, -, hparse⟩ := bind_eq_ok.mp hcompleted
    rw [← Except.ok.inj h]
    exact parseDt_aware hparse
  | _ => exact absurd h (by simp [turnFromDict])

theorem validateInvariants_reread {s : SessionState} (hcreated : s.createdAt.utcoffset ≠ none)
    (hupdated : s.updatedAt.utcoffset ≠ none) (hcompleted : ∀ t ∈ s.turns, t.completedAt.utcoffset ≠ none)
    (hread : s.createdAt.reread = s.createdAt) (hread' : s.updatedAt.reread = s.updatedAt)
    (hturns : ∀ t ∈ s.turns, t.completedAt.reread = t.completedAt) :
    validateInvariants st s = .ok () ↔ s.createdAt.instant ≤ s.updatedAt.instant ∧
      ∀ t, s.turns.getLast? = some t → s.updatedAt.instant = t.completedAt.instant := by
  have hlt := Datetime.lt_reread hupdated hcreated
  rw [hread, hread'] at hlt
  unfold validateInvariants requireLastTurn
  rw [hlt]
  show (raiseIf (decide (s.updatedAt.instant < s.createdAt.instant) = true) _ >>= _) = _ ↔ _
  rw [bind_eq_ok, exists_unit, raiseIf_eq_ok, decide_eq_true_eq, not_lt]
  refine and_congr_right fun _ => ?_
  cases hlast : s.turns.getLast? with
  | none => exact iff_of_true rfl fun _ h => absurd h (by simp)
  | some last =>
    have hmem := List.mem_of_getLast? hlast
    have heq := Datetime.eq_reread hupdated (hcompleted last hmem)
    have hfold := s.updatedAt.inFold_reread
    rw [hread'] at hfold
    rw [hturns last hmem, hfold, Bool.not_false, Bool.and_true] at heq
    dsimp only
    rw [raiseIf_eq_ok, heq, Bool.not_eq_false, beq_iff_eq]
    exact ⟨fun h t ht => Option.some.inj ht ▸ h, fun h => h last rfl⟩

theorem sessionOf_valid {expected : PyStr} {j : Json} {s : SessionState}
    (h : sessionOf st expected j = .ok s) :
    s.Valid st ∧ canonicalUuid st.json expected = some s.sessionId := by
  cases j with
  | obj data =>
    unfold sessionOf at h
    obtain ⟨_, -, h⟩ := bind_eq_ok.mp h
    obtain ⟨_, -, h⟩ := bind_eq_ok.mp h
    obtain ⟨sessionId, hid, h⟩ := bind_eq_ok.mp h
    obtain ⟨_, hexpected, h⟩ := bind_eq_ok.mp h
    obtain ⟨createdAt, hcreated, h⟩ := bind_eq_ok.mp h
    obtain ⟨updatedAt, hupdated, h⟩ := bind_eq_ok.mp h
    obtain ⟨rows, -, h⟩ := bind_eq_ok.mp h
    obtain ⟨turns, hturns, h⟩ := bind_eq_ok.mp h
    obtain ⟨_, hvalid, h⟩ := bind_eq_ok.mp h
    obtain rfl := Except.ok.inj h
    have hcanonical : canonicalUuid st.json expected = some sessionId := by
      unfold requireExpected at hexpected
      cases hexp : canonicalUuid st.json expected with
      | none => rw [hexp] at hexpected; exact absurd hexpected (by simp)
      | some canonical =>
        rw [hexp] at hexpected
        exact congrArg some (not_not.mp (raiseIf_eq_ok.mp hexpected)).symm
    obtain ⟨_, -, hcreated⟩ := bind_eq_ok.mp hcreated
    obtain ⟨_, -, hupdated⟩ := bind_eq_ok.mp hupdated
    obtain ⟨hcreated, hread⟩ := parseDt_aware hcreated
    obtain ⟨hupdated, hread'⟩ := parseDt_aware hupdated
    have hcompleted : ∀ t ∈ turns, t.completedAt.utcoffset ≠ none ∧ t.completedAt.reread = t.completedAt := by
      intro t ht
      obtain ⟨row, -, hrow⟩ := mem_of_mapM_ok hturns ht
      exact turnFromDict_aware hrow
    obtain ⟨hordered, hlast⟩ := (validateInvariants_reread hcreated hupdated
      (fun t ht => (hcompleted t ht).1) hread hread' fun t ht => (hcompleted t ht).2).mp hvalid
    exact ⟨⟨canonicalUuid_idem _ hcanonical, hcreated, hupdated, fun t ht => (hcompleted t ht).1, hordered,
      hlast⟩, hcanonical⟩
  | _ => exact absurd h (by simp [sessionOf])

end

end SessionSerializer

namespace FileSessionStore
open SessionSerializer

section
variable {store : FileSessionStore}

theorem parseSession_loads {canonical : PyStr} {raw : Bytes} {j : Json}
    (h : loadsBytes store.texts.json raw = .ok j) :
    store.parseSession canonical raw = fromDict store.texts canonical j := by
  unfold parseSession
  rw [h]
  rfl

theorem fromDict_total {canonical : PyStr} (hc : canonicalUuid store.texts.json canonical = some canonical)
    {j : Json} (hj : j.intsFit store.texts.json = true) :
    (∃ s, fromDict store.texts canonical j = .ok s ∧ s.Valid store.texts ∧ s.sessionId = canonical) ∨
      ∃ msg, fromDict store.texts canonical j = .error (sessionDataCorruptionError msg) := by
  unfold fromDict
  cases hread : sessionOf store.texts canonical j with
  | ok s =>
    obtain ⟨hvalid, hid⟩ := sessionOf_valid hread
    exact .inl ⟨s, rfl, hvalid, Option.some.inj (hid.symm.trans hc)⟩
  | error e =>
    obtain ⟨msg, hmsg⟩ := corrupts_sessionOf canonical hj e hread
    exact .inr ⟨msg, congrArg Except.error hmsg⟩

theorem parseSession_total {canonical : PyStr}
    (hc : canonicalUuid store.texts.json canonical = some canonical) (raw : Bytes) :
    ((∃ s, store.parseSession canonical raw = .ok s ∧ s.Valid store.texts ∧ s.sessionId = canonical) ∨
      ∃ msg, store.parseSession canonical raw = .error (sessionDataCorruptionError msg)) ↔
      Parsable store.texts.json raw := by
  have hescapes : ∀ e, loadsBytes store.texts.json raw = .error e → e.isA "JSONDecodeError" = false →
      e.isA "SessionDataCorruptionError" = false →
      ¬ ((∃ s, store.parseSession canonical raw = .ok s ∧ s.Valid store.texts ∧ s.sessionId = canonical) ∨
        ∃ msg, store.parseSession canonical raw = .error (sessionDataCorruptionError msg)) := by
    intro e he hjson hcorrupt
    have hparse : store.parseSession canonical raw = .error e := by
      unfold parseSession
      rw [he]
      show Except.error (invalidJson canonical e) = _
      unfold invalidJson
      rw [hjson, if_neg Bool.false_ne_true]
    rw [hparse]
    rintro (⟨s, hs, -⟩ | ⟨msg, hmsg⟩)
    · exact absurd hs (by simp)
    · rw [Except.error.inj hmsg] at hcorrupt
      exact absurd hcorrupt (by simp [sessionDataCorruptionError, PyExc.isA])
  cases hdecode : decodePass raw (detectEncoding raw.toList) with
  | none =>
    have hload : loadsBytes store.texts.json raw = .error (unicodeDecodeError []) := by
      unfold loadsBytes
      rw [hdecode]
    refine iff_of_false (hescapes _ hload (by simp [unicodeDecodeError, PyExc.isA])
      (by simp [unicodeDecodeError, PyExc.isA])) fun h => ?_
    exact absurd h.decodes (by rw [hdecode]; simp)
  | some text =>
    have hload : loadsBytes store.texts.json raw = Scan.loads store.texts.json text := by
      unfold loadsBytes
      rw [hdecode]
    cases hread : Scan.loads store.texts.json text with
    | ok j =>
      rw [hread] at hload
      rw [parseSession_loads hload]
      refine iff_of_true (fromDict_total hc (Scan.loads_intsFit _ hread)) ⟨?_, ?_⟩
      · rw [hdecode]
        rfl
      · rw [hload]
        simp
    | error e =>
      rw [hread] at hload
      rcases Scan.loads_errors _ text e hread with rfl | rfl
      · refine iff_of_true (.inr ⟨py "Invalid JSON in session " ++ canonical, ?_⟩) ⟨?_, ?_⟩
        · unfold parseSession
          rw [hload]
          show Except.error (invalidJson canonical jsonDecodeError) = _
          exact congrArg Except.error (if_pos (by simp [jsonDecodeError, PyExc.isA]))
        · rw [hdecode]
          rfl
        · rw [hload]
          simp [jsonDecodeError, intLiteralTooLong, valueError]
      · refine iff_of_false (hescapes _ hload (by simp [intLiteralTooLong, valueError, PyExc.isA])
          (by simp [intLiteralTooLong, valueError, PyExc.isA])) fun h => h.digits hload

theorem load_read {env : FileEnv} {id canonical : PyStr} {d : SessionDir} {raw : Bytes}
    (hid : canonicalUuid store.texts.json id = some canonical)
    (hread : store.readSession env canonical (canonical ++ py ".json") d = .ok (some raw)) :
    store.load env id d = (store.parseSession canonical raw).map some := by
  unfold load
  rw [hid]
  dsimp only
  rw [hread]
  show (store.parseSession canonical raw >>= fun session => return some session) = _
  cases store.parseSession canonical raw with
  | ok s => rfl
  | error e => rfl

theorem load_total_iff {env : FileEnv} {id canonical : PyStr} {d : SessionDir} {raw : Bytes}
    (hid : canonicalUuid store.texts.json id = some canonical)
    (hread : store.readSession env canonical (canonical ++ py ".json") d = .ok (some raw)) :
    ((∃ s, store.load env id d = .ok (some s) ∧ s.Valid store.texts ∧ s.sessionId = canonical) ∨
      ∃ msg, store.load env id d = .error (sessionDataCorruptionError msg)) ↔
      Parsable store.texts.json raw := by
  rw [load_read hid hread, ← parseSession_total (canonicalUuid_idem _ hid) raw]
  cases store.parseSession canonical raw with
  | ok s => simp [Except.map]
  | error e => simp [Except.map]

variable (store) in
/-- `load` makes a valid session of a file that can be read, or raises a `SessionDataCorruptionError`,
exactly when its bytes decode and `int` reads its integers. -/
theorem loadsTotally_iff (env : FileEnv) (id : PyStr) (d : SessionDir) : LoadsTotally store env id d ↔
    ∀ canonical raw, canonicalUuid store.texts.json id = some canonical →
      store.readSession env canonical (canonical ++ py ".json") d = .ok (some raw) →
      Parsable store.texts.json raw := by
  unfold LoadsTotally
  constructor
  · intro h canonical raw hid hread
    exact (load_total_iff hid hread).mp (h canonical raw hid hread)
  · intro h canonical raw hid hread
    exact (load_total_iff hid hread).mpr (h canonical raw hid hread)

end

/-! ### bytes that do not decode -/

def plainIso (t : Datetime) : PyStr :=
  intText t.wall ++ match t.utcoffset with
    | none => []
    | some z => 32 :: intText z

def plainFromIso (s : PyStr) : Option Datetime :=
  match JsonLoad.number (small 0) s with
  | some (.int n, []) => some ⟨n, none⟩
  | some (.int n, _ :: rest) => match JsonLoad.number (small 0) rest with
    | some (.int z, _) => some ⟨n, some (.fixed z)⟩
    | _ => none
  | _ => none

theorem plainFromIso_plainIso (t : Datetime) : plainFromIso (plainIso t) = some t.reread := by
  have hfits : ∀ i : Int, intFits (small 0) i = true := fun _ => rfl
  unfold plainFromIso plainIso Datetime.reread
  cases t.utcoffset with
  | none =>
    dsimp only
    rw [JsonLoad.number_int (small 0) t.wall (hfits _) JsonLoad.stop_nil]
    rfl
  | some z =>
    dsimp only
    rw [JsonLoad.number_int (small 0) t.wall (hfits _) (JsonLoad.stop_cons (by decide))]
    dsimp only
    rw [← List.append_nil (intText z), JsonLoad.number_int (small 0) z (hfits z) JsonLoad.stop_nil]
    rfl

theorem plainFromIso_reread (s : PyStr) (t : Datetime) (h : plainFromIso s = some t) : t.reread = t := by
  unfold plainFromIso at h
  split at h
  · obtain rfl := Option.some.inj h
    rfl
  · split at h
    · obtain rfl := Option.some.inj h
      rfl
    · exact absurd h (by simp)
  · exact absurd h (by simp)

theorem plainIso_ascii (t : Datetime) : Ascii (plainIso t) := by
  intro c hc
  rcases List.mem_append.mp hc with h | h
  · exact Json.intText_ascii _ c h
  · cases hz : t.utcoffset with
    | none =>
      rw [hz] at h
      exact absurd h List.not_mem_nil
    | some z =>
      rw [hz] at h
      rcases List.mem_cons.mp h with rfl | h
      · decide
      · exact Json.intText_ascii _ c h

def plainTexts : SessionTexts where
  json := small 4300
  isoformat := plainIso
  fromisoformat := plainFromIso
  fromisoformat_isoformat := plainFromIso_plainIso
  fromisoformat_reread := plainFromIso_reread
  isoformat_ascii := plainIso_ascii
  setRepr _ := py "set()"
  frozensetRepr _ := py "frozenset()"

def plainStore : FileSessionStore := ⟨plainTexts, py "/sessions"⟩

def calmFiles : FileEnv := ⟨fun _ => false, 0, [py "a"], 0⟩

def oddFile : Bytes := ⟨#[0xFE, 0xFF, 0]⟩

/-- The file of the session with the id zero holds these bytes. -/
def oddDirectory : SessionDir :=
  .directory 0o700 (Dict.empty.set (uuidText 0 ++ py ".json") (.file oddFile))

theorem oddDirectory_notTotal : ¬ LoadsTotally plainStore calmFiles (uuidText 0) oddDirectory := by
  intro h
  have hid : canonicalUuid plainStore.texts.json (uuidText 0) = some (uuidText 0) := by
    unfold canonicalUuid
    rw [uuidOf_uuidText _ (by norm_num)]
    rfl
  have hread : plainStore.readSession calmFiles (uuidText 0) (uuidText 0 ++ py ".json") oddDirectory =
      .ok (some oddFile) := by
    unfold readSession oddDirectory
    dsimp only
    rw [Dict.get?_set, if_pos rfl]
    rfl
  have hparsable := (load_total_iff hid hread).mp (h _ _ hid hread)
  have hdecodes := hparsable.decodes
  unfold decodePass at hdecodes
  rw [toList_eq] at hdecodes
  exact absurd hdecodes (by decide)

end FileSessionStore

end Tomtit
