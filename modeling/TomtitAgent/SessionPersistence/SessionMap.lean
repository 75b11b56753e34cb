import TomtitAgent.SessionPersistence.RoundTrip

/-!
# The session directory is a map of sessions

Any number of sessions are saved in one directory, in any order, and every call may fail anywhere.

* `SessionMap`, `SessionMap.put`   the abstract store: for each canonical id the session that was saved last;
* `Refines`                        a directory holds the documents of a map;
* `save_refines`, `after_refines`  one call, and a run of calls;
* `Answers`                        what a reader is given under an id of a map;
* `store_refines`                  after every run a load answers from the map;
* `resume_of_run`                  a process that starts anew after any run of turns, the first of which
                                   found no session directory, finds its live session.
-/

open Py

namespace Tomtit

/-- What is stored under each canonical id. -/
abbrev SessionMap := PyStr → Option SessionState

/-- A call of `save`, and what the operating system does meanwhile. -/
structure SaveCall where
  session : SessionState
  env : FileEnv

section
variable (store : FileSessionStore)

namespace SessionMap

/-- The session is stored under the canonical text of its id, which it gets. -/
def put (session : SessionState) (m : SessionMap) : SessionMap :=
  match canonicalUuid store.texts.json session.sessionId with
  | none => m
  | some canonical => Function.update m canonical (some { session with sessionId := canonical })

/-- What a reader is given under an id. -/
structure Answers (m : SessionMap) (id : PyStr) (r : Except PyExc (Option SessionState)) : Prop where
  invalid : canonicalUuid store.texts.json id = none → r = .error uuidError
  missing : ∀ canonical, canonicalUuid store.texts.json id = some canonical → m canonical = none → r = .ok none
  stored : ∀ canonical session, canonicalUuid store.texts.json id = some canonical →
    m canonical = some session → Given canonical session r

end SessionMap

namespace FileSessionStore

def afterSaves (d : SessionDir) (calls : List SaveCall) : SessionDir :=
  calls.foldl (fun d c => (store.save c.env c.session d).2) d

def savedIn : SessionDir → SessionMap → List SaveCall → SessionMap
  | _, m, [] => m
  | d, m, c :: calls =>
    match store.save c.env c.session d with
    | (.ok _, d') => savedIn d' (m.put store c.session) calls
    | (.error _, d') => savedIn d' m calls

/-- The file of a session holds a document that was written for it. -/
def Holds (d : SessionDir) (canonical : PyStr) (session : SessionState) : Prop :=
  ∃ written data, store.payload written = .ok data ∧
    canonicalUuid store.texts.json written.sessionId = some canonical ∧
    session = { written with sessionId := canonical } ∧
    entryOf d (canonical ++ py ".json") = some (.file data)

def Document (m : SessionMap) (name : PyStr) : Prop := ∃ canonical, m canonical ≠ none ∧ name = canonical ++ py ".json"

/-- The directory can be used, and its files are the documents of the map and temporary files. -/
structure Refines (m : SessionMap) (d : SessionDir) : Prop where
  usable : d = .absent ∨ ∃ mode entries, d = .directory mode entries ∧ insecure mode = false
  stored : ∀ canonical session, m canonical = some session → Holds store d canonical session
  missing : ∀ id canonical, canonicalUuid store.texts.json id = some canonical → m canonical = none →
    entryOf d (canonical ++ py ".json") = none
  files : ∀ name, entryOf d name ≠ none → Document m name ∨ ∃ id drawn, name = tempName id drawn

structure StoreRefines (calls : List SaveCall) : Prop where
  loads : ∀ (env : FileEnv) (id : PyStr), env.Faithful →
    (savedIn store .absent (fun _ => none) calls).Answers store id
      (store.load env id (afterSaves store .absent calls))
  files : ∀ name, entryOf (afterSaves store .absent calls) name ≠ none →
    Document (savedIn store .absent (fun _ => none) calls) name ∨ ∃ id drawn, name = tempName id drawn
  clean : (∀ c ∈ calls, c.env.fails .unlink = false) → ∀ name, entryOf (afterSaves store .absent calls) name ≠ none →
    Document (savedIn store .absent (fun _ => none) calls) name

end FileSessionStore

end

namespace FileSessionStore

section
variable {store : FileSessionStore} {m : SessionMap} {d : SessionDir}

/-! ### the map -/

theorem put_canonical {session : SessionState} {canonical : PyStr}
    (h : canonicalUuid store.texts.json session.sessionId = some canonical) (c : PyStr) :
    m.put store session c = if c = canonical then some { session with sessionId := canonical } else m c := by
  unfold SessionMap.put
  rw [h]
  exact Function.update_apply m canonical _ c

theorem document_put {session : SessionState} {name : PyStr} (h : Document m name) :
    Document (m.put store session) name := by
  obtain ⟨c, hc, rfl⟩ := h
  refine ⟨c, ?_, rfl⟩
  cases hid : canonicalUuid store.texts.json session.sessionId with
  | none =>
    unfold SessionMap.put
    rw [hid]
    exact hc
  | some canonical =>
    rw [put_canonical hid]
    split_ifs
    · exact Option.some_ne_none _
    · exact hc

/-! ### one call -/

structure SaveRefines (store : FileSessionStore) (c : SaveCall) (m : SessionMap) (d : SessionDir)
    (result : Except PyExc Unit) (d' : SessionDir) : Prop where
  ok : result = .ok () → Refines store (m.put store c.session) d' ∧
    ((∀ name, entryOf d name ≠ none → Document m name) →
      ∀ name, entryOf d' name ≠ none → Document (m.put store c.session) name)
  error : ∀ e, result = .error e → Refines store m d' ∧
    (c.env.fails .unlink = false → (∀ name, entryOf d name ≠ none → Document m name) →
      ∀ name, entryOf d' name ≠ none → Document m name)

theorem name_inj {c canonical : PyStr} : c ++ py ".json" = canonical ++ py ".json" ↔ c = canonical :=
  List.append_left_inj (py ".json")

theorem save_refines (h : Refines store m d) (c : SaveCall) :
    SaveRefines store c m d (store.save c.env c.session d).1 (store.save c.env c.session d).2 := by
  have hs := save_entries store c.env c.session d
  refine ⟨fun hok => ?_, fun e he => ?_⟩
  · obtain ⟨data, target, hpayload, hname, hentries⟩ := hs.ok hok
    obtain ⟨canonical, hid, rfl⟩ := canonical_of_fileName hname
    have hnew : Document (m.put store c.session) (canonical ++ py ".json") := by
      refine ⟨canonical, ?_, rfl⟩
      rw [put_canonical hid, if_pos rfl]
      exact Option.some_ne_none _
    refine ⟨⟨.inr (hs.secured hok), fun k session hk => ?_, fun id k hk hnone => ?_, fun name hne => ?_⟩,
      fun hclean name hne => ?_⟩
    · rw [put_canonical hid] at hk
      by_cases he : k = canonical
      · rw [if_pos he] at hk
        refine ⟨c.session, data, hpayload, he ▸ hid, ?_, ?_⟩
        · rw [← Option.some.inj hk, he]
        · rw [hentries, he, if_pos rfl]
      · rw [if_neg he] at hk
        obtain ⟨written, old, hwritten, hold, hsession, hentry⟩ := h.stored k session hk
        refine ⟨written, old, hwritten, hold, hsession, ?_⟩
        rw [hentries, if_neg fun hsame => he (name_inj.mp hsame)]
        exact hentry
    · rw [put_canonical hid] at hnone
      by_cases he : k = canonical
      · rw [if_pos he] at hnone
        exact absurd hnone (Option.some_ne_none _)
      · rw [if_neg he] at hnone
        rw [hentries, if_neg fun hsame => he (name_inj.mp hsame)]
        exact h.missing id k hk hnone
    · rw [hentries] at hne
      by_cases he : name = canonical ++ py ".json"
      · exact .inl (he ▸ hnew)
      · rw [if_neg he] at hne
        exact (h.files name hne).imp_left document_put
    · rw [hentries] at hne
      by_cases he : name = canonical ++ py ".json"
      · exact he ▸ hnew
      · rw [if_neg he] at hne
        exact document_put (hclean name hne)
  · have hkept := hs.error e he
    have hdocument : ∀ id k, canonicalUuid store.texts.json id = some k →
        entryOf (store.save c.env c.session d).2 (k ++ py ".json") = entryOf d (k ++ py ".json") := by
      intro id k hk
      refine hkept _ fun drawn => @fileName_ne_tempName store id _ ?_ c.session.sessionId drawn
      unfold fileName
      rw [hk]
    refine ⟨⟨?_, fun k session hk => ?_, fun id k hk hnone => ?_, fun name hne => ?_⟩, fun hu hclean name hne => ?_⟩
    · rcases hs.founded e he with hsame | hsecure
      · rw [hsame]
        exact h.usable
      · exact .inr hsecure
    · obtain ⟨written, old, hwritten, hold, hsession, hentry⟩ := h.stored k session hk
      refine ⟨written, old, hwritten, hold, hsession, ?_⟩
      rw [hdocument _ k hold]
      exact hentry
    · rw [hdocument id k hk]
      exact h.missing id k hk hnone
    · by_cases htemp : ∃ drawn, name = tempName c.session.sessionId drawn
      · obtain ⟨drawn, hdrawn⟩ := htemp
        exact .inr ⟨_, drawn, hdrawn⟩
      · rw [hkept name fun drawn hdrawn => htemp ⟨drawn, hdrawn⟩] at hne
        exact h.files name hne
    · rw [hs.clean e he hu name] at hne
      exact hclean name hne

/-! ### a run of calls -/

theorem refines_absent (store : FileSessionStore) : Refines store (fun _ => none) .absent where
  usable := .inl rfl
  stored _ _ h := by cases h
  missing _ _ _ _ := rfl
  files _ h := absurd rfl h

/-- By induction on the calls. -/
theorem after_refines (calls : List SaveCall) : ∀ (m : SessionMap) (d : SessionDir), Refines store m d →
    Refines store (savedIn store d m calls) (afterSaves store d calls) := by
  induction calls with
  | nil => exact fun _ _ h => h
  | cons c calls ih =>
    intro m d h
    have hstep := save_refines h c
    rw [savedIn]
    show Refines store _ (afterSaves store (store.save c.env c.session d).2 calls)
    rcases hrun : store.save c.env c.session d with ⟨result, d'⟩
    rw [hrun] at hstep
    cases result with
    | ok u => exact ih _ d' (hstep.ok rfl).1
    | error e => exact ih m d' (hstep.error e rfl).1

theorem after_clean (calls : List SaveCall) : ∀ (m : SessionMap) (d : SessionDir), Refines store m d →
    (∀ c ∈ calls, c.env.fails .unlink = false) → (∀ name, entryOf d name ≠ none → Document m name) →
    ∀ name, entryOf (afterSaves store d calls) name ≠ none → Document (savedIn store d m calls) name := by
  induction calls with
  | nil => exact fun _ _ _ _ hclean => hclean
  | cons c calls ih =>
    intro m d h hunlink hclean
    obtain ⟨hu, hrest⟩ := List.forall_mem_cons.mp hunlink
    have hstep := save_refines h c
    rw [savedIn]
    show ∀ name, entryOf (afterSaves store (store.save c.env c.session d).2 calls) name ≠ none → _
    rcases hrun : store.save c.env c.session d with ⟨result, d'⟩
    rw [hrun] at hstep
    cases result with
    | ok u => exact ih _ d' (hstep.ok rfl).1 hrest ((hstep.ok rfl).2 hclean)
    | error e => exact ih m d' (hstep.error e rfl).1 hrest ((hstep.error e rfl).2 hu hclean)

theorem given_id {canonical c : PyStr} {session : SessionState} {r : Except PyExc (Option SessionState)} :
    Given canonical { session with sessionId := c } r ↔ Given canonical session r := by
  have hsame : { session with sessionId := c }.Restorable ↔ session.Restorable :=
    ⟨fun h => ⟨h.created, h.updated, h.turns, h.ordered, h.lastTurn⟩,
      fun h => ⟨h.created, h.updated, h.turns, h.ordered, h.lastTurn⟩⟩
  exact ⟨fun h => ⟨fun hr => h.restorable (hsame.mpr hr), fun hr => h.corrupt fun hr' => hr (hsame.mp hr')⟩,
    fun h => ⟨fun hr => h.restorable (hsame.mp hr), fun hr => h.corrupt fun hr' => hr (hsame.mpr hr')⟩⟩

theorem Refines.load (h : Refines store m d) {env : FileEnv} (henv : env.Faithful) (id : PyStr) :
    m.Answers store id (store.load env id d) := by
  refine ⟨fun hid => ?_, fun canonical hid hm => ?_, fun canonical session hid hm => ?_⟩
  · unfold Tomtit.FileSessionStore.load
    rw [hid]
  · have hentry := h.missing id canonical hid hm
    unfold Tomtit.FileSessionStore.load
    rw [hid]
    dsimp only
    have hread : store.readSession env canonical (canonical ++ py ".json") d = .ok none := by
      unfold readSession
      rw [henv.inspect, if_neg Bool.false_ne_true]
      rcases h.usable with rfl | ⟨mode, entries, rfl, hmode⟩
      · rfl
      · dsimp only
        rw [hmode, if_neg Bool.false_ne_true, show entries.get? (canonical ++ py ".json") = none from hentry]
    rw [hread]
    rfl
  · obtain ⟨written, data, hpayload, hwritten, rfl, hentry⟩ := h.stored canonical session hm
    rcases h.usable with rfl | ⟨mode, entries, rfl, hmode⟩
    · exact absurd hentry (by simp [entryOf])
    · exact given_id.mpr (given_saved henv hpayload hid hwritten hmode hentry)

/-- **The store refines the map**, over every run of saves, whatever fails in them. -/
theorem store_refines (store : FileSessionStore) (calls : List SaveCall) : StoreRefines store calls where
  loads _ id henv := (after_refines calls _ _ (refines_absent store)).load henv id
  files := (after_refines calls _ _ (refines_absent store)).files
  clean hunlink := after_clean calls _ _ (refines_absent store) hunlink fun _ h => absurd rfl h

end

end FileSessionStore

/-! ### starting anew -/

/-- A turn of the declared types, with a time that its text says. -/
structure TurnRecord.Plain (t : TurnRecord) : Prop where
  taskId : ∃ s, t.taskId = .str s
  goal : ∃ s, t.goal = .str s
  finalAnswer : ∃ s, t.finalAnswer = .optStr s
  completedAt : t.completedAt.reread = t.completedAt

/-- A session as the runtime makes it and as `load` gives it. -/
structure SessionState.Plain (s : SessionState) : Prop where
  created : s.createdAt.reread = s.createdAt
  updated : s.updatedAt.reread = s.updatedAt
  turns : ∀ t ∈ s.turns, t.Plain

namespace LiveSession
open FileSessionStore

section
variable {μ : Type} (store : FileSessionStore)

/-- What a process that starts anew finds after a run of turns that began without a session directory:
nothing as long as no turn was recorded, and then the live session. -/
structure Resumes (live : SessionState) (rs : List (Recording μ)) : Prop where
  invalid : canonicalUuid store.texts.json live.sessionId = none → returned store ⟨live, .absent⟩ rs = []
  unrecorded : ∀ (env : FileEnv) (canonical : PyStr), env.Faithful →
    canonicalUuid store.texts.json live.sessionId = some canonical → returned store ⟨live, .absent⟩ rs = [] →
    store.load env live.sessionId (after store ⟨live, .absent⟩ rs).disk = .ok none
  recorded : ∀ (env : FileEnv) (canonical : PyStr), env.Faithful →
    canonicalUuid store.texts.json live.sessionId = some canonical → returned store ⟨live, .absent⟩ rs ≠ [] →
    Given canonical (after store ⟨live, .absent⟩ rs).live
      (store.load env live.sessionId (after store ⟨live, .absent⟩ rs).disk)
  plain : ∀ (env : FileEnv) (canonical : PyStr), env.Faithful →
    canonicalUuid store.texts.json live.sessionId = some canonical → live.Plain →
    (∀ r ∈ rs, r.now.reread = r.now) → returned store ⟨live, .absent⟩ rs ≠ [] →
    store.load env live.sessionId (after store ⟨live, .absent⟩ rs).disk =
      .ok (some { (after store ⟨live, .absent⟩ rs).live with sessionId := canonical })

end

section
variable {μ : Type} {store : FileSessionStore}

def candidate (r : Recording μ) (k : LiveSession) : SessionState :=
  { k.live with turns := k.live.turns ++ [r.record], updatedAt := r.record.completedAt }

theorem record_refines {m : SessionMap} {k : LiveSession} (h : Refines store m k.disk) (r : Recording μ) :
    (∃ e k', recordTerminalState store r k = (.error e, k') ∧ k'.live = k.live ∧ Refines store m k'.disk) ∨
      ∃ k' canonical, recordTerminalState store r k = (.ok (), k') ∧ k'.live = candidate r k ∧
        canonicalUuid store.texts.json k.live.sessionId = some canonical ∧
        Refines store (m.put store (candidate r k)) k'.disk := by
  have hstep := save_refines h ⟨candidate r k, r.env⟩
  have hentries := save_entries store r.env (candidate r k) k.disk
  rcases hrun : store.save r.env (candidate r k) k.disk with ⟨result, disk⟩
  dsimp only at hstep
  rw [hrun] at hstep hentries
  cases result with
  | error e =>
    refine .inl ⟨e, ⟨k.live, disk⟩, ?_, rfl, (hstep.error e rfl).1⟩
    unfold recordTerminalState
    dsimp only
    rw [show store.save r.env { k.live with
      turns := k.live.turns ++ [r.record], updatedAt := r.record.completedAt } k.disk = (.error e, disk) from hrun]
  | ok u =>
    obtain ⟨data, target, -, hname, -⟩ := hentries.ok rfl
    obtain ⟨canonical, hid, -⟩ := canonical_of_fileName hname
    refine .inr ⟨⟨candidate r k, disk⟩, canonical, ?_, rfl, hid, (hstep.ok rfl).1⟩
    unfold recordTerminalState
    dsimp only
    rw [show store.save r.env { k.live with
      turns := k.live.turns ++ [r.record], updatedAt := r.record.completedAt } k.disk = (.ok (), disk) from hrun]
    rfl

theorem returned_invalid (rs : List (Recording μ)) : ∀ (m : SessionMap) (k : LiveSession),
    Refines store m k.disk → canonicalUuid store.texts.json k.live.sessionId = none → returned store k rs = [] := by
  induction rs with
  | nil => exact fun _ _ _ _ => rfl
  | cons r rs ih =>
    intro m k h hid
    rw [returned]
    rcases record_refines h r with ⟨e, k', hrun, hlive, hm⟩ | ⟨k', canonical, -, -, hsome, -⟩
    · rw [hrun]
      exact ih m k' hm (by rw [hlive, hid])
    · rw [hid] at hsome
      exact absurd hsome (by simp)

/-- By induction on the turns: the map holds nothing under the id until a turn is recorded, and the live
session after that. -/
theorem map_after {canonical : PyStr} (rs : List (Recording μ)) :
    ∀ (m : SessionMap) (k : LiveSession), Refines store m k.disk →
      canonicalUuid store.texts.json k.live.sessionId = some canonical →
      ∃ m', Refines store m' (after store k rs).disk ∧
        (returned store k rs = [] → m' canonical = m canonical) ∧
        (returned store k rs ≠ [] ∨ m canonical = some { k.live with sessionId := canonical } →
          m' canonical = some { (after store k rs).live with sessionId := canonical }) := by
  induction rs with
  | nil => exact fun m k h _ => ⟨m, h, fun _ => rfl, fun hm => hm.resolve_left fun hne => hne rfl⟩
  | cons r rs ih =>
    intro m k h hid
    rw [after_cons, returned]
    rcases record_refines h r with ⟨e, k', hrun, hlive, hm⟩ | ⟨k', _, hrun, hlive, -, hm⟩
    · rw [hrun]
      dsimp only
      rw [← hlive] at hid ⊢
      exact ih m k' hm hid
    · rw [hrun]
      dsimp only
      have hid' : canonicalUuid store.texts.json (candidate r k).sessionId = some canonical := hid
      obtain ⟨m', hm', -, hfound⟩ := ih _ k' hm (by rw [hlive]; exact hid)
      refine ⟨m', hm', fun hnil => absurd hnil (List.cons_ne_nil _ _), fun _ => hfound (.inr ?_)⟩
      rw [put_canonical hid', if_pos rfl, hlive]

theorem plain_record {r : Recording μ} (hnow : r.now.reread = r.now) : r.record.Plain :=
  ⟨⟨_, rfl⟩, ⟨_, rfl⟩, ⟨_, rfl⟩, hnow⟩

theorem plain_after (rs : List (Recording μ)) : ∀ k : LiveSession, k.live.Plain →
    (∀ r ∈ rs, r.now.reread = r.now) → (after store k rs).live.Plain := by
  induction rs with
  | nil => exact fun _ hp _ => hp
  | cons r rs ih =>
    intro k hp hnow
    obtain ⟨hfirst, hrest⟩ := List.forall_mem_cons.mp hnow
    rw [after_cons]
    refine ih _ ?_ hrest
    have hspec := @recordTerminalState_spec μ store r k
    rcases hrun : recordTerminalState store r k with ⟨result, k'⟩
    rw [hrun] at hspec
    cases result with
    | error e =>
      rw [(hspec.error e rfl).1]
      exact hp
    | ok u =>
      rw [(hspec.ok rfl).1]
      refine ⟨hp.created, hfirst, fun t ht => ?_⟩
      rcases List.mem_append.mp ht with ht | ht
      · exact hp.turns t ht
      · rw [List.mem_singleton.mp ht]
        exact plain_record hfirst

theorem utcoffset_plain {t : Datetime} (hread : t.reread = t) (haware : t.tzinfo.isNone = false) :
    t.utcoffset ≠ none := by
  intro hnone
  rw [← hread] at haware
  unfold Datetime.reread at haware
  rw [hnone] at haware
  exact absurd haware (by simp)

theorem restored_plain {s : SessionState} (hp : s.Plain) (canonical : PyStr) :
    s.restored canonical = { s with sessionId := canonical } := by
  have hturn : ∀ t ∈ s.turns, t.restored = t := by
    intro t ht
    obtain ⟨⟨task, htask⟩, ⟨goal, hgoal⟩, ⟨answer, hanswer⟩, htime⟩ := hp.turns t ht
    cases t
    dsimp only at htask hgoal hanswer htime
    subst htask hgoal hanswer
    unfold TurnRecord.restored
    rw [htime]
    cases answer with
    | none => rfl
    | some text => rfl
  unfold SessionState.restored
  rw [hp.created, hp.updated, List.map_congr_left hturn, List.map_id']

theorem restorable_plain {s : SessionState} (hp : s.Plain) (h : SessionSerializer.Admitted store.texts s) :
    s.Restorable := by
  have hcreated := utcoffset_plain hp.created h.created
  have hupdated := utcoffset_plain hp.updated h.updated
  have hcompleted : ∀ t ∈ s.turns, t.completedAt.utcoffset ≠ none := fun t ht =>
    utcoffset_plain (hp.turns t ht).completedAt (h.turns t ht).aware
  obtain ⟨hordered, hlast⟩ := (SessionSerializer.validateInvariants_reread hcreated hupdated hcompleted hp.created
    hp.updated fun t ht => (hp.turns t ht).completedAt).mp h.invariants
  refine ⟨hcreated, hupdated, fun t ht => ?_, hordered, hlast⟩
  obtain ⟨⟨task, htask⟩, ⟨goal, hgoal⟩, ⟨answer, hanswer⟩, -⟩ := hp.turns t ht
  refine ⟨?_, ?_, ?_, hcompleted t ht⟩
  · rw [htask]
    exact Option.some_ne_none task
  · rw [hgoal]
    exact Option.some_ne_none goal
  · rw [hanswer]
    cases answer with
    | none => exact .inl rfl
    | some text => exact .inr (Option.some_ne_none text)

/-- **A process that starts anew finds the live session**, whatever failed before. -/
theorem resume_of_run (store : FileSessionStore) (live : SessionState) (rs : List (Recording μ)) :
    Resumes store live rs := by
  have key := fun canonical => @map_after μ store canonical rs _ ⟨live, .absent⟩ (refines_absent store)
  refine ⟨returned_invalid rs _ ⟨live, .absent⟩ (refines_absent store), fun env canonical henv hid hnone => ?_,
    fun env canonical henv hid hsome => ?_, fun env canonical henv hid hp hnow hsome => ?_⟩
  · obtain ⟨m, hm, hkept, -⟩ := key canonical hid
    exact (hm.load henv _).missing canonical hid (hkept hnone)
  · obtain ⟨m, hm, -, hfound⟩ := key canonical hid
    exact given_id.mp ((hm.load henv _).stored canonical _ hid (hfound (.inl hsome)))
  · obtain ⟨m, hm, -, hfound⟩ := key canonical hid
    have hgiven := given_id.mp ((hm.load henv _).stored canonical _ hid (hfound (.inl hsome)))
    have hplain := @plain_after μ store rs ⟨live, .absent⟩ hp hnow
    obtain ⟨data, target, hpayload, -, -⟩ := (@run_spec μ store rs ⟨live, .absent⟩).2 (.inr hsome)
    rw [hgiven.restorable (restorable_plain hplain (payload_ok hpayload).2), restored_plain hplain]

end

end LiveSession

end Tomtit
