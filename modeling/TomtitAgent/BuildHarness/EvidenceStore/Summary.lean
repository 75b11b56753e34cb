import TomtitAgent.BuildHarness.EvidenceStore.EventLog

/-!
# Reading a task back

* `TextKind`   the artifacts that are plain text: prompts and reports;
* `Reached.load`   what `load_task_summary` returns after a run: every artifact is read, so the
  events decide whether it raises;
* `eventLog_readBack_iff`   the events are read back exactly when no line of the log splits;
* `text_readBack_iff`   a text is read back exactly when it has no carriage return besides.
-/

open Py

namespace Tomtit

inductive TextKind
  | prompt
  | report

namespace TextKind

def dir : TextKind → PyStr
  | prompt => py "prompts"
  | report => py "reports"

def save : TextKind → PyStr → PyStr → PyStr → Save
  | prompt => .prompt
  | report => .report

end TextKind

def TaskSummary.texts (summary : TaskSummary) : TextKind → List (PyStr × PyStr)
  | .prompt => summary.prompts
  | .report => summary.reports

section
variable (rt : Runtime) (store : EvidenceStore)

/-! ### files -/

theorem jsonFile_eq_ok {j : Json} {text : PyStr} (h : jsonFile rt (JsonLoad.toPy j) = .ok text) :
    j.intsFit rt = true ∧ text = j.textIn rt (.indented 2) 0 ++ [newline] := by
  unfold jsonFile dumpsIn at h
  obtain ⟨body, hbody, h⟩ := bind_eq_ok.mp h
  obtain ⟨j', hj', hbody⟩ := bind_eq_ok.mp hbody
  have hfit := intsFit_of_jsonOf rt hj'
  rw [jsonOf_toPy rt hfit] at hj'
  obtain rfl := Except.ok.inj hj'
  obtain rfl := Except.ok.inj hbody
  exact ⟨hfit, (Except.ok.inj h).symm⟩

theorem indented_plain {j : Json} (hp : j.Plain) : (13 : CodePoint) ∉ j.textIn rt (.indented 2) 0 := by
  have hindent : ∀ d, ∀ c ∈ Layout.indentation 2 d, c ≠ 13 := by
    intro d c hc
    rcases List.mem_cons.mp hc with rfl | hc
    · decide
    · rw [List.eq_of_mem_replicate hc]
      decide
  have hne : ∀ c ∈ j.textIn rt (.indented 2) 0, c ≠ 13 := by
    refine JsonLoad.textIn_chars rt (.indented 2) (fun c hc => ?_) ?_ hindent hindent
      (fun d => hindent (d - 1)) hp (fun s hs c hc h32 => ?_) 0
    · rintro rfl
      exact absurd hc (by decide)
    · exact List.forall_mem_singleton.mpr (by decide)
    · rintro rfl
      exact absurd h32 (by decide)
  exact fun h => hne 13 h rfl

theorem readJson_jsonFile {j : Json} (hp : j.Plain) {text : PyStr}
    (h : jsonFile rt (JsonLoad.toPy j) = .ok text) (henc : Encodable text) (p : Path) :
    readJson rt store p (utf8Bytes text) = .ok j := by
  obtain ⟨hfit, rfl⟩ := jsonFile_eq_ok rt h
  have hplain : (13 : CodePoint) ∉ j.textIn rt (.indented 2) 0 ++ [newline] := by
    rw [List.mem_append, not_or]
    exact ⟨indented_plain rt hp, by decide⟩
  have hblank : ∀ c ∈ ([newline] : PyStr), JsonLoad.isBlank c = true :=
    List.forall_mem_singleton.mpr rfl
  have hloads := JsonLoad.loads_textIn_append rt (.indented 2) hp hfit hblank
  unfold readJson
  rw [decodeText_utf8 henc, universalNewlines_eq_self hplain]
  exact loadsOr_ok rt hloads

variable {rt}

theorem artifact_contract {s : Save} (hs : s.IsJson) {taskId text : PyStr}
    (hp : [taskId, py "contract.json"] = s.artifact.path) (htext : s.text rt = .ok text) :
    ∃ c : TaskContract, c.taskId = taskId ∧ jsonFile rt (JsonLoad.toPy (contractJson c)) = .ok text := by
  cases s with
  | contract c =>
    simp only [Save.artifact, Artifact.path, List.cons.injEq, and_true] at hp
    refine ⟨c, hp.symm, ?_⟩
    rw [← contractToDict_eq]
    exact htext
  | prompt id role prompt => simp [Save.artifact, Artifact.path] at hp
  | report id role report => simp [Save.artifact, Artifact.path] at hp
  | gateResult id name payload => simp [Save.artifact, Artifact.path] at hp

theorem artifact_text {kind : TextKind} {s : Save} {taskId name text : PyStr}
    (hp : [taskId, kind.dir, name] = s.artifact.path) (hacc : s.artifact.Accepted)
    (htext : s.text rt = .ok text) :
    ∃ role, isValidEvidenceId role = true ∧ name = role ++ py ".md" := by
  cases s with
  | contract c => simp [Save.artifact, Artifact.path] at hp
  | prompt id role prompt =>
    simp only [Save.artifact, Artifact.path, List.cons.injEq, and_true] at hp
    exact ⟨role, hacc.2, hp.2.2⟩
  | report id role report =>
    simp only [Save.artifact, Artifact.path, List.cons.injEq, and_true] at hp
    exact ⟨role, hacc.2, hp.2.2⟩
  | gateResult id name payload =>
    cases kind <;> simp [Save.artifact, Artifact.path, TextKind.dir] at hp

theorem artifact_gate {s : Save} (hs : s.IsJson) {taskId name text : PyStr}
    (hp : [taskId, py "gate", name] = s.artifact.path) (htext : s.text rt = .ok text) :
    ∃ o : JsonObject, jsonFile rt (JsonLoad.toPy o.json) = .ok text := by
  cases s with
  | contract c => simp [Save.artifact, Artifact.path] at hp
  | prompt id role prompt => simp [Save.artifact, Artifact.path] at hp
  | report id role report => simp [Save.artifact, Artifact.path] at hp
  | gateResult id name payload =>
    obtain ⟨o, rfl⟩ := hs
    exact ⟨o, htext⟩

theorem temporaryName_extension (env : WriteEnv) {c : CodePoint} {ext : PyStr} (hc : c ≠ 116) :
    endsWith (temporaryName env.suffix) (46 :: c :: ext) = false := by
  by_contra h
  rw [Bool.not_eq_false, endsWith_iff] at h
  obtain ⟨base, e⟩ := h
  unfold temporaryName at e
  rw [py_ofList] at e
  cases base with
  | nil => exact hc (List.cons.inj (List.cons.inj e).2).1.symm
  | cons b base =>
    have htail : ['t', 'm', 'p', '-', 'e', 'v', 'i', 'd', 'e', 'n', 'c', 'e', '-'].map
        CodePoint.ofChar ++ env.suffix = base ++ 46 :: c :: ext := (List.cons.inj e).2
    have hmem : (46 : CodePoint) ∈ base ++ 46 :: c :: ext :=
      List.mem_append_right _ List.mem_cons_self
    rw [← htail] at hmem
    rcases List.mem_append.mp hmem with hname | hsuffix
    · exact absurd hname (by decide)
    · rcases env.suffix_chars 46 hsuffix with h1 | h1 | h1
      · exact absurd h1 (by decide)
      · exact absurd h1 (by decide)
      · exact absurd h1 (by decide)

theorem Reached.artifact {t : FileTree} {log : PyStr → List Json} (h : Reached rt t log)
    {taskId dir name : PyStr} {b : Bytes} (hb : t.read? [taskId, dir, name] = some b)
    {c : CodePoint} {ext : PyStr} (hc : c ≠ 116) (hext : endsWith name (46 :: c :: ext) = true) :
    IsArtifactFile rt [taskId, dir, name] b := by
  rcases h.files _ b hb with hfile | ⟨id, e⟩ | ⟨q, env, e⟩
  · exact hfile
  · simp [eventsPath] at e
  · have hlast := congrArg List.getLast? e
    unfold temporaryPath at hlast
    rw [List.getLast?_concat] at hlast
    obtain rfl : name = temporaryName env.suffix := Option.some.inj hlast
    rw [temporaryName_extension env hc] at hext
    exact absurd hext (by simp)

/-! ### directories -/

/-- A directory is read when each of its files with the suffix is: under its stem stands what was
read from it. -/
theorem readDirectory_ok {α : Type} {t : FileTree} {dir : Path} {suffix : PyStr}
    {read : Path → Bytes → Except PyExc α}
    (h : ∀ name b, t.read? (dir ++ [name]) = some b → endsWith name suffix = true →
      ∃ value, read (dir ++ [name]) b = .ok value) :
    ∃ values, readDirectory t dir suffix read = .ok values ∧
      (∀ kv ∈ values, ∃ name b, t.read? (dir ++ [name]) = some b ∧ endsWith name suffix = true ∧
        stem name = kv.1 ∧ read (dir ++ [name]) b = .ok kv.2) ∧
      ∀ name b, t.read? (dir ++ [name]) = some b → endsWith name suffix = true →
        stem name ∈ values.map Prod.fst := by
  have hfile : ∀ name ∈ (t.names dir).filter fun name => endsWith name suffix,
      ∃ b, t.read? (dir ++ [name]) = some b ∧ endsWith name suffix = true := by
    intro name hname
    obtain ⟨hmem, hsuffix⟩ := List.mem_filter.mp hname
    obtain ⟨b, hb⟩ := FileTree.mem_names.mp hmem
    exact ⟨b, hb, hsuffix⟩
  have hread : ∀ name ∈ (t.names dir).filter fun name => endsWith name suffix, ∃ kv,
      (do
        let p := dir ++ [name]
        let value ← read p ((t.read? p).getD .empty)
        return (stem name, value)) = .ok kv := by
    intro name hname
    obtain ⟨b, hb, hsuffix⟩ := hfile name hname
    obtain ⟨value, hvalue⟩ := h name b hb hsuffix
    refine ⟨(stem name, value), bind_eq_ok.mpr ⟨value, ?_, rfl⟩⟩
    rw [hb]
    exact hvalue
  obtain ⟨values, hvalues, hback, hforth⟩ := mapM_ok hread
  refine ⟨values, hvalues, fun kv hkv => ?_, fun name b hb hsuffix => ?_⟩
  · obtain ⟨name, hname, hread⟩ := hback kv hkv
    obtain ⟨b, hb, hsuffix⟩ := hfile name hname
    obtain ⟨value, hvalue, he⟩ := bind_eq_ok.mp hread
    rw [hb] at hvalue
    obtain rfl := Except.ok.inj he
    exact ⟨name, b, hb, hsuffix, rfl, hvalue⟩
  · have hname : name ∈ (t.names dir).filter fun name => endsWith name suffix :=
      List.mem_filter.mpr ⟨FileTree.mem_names.mpr ⟨b, hb⟩, hsuffix⟩
    obtain ⟨kv, hkv, hread⟩ := hforth name hname
    obtain ⟨value, -, he⟩ := bind_eq_ok.mp hread
    obtain rfl := Except.ok.inj he
    exact List.mem_map.mpr ⟨_, hkv, rfl⟩

/-- The texts read from a directory: each under its role, with the line ends translated. -/
def ReadsTexts (t : FileTree) (taskId : PyStr) (kind : TextKind) (texts : List (PyStr × PyStr)) :
    Prop :=
  ∀ role text, isValidEvidenceId role = true → Py.Encodable text →
    t.read? [taskId, kind.dir, role ++ py ".md"] = some (utf8Bytes text) →
    assoc texts role = some (universalNewlines text)

theorem stem_md {role : PyStr} (h : isValidEvidenceId role = true) : stem (role ++ py ".md") = role := by
  obtain ⟨c, cs, rfl, -⟩ := (cleanName_of_evidenceId h).head
  rw [py_ofList]
  exact stem_append (List.cons_ne_nil c cs) (List.cons_ne_nil _ _) (by decide)

theorem endsWith_md (role : PyStr) : endsWith (role ++ py ".md") (py ".md") = true :=
  endsWith_iff.mpr ⟨role, rfl⟩

theorem Reached.readTexts {t : FileTree} {log : PyStr → List Json} (h : Reached rt t log)
    (taskId : PyStr) (kind : TextKind) :
    ∃ texts, readDirectory t [taskId, kind.dir] (py ".md") (fun _ => readText) = .ok texts ∧
      ReadsTexts t taskId kind texts := by
  have hfile : ∀ name b, t.read? ([taskId, kind.dir] ++ [name]) = some b →
      endsWith name (py ".md") = true → (∃ role, isValidEvidenceId role = true ∧
        name = role ++ py ".md") ∧ ∃ text, Py.Encodable text ∧ b = utf8Bytes text := by
    intro name b hb hsuffix
    rw [py_ofList] at hsuffix
    obtain ⟨s, text, -, hacc, htext, henc, hp, rfl⟩ := h.artifact hb (by decide) hsuffix
    exact ⟨artifact_text hp hacc htext, text, henc, rfl⟩
  have hread : ∀ {text : PyStr}, Py.Encodable text →
      readText (utf8Bytes text) = .ok (universalNewlines text) := by
    intro text henc
    unfold readText
    rw [decodeText_utf8 henc]
  have hall : ∀ name b, t.read? ([taskId, kind.dir] ++ [name]) = some b →
      endsWith name (py ".md") = true → ∃ text, readText b = .ok text := by
    intro name b hb hsuffix
    obtain ⟨-, text, henc, rfl⟩ := hfile name b hb hsuffix
    exact ⟨_, hread henc⟩
  obtain ⟨texts, htexts, hback, hforth⟩ := @readDirectory_ok _ t _ _ (fun _ => readText) hall
  refine ⟨texts, htexts, fun role text hrole henc hstored => ?_⟩
  have hmem := hforth _ _ hstored (endsWith_md role)
  rw [stem_md hrole] at hmem
  obtain ⟨value, hvalue⟩ := assoc_isSome_iff.mpr hmem
  obtain ⟨name, b, hb, hsuffix, hstem, hloaded⟩ := hback _ (assoc_mem hvalue)
  obtain ⟨⟨role', hrole', rfl⟩, -⟩ := hfile name b hb hsuffix
  dsimp only at hstem
  rw [stem_md hrole'] at hstem
  subst hstem
  obtain rfl := Option.some.inj (hstored.symm.trans hb)
  rw [hread henc] at hloaded
  rw [hvalue, show universalNewlines text = value from Except.ok.inj hloaded]

/-- After a run everything of a task is read, but for the events. -/
theorem Reached.load {t : FileTree} {log : PyStr → List Json} (h : Reached rt t log)
    {taskId : PyStr} (hid : isValidTaskId taskId = true) :
    ∃ contract prompts reports gates, ReadsTexts t taskId .prompt prompts ∧
      ReadsTexts t taskId .report reports ∧
      store.loadTaskSummary rt t taskId =
        (readEvents rt store taskId 1 (splitlines (logText rt (log taskId)))).bind fun events =>
          .ok { taskId, contract, prompts, reports, gates, events } := by
  have hcontract : ∃ contract, readIfExists t [taskId, py "contract.json"] none (fun b =>
      (readContract rt store taskId [taskId, py "contract.json"] b).map some) = .ok contract := by
    unfold readIfExists
    split
    · exact ⟨none, rfl⟩
    · next b hb =>
      obtain ⟨s, text, hs, -, htext, henc, hp, rfl⟩ : IsArtifactFile rt _ b := by
        rcases h.files _ b hb with hfile | ⟨id, e⟩ | ⟨q, env, e⟩
        · exact hfile
        · simp [eventsPath] at e
        · exact absurd e (@Artifact.Accepted.ne_temporaryPath (.contract taskId) hid q env)
      obtain ⟨c, rfl, hfile⟩ := artifact_contract hs hp htext
      unfold readContract
      dsimp only
      rw [readJson_jsonFile rt store (contractJson_plain c) hfile henc]
      exact ⟨some (contractJson c), by simp [contractJson, jsonStr, assoc_cons, bind, Except.bind, pure, Except.pure, Except.map]⟩
  have hgates : ∃ gates, readDirectory t [taskId, py "gate"] (py ".json") (readGate rt store) =
      .ok gates := by
    have hall : ∀ name b, t.read? ([taskId, py "gate"] ++ [name]) = some b →
        endsWith name (py ".json") = true →
        ∃ gate, readGate rt store ([taskId, py "gate"] ++ [name]) b = .ok gate := by
      intro name b hb hsuffix
      rw [py_ofList] at hsuffix
      obtain ⟨s, text, hs, -, htext, henc, hp, rfl⟩ := h.artifact hb (by decide) hsuffix
      obtain ⟨o, hfile⟩ := artifact_gate hs hp htext
      refine ⟨o.json, ?_⟩
      unfold readGate
      rw [readJson_jsonFile rt store o.plain hfile henc]
      rfl
    obtain ⟨gates, hgates, -⟩ := readDirectory_ok hall
    exact ⟨gates, hgates⟩
  have hevents : readIfExists t (eventsPath taskId) [] (fun b => do
      let text ← readText b
      readEvents rt store taskId 1 (splitlines text)) =
      readEvents rt store taskId 1 (splitlines (logText rt (log taskId))) := by
    have henc := logText_encodable rt (h.events taskId)
    have hlog := h.logs taskId
    unfold readIfExists
    split
    · next hnone =>
      rw [hnone, Option.getD_none] at hlog
      have hnil : logText rt (log taskId) = [] := by
        refine encodeUtf8_inj (encodeUtf8_of henc) ?_
        rw [← hlog]
        rfl
      rw [hnil]
      rfl
    · next b hb =>
      rw [hb, Option.getD_some] at hlog
      have hplain : (13 : CodePoint) ∉ logText rt (log taskId) := by
        intro hmem
        obtain ⟨event, hevent, hmem⟩ := List.mem_flatMap.mp hmem
        rcases List.mem_append.mp hmem with htext | hnewline
        · exact eventText_plain rt ((h.events taskId event hevent).plain rt) htext
        · exact absurd hnewline (by decide)
      have hread : readText b = .ok (logText rt (log taskId)) := by
        unfold readText
        rw [hlog, decodeText_utf8 henc, universalNewlines_eq_self hplain]
      dsimp only
      rw [hread]
      rfl
  obtain ⟨contract, hcontract⟩ := hcontract
  obtain ⟨prompts, hprompts, hreadPrompts⟩ := h.readTexts taskId .prompt
  obtain ⟨reports, hreports, hreadReports⟩ := h.readTexts taskId .report
  obtain ⟨gates, hgates⟩ := hgates
  refine ⟨contract, prompts, reports, gates, hreadPrompts, hreadReports, ?_⟩
  unfold EvidenceStore.loadTaskSummary
  have htask : validateTaskId rt taskId = .ok () := (validateTaskId_eq_ok rt).mpr hid
  dsimp only
  rw [htask, hcontract, show readDirectory t [taskId, py "prompts"] _ _ = _ from hprompts,
    show readDirectory t [taskId, py "reports"] _ _ = _ from hreports, hgates, hevents]
  rfl

/-! ### the event log -/

variable (rt)

theorem strings_eventJson (timestamp : Timestamp) (taskId eventType : PyStr) (payload : JsonObject) :
    (eventJson timestamp taskId eventType payload).strings =
      [py "timestamp", timestamp.text, py "task_id", taskId, py "event_type", eventType,
        py "payload"] ++ payload.json.strings := by
  simp [eventJson, Json.strings, Json.stringsItems]

theorem tokenRe_ascii {rest : CodePoint → Bool} {n : Nat} (hrest : ∀ c, rest c = true → c.val < 128)
    {s : PyStr} (h : tokenRe isAlnum rest n s = true) : Ascii s := fun c hc =>
  (tokenRe_all h c hc).elim isAlnum_lt (hrest c)

theorem Timestamp.ascii (timestamp : Timestamp) : Ascii timestamp.text := by
  intro c hc
  rcases timestamp.chars c hc with h | h
  · exact isAlnum_lt (by unfold isAlnum; rw [h]; rfl)
  · simp only [List.mem_cons, List.not_mem_nil, or_false] at h
    rcases h with rfl | rfl | rfl | rfl | rfl
    · decide
    · decide
    · decide
    · decide
    · decide

theorem ascii_of_taskId {s : PyStr} (h : isValidTaskId s = true) : Ascii s := by
  refine dollar_ascii (fun t ht => tokenRe_ascii (fun c hc => ?_) ht) h
  simp only [Bool.or_eq_true, beq_iff_eq] at hc
  rcases hc with ((hc | rfl) | rfl) | rfl
  · exact isAlnum_lt hc
  · decide
  · decide
  · decide

theorem ascii_of_evidenceId {s : PyStr} (h : isValidEvidenceId s = true) : Ascii s := by
  refine dollar_ascii (fun t ht => tokenRe_ascii (fun c hc => ?_) ht) h
  simp only [Bool.or_eq_true, beq_iff_eq] at hc
  rcases hc with (hc | rfl) | rfl
  · exact isAlnum_lt hc
  · decide
  · decide

theorem eventJson_strings {timestamp : Timestamp} {taskId eventType : PyStr} {payload : JsonObject}
    (hid : isValidTaskId taskId = true) (htype : isValidEvidenceId eventType = true) {s : PyStr}
    (hs : s ∈ (eventJson timestamp taskId eventType payload).strings) :
    Ascii s ∨ s ∈ payload.json.strings := by
  rw [strings_eventJson, List.mem_append] at hs
  refine hs.imp_left fun h => ?_
  simp only [List.mem_cons, List.not_mem_nil, or_false] at h
  rcases h with rfl | rfl | rfl | rfl | rfl | rfl | rfl
  · exact ascii_lit _ (by decide)
  · exact timestamp.ascii
  · exact ascii_lit _ (by decide)
  · exact ascii_of_taskId hid
  · exact ascii_lit _ (by decide)
  · exact ascii_of_evidenceId htype
  · exact ascii_lit _ (by decide)

theorem unbroken_eventJson {timestamp : Timestamp} {taskId eventType : PyStr} {payload : JsonObject}
    (hid : isValidTaskId taskId = true) (htype : isValidEvidenceId eventType = true) :
    Unbroken (eventJson timestamp taskId eventType payload) ↔ Unbroken payload.json := by
  constructor
  · intro h s hs
    refine h s ?_
    rw [strings_eventJson]
    exact List.mem_append_right _ hs
  · intro h s hs c hc
    rcases eventJson_strings hid htype hs with hascii | hs
    · have h128 := hascii c hc
      simp only [unescapedBreak, Bool.or_eq_false_iff, beq_eq_false_iff_ne]
      omega
    · exact h s hs c hc

theorem logged_append {timestamp : Timestamp} {taskId eventType : PyStr} {payload : JsonObject}
    (hid : isValidTaskId taskId = true) (htype : isValidEvidenceId eventType = true)
    (hfit : payload.json.intsFit rt = true) (henc : ∀ s ∈ payload.json.strings, Py.Encodable s) :
    (JsonOp.append taskId eventType timestamp payload).logged rt taskId =
      some (eventJson timestamp taskId eventType payload) := by
  have hfit' : (eventJson timestamp taskId eventType payload).intsFit rt = true := by
    simp [eventJson, Json.intsFit, Json.intsFitItems, hfit]
  have henc' : Py.Encodable (eventText rt (eventJson timestamp taskId eventType payload)) := by
    refine eventText_chars rt (fun c hc => ?_) (eventJson_plain _ _ _ _) fun s hs c hc _ => ?_
    · simp only [JsonLoad.isPrintableAscii, Bool.and_eq_true, decide_eq_true_eq] at hc
      exact Ascii.encodable (List.forall_mem_singleton.mpr hc.2) c (List.mem_singleton_self c)
    · rcases eventJson_strings hid htype hs with hascii | hs
      · exact hascii.encodable c hc
      · exact henc s hs c hc
  have hline := (eventLine_eq_ok rt).mpr ⟨hfit', henc', rfl⟩
  have hname : validateArtifactName rt (py "event type") eventType = .ok () :=
    (validateArtifactName_eq_ok rt).mpr htype
  have htarget : target rt taskId [py "events.jsonl"] = .ok (eventsPath taskId) :=
    (target_eq_ok rt).mpr ⟨hid, rfl⟩
  rw [JsonOp.logged, EvidenceStore.appendEvent, hname]
  dsimp only [bind, Except.bind]
  rw [htarget]
  dsimp only
  rw [hline]
  exact if_pos rfl

def ReadsLog (t : FileTree) (taskId : PyStr) (events : List Json) : Prop :=
  ∃ summary, store.loadTaskSummary rt t taskId = .ok summary ∧ summary.events = events

variable {rt}

theorem Reached.readsLog_iff {t : FileTree} {log : PyStr → List Json} (h : Reached rt t log)
    {taskId : PyStr} (hid : isValidTaskId taskId = true) :
    ReadsLog rt store t taskId (log taskId) ↔ ∀ event ∈ log taskId, Unbroken event := by
  rw [← readEvents_log_iff rt store (h.events taskId)]
  obtain ⟨contract, prompts, reports, gates, -, -, hload⟩ := h.load store hid
  constructor
  · rintro ⟨summary, hsummary, hevents⟩
    rw [hload] at hsummary
    obtain ⟨events, hread, hsummary⟩ := bind_eq_ok.mp hsummary
    rw [← Except.ok.inj hsummary] at hevents
    rw [hread]
    exact congrArg Except.ok hevents
  · intro hread
    exact ⟨_, by rw [hload, hread]; rfl, rfl⟩

variable (rt)

/-- **The event log is read back exactly when no line of it splits.**  After every run of calls from
the empty store: each append of accepted names and a payload that can be encoded has logged its
event, and the summary is returned with the logged events, in order, if and only if no string of
them has a line break that JSON leaves unescaped. -/
theorem eventLog_readBack_iff {taskId : PyStr} (hid : isValidTaskId taskId = true)
    (ops : List JsonOp) :
    (∀ eventType timestamp payload, isValidEvidenceId eventType = true →
      payload.json.intsFit rt = true → (∀ s ∈ payload.json.strings, Py.Encodable s) →
      (JsonOp.append taskId eventType timestamp payload).logged rt taskId =
          some (eventJson timestamp taskId eventType payload) ∧
        (Unbroken (eventJson timestamp taskId eventType payload) ↔ Unbroken payload.json)) ∧
    (ReadsLog rt store (store.run rt .empty (ops.map JsonOp.toOp)) taskId
        (ops.filterMap (JsonOp.logged rt taskId)) ↔
      ∀ event ∈ ops.filterMap (JsonOp.logged rt taskId), Unbroken event) :=
  ⟨fun _ _ _ htype hfit henc => ⟨logged_append rt hid htype hfit henc, unbroken_eventJson hid htype⟩,
    (reached_run rt store ops).readsLog_iff store hid⟩

/-! ### texts -/

theorem TextKind.path_save (kind : TextKind) (taskId role text : PyStr) :
    (kind.save taskId role text).artifact.path = [taskId, kind.dir, role ++ py ".md"] := by
  cases kind <;> rfl

theorem TextKind.text_save (kind : TextKind) (taskId role text : PyStr) :
    (kind.save taskId role text).text rt = .ok text := by
  cases kind <;> rfl

theorem TextKind.isJson_save (kind : TextKind) (taskId role text : PyStr) :
    (kind.save taskId role text).IsJson := by
  cases kind <;> trivial

theorem TextKind.accepted_save {kind : TextKind} {taskId role text : PyStr} :
    (kind.save taskId role text).artifact.Accepted ↔
      isValidTaskId taskId = true ∧ isValidEvidenceId role = true := by
  cases kind <;> rfl

/-- The summary has the text under its role, and saving it again is a no-op. -/
def ReadsText (t : FileTree) (kind : TextKind) (taskId role text : PyStr) (summary : TaskSummary) :
    Prop :=
  ∃ loaded, assoc (summary.texts kind) role = some loaded ∧ loaded = text ∧
    ∀ env, store.save rt (kind.save taskId role loaded) env t =
      (t, .ok [taskId, kind.dir, role ++ py ".md"])

variable {rt}

theorem Reached.readsText {t : FileTree} {log : PyStr → List Json} (h : Reached rt t log)
    {kind : TextKind} {taskId role text : PyStr} (hid : isValidTaskId taskId = true)
    (hrole : isValidEvidenceId role = true) (henc : Py.Encodable text)
    (hstored : t.read? [taskId, kind.dir, role ++ py ".md"] = some (utf8Bytes text)) :
    ((∀ event ∈ log taskId, Unbroken event) →
      ∃ summary, store.loadTaskSummary rt t taskId = .ok summary) ∧
    ∀ summary, store.loadTaskSummary rt t taskId = .ok summary →
      (ReadsText rt store t kind taskId role text summary ↔ (13 : CodePoint) ∉ text) := by
  refine ⟨fun hlog => ?_, fun summary hsummary => ?_⟩
  · obtain ⟨summary, hsummary, -⟩ := (h.readsLog_iff store hid).mpr hlog
    exact ⟨summary, hsummary⟩
  · obtain ⟨contract, prompts, reports, gates, hprompts, hreports, hload⟩ := h.load store hid
    rw [hload] at hsummary
    obtain ⟨events, -, hsummary⟩ := bind_eq_ok.mp hsummary
    have htexts : assoc (summary.texts kind) role = some (universalNewlines text) := by
      rw [← Except.ok.inj hsummary]
      cases kind with
      | prompt => exact hprompts role text hrole henc hstored
      | report => exact hreports role text hrole henc hstored
    rw [← universalNewlines_eq_self_iff]
    constructor
    · rintro ⟨loaded, hloaded, rfl, -⟩
      exact Option.some.inj (htexts.symm.trans hloaded)
    · intro he
      refine ⟨text, by rw [htexts, he], rfl, fun env => ?_⟩
      have hstored' : t.read? (kind.save taskId role text).artifact.path = some (utf8Bytes text) := by
        rw [TextKind.path_save]
        exact hstored
      rw [save_stored rt store (TextKind.accepted_save.mpr ⟨hid, hrole⟩)
        (TextKind.text_save rt kind taskId role text) henc hstored', if_pos henc, if_pos rfl,
        TextKind.path_save]

theorem stored_after {kind : TextKind} {taskId role text : PyStr} {before after : List JsonOp}
    {env : WriteEnv} {t : FileTree} {p : Path}
    (h : store.save rt (kind.save taskId role text) env
      (store.run rt .empty (before.map JsonOp.toOp)) = (t, .ok p)) :
    isValidTaskId taskId = true ∧ isValidEvidenceId role = true ∧ Py.Encodable text ∧
      Reached rt (store.run rt t (after.map JsonOp.toOp)) (fun id =>
        (before ++ after).filterMap (JsonOp.logged rt id)) ∧
      (store.run rt t (after.map JsonOp.toOp)).read? [taskId, kind.dir, role ++ py ".md"] =
        some (utf8Bytes text) := by
  have heffect := save_cases rt store h
  obtain ⟨text', hacc, htext', henc, rfl, hread⟩ := save_succeeded rt heffect
  obtain rfl : text = text' := by
    rw [TextKind.text_save] at htext'
    exact Except.ok.inj htext'
  have hkept := run_keeps rt store t (after.map JsonOp.toOp) _ _ ⟨_, hacc, rfl⟩ hread
  rw [TextKind.path_save] at hkept
  have hsaved := (reached_run rt store before).save (TextKind.isJson_save kind taskId role text)
    heffect
  have hreached := hsaved.run store after
  simp only [← List.filterMap_append] at hreached
  obtain ⟨hid, hrole⟩ := TextKind.accepted_save.mp hacc
  exact ⟨hid, hrole, henc, hreached, hkept⟩

variable (rt)

/-- **A saved text is read back exactly when it has no carriage return.**  Whatever calls come before
and after the save: while no line of the log splits, the summary is returned; and a summary that is
returned has the text, for a save that is a no-op, if and only if the text has no carriage return. -/
theorem text_readBack_iff {kind : TextKind} {taskId role text : PyStr} {before after : List JsonOp}
    {env : WriteEnv} {t : FileTree} {p : Path}
    (h : store.save rt (kind.save taskId role text) env
      (store.run rt .empty (before.map JsonOp.toOp)) = (t, .ok p)) :
    ((∀ event ∈ (before ++ after).filterMap (JsonOp.logged rt taskId), Unbroken event) →
      ∃ summary, store.loadTaskSummary rt (store.run rt t (after.map JsonOp.toOp)) taskId =
        .ok summary) ∧
    ∀ summary,
      store.loadTaskSummary rt (store.run rt t (after.map JsonOp.toOp)) taskId = .ok summary →
      (ReadsText rt store (store.run rt t (after.map JsonOp.toOp)) kind taskId role text summary ↔
        (13 : CodePoint) ∉ text) := by
  obtain ⟨hid, hrole, henc, hreached, hkept⟩ := stored_after store h
  exact hreached.readsText store hid hrole henc hkept

end

/-- The object with one string under the key `a`. -/
def singleton (s : PyStr) : JsonObject where
  items := [([97], .str s)]
  plain := .obj (by simp) (List.forall_mem_singleton.mpr (.str s))

def midnight : Timestamp where
  text := [48]
  chars := List.forall_mem_singleton.mpr (Or.inl rfl)
  nonempty := List.cons_ne_nil _ _

/-- The event of type `a` with that payload, in the log of the task `T`. -/
def eventOf (s : PyStr) : Json := eventJson midnight [84] [97] (singleton s)

theorem logged_singleton {s : PyStr} (h : Py.Encodable s) :
    JsonOp.logged (small 4300) [84] (JsonOp.append [84] [97] midnight (singleton s)) = some (eventOf s) := by
  have henc : ∀ t ∈ (singleton s).json.strings, Py.Encodable t := by
    intro t ht
    simp only [singleton, JsonObject.json, Json.strings, Json.stringsItems, List.mem_cons,
      List.append_nil, List.not_mem_nil, or_false] at ht
    rcases ht with rfl | rfl
    · exact List.forall_mem_singleton.mpr rfl
    · exact h
  have hfit : (singleton s).json.intsFit (small 4300) = true := by
    simp [singleton, JsonObject.json, Json.intsFit, Json.intsFitItems]
  exact logged_append (small 4300) (by decide) (by decide) hfit henc

theorem unbroken_eventOf {s : PyStr} : Unbroken (eventOf s) ↔ ∀ c ∈ s, unescapedBreak c = false := by
  unfold eventOf
  rw [unbroken_eventJson (by decide) (by decide)]
  have hstrings : (singleton s).json.strings = [[97], s] := rfl
  show (∀ t ∈ (singleton s).json.strings, _) ↔ _
  rw [hstrings, List.forall_mem_cons, List.forall_mem_singleton, List.forall_mem_singleton]
  exact and_iff_right rfl

/-- Two events, in the order in which they were appended. -/
theorem eventLog_readBack_two : ReadsLog (small 4300) ⟨[46]⟩
    (EvidenceStore.run (small 4300) ⟨[46]⟩ .empty
      [.append [84] [97] midnight (singleton [98]).toPy, .append [84] [97] midnight (singleton [99]).toPy]) [84]
    [eventOf [98], eventOf [99]] := by
  have hiff := (eventLog_readBack_iff (small 4300) ⟨[46]⟩ (show isValidTaskId [84] = true by decide)
    [.append [84] [97] midnight (singleton [98]), .append [84] [97] midnight (singleton [99])]).2
  rw [List.filterMap_cons_some (logged_singleton (List.forall_mem_singleton.mpr rfl)),
    List.filterMap_cons_some (logged_singleton (List.forall_mem_singleton.mpr rfl)), List.filterMap_nil] at hiff
  refine hiff.mpr (List.forall_mem_cons.mpr ⟨?_, List.forall_mem_singleton.mpr ?_⟩)
  · exact unbroken_eventOf.mpr (List.forall_mem_singleton.mpr rfl)
  · exact unbroken_eventOf.mpr (List.forall_mem_singleton.mpr rfl)

/-- The payload has a line separator: the log is not read back. -/
theorem eventLog_lineSeparator : ¬ ReadsLog (small 4300) ⟨[46]⟩
    (EvidenceStore.run (small 4300) ⟨[46]⟩ .empty
      [.append [84] [97] midnight (singleton [0x2028]).toPy]) [84]
    [eventJson midnight [84] [97] (singleton [0x2028])] := by
  have hreached := reached_run (small 4300) ⟨[46]⟩
    [JsonOp.append [84] [97] midnight (singleton [0x2028])]
  have hiff := hreached.readsLog_iff ⟨[46]⟩ (show isValidTaskId [84] = true by decide)
  rw [List.filterMap_cons_some (logged_singleton (List.forall_mem_singleton.mpr rfl)), List.filterMap_nil] at hiff
  intro h
  have hunbroken := hiff.mp h _ (List.mem_singleton_self _)
  exact absurd (unbroken_eventOf.mp hunbroken 0x2028 (List.mem_singleton_self _)) (by decide)

/-! ### a saved text -/

theorem saved_small {text : PyStr} (henc : Py.Encodable text) :
    ∃ t, EvidenceStore.save (small 4300) ⟨[46]⟩ (TextKind.save .report [84] [97] text) calm .empty =
      (t, .ok (Artifact.report [84] [97]).path) := by
  have hacc : (TextKind.save .report [84] [97] text).artifact.Accepted := ⟨by decide, by decide⟩
  exact save_created _ _ hacc rfl henc rfl rfl rfl

theorem text_readBack_plain : ∃ t summary,
    EvidenceStore.loadTaskSummary (small 4300) ⟨[46]⟩ t [84] = .ok summary ∧
      ReadsText (small 4300) ⟨[46]⟩ t .report [84] [97] [98, 10] summary := by
  have henc : Py.Encodable [98, 10] := (show Ascii [98, 10] by decide).encodable
  obtain ⟨t, ht⟩ := saved_small henc
  have h := @text_readBack_iff (small 4300) ⟨[46]⟩ .report [84] [97] [98, 10] [] [] calm t _ ht
  obtain ⟨summary, hsummary⟩ := h.1 fun event hevent => absurd hevent List.not_mem_nil
  exact ⟨t, summary, hsummary, (h.2 summary hsummary).mpr (by decide)⟩

/-- A carriage return is read back as a newline, and saving what was read is a conflict. -/
theorem text_readBack_return : ∃ t summary,
    EvidenceStore.save (small 4300) ⟨[46]⟩ (TextKind.save .report [84] [97] [98, 13]) calm .empty =
      (t, .ok (Artifact.report [84] [97]).path) ∧
    EvidenceStore.loadTaskSummary (small 4300) ⟨[46]⟩ t [84] = .ok summary ∧
    ¬ ReadsText (small 4300) ⟨[46]⟩ t .report [84] [97] [98, 13] summary := by
  have henc : Py.Encodable [98, 13] := (show Ascii [98, 13] by decide).encodable
  obtain ⟨t, ht⟩ := saved_small henc
  have hstored := @stored_after (small 4300) ⟨[46]⟩ .report [84] [97] [98, 13] [] [] calm t _ ht
  obtain ⟨hid, hrole, -, hreached, hkept⟩ := hstored
  obtain ⟨hload, hreads⟩ := hreached.readsText ⟨[46]⟩ hid hrole henc hkept
  obtain ⟨summary, hsummary⟩ := hload fun event hevent => absurd hevent List.not_mem_nil
  exact ⟨t, summary, ht, hsummary, fun h => absurd ((hreads summary hsummary).mp h) (by decide)⟩

end Tomtit
