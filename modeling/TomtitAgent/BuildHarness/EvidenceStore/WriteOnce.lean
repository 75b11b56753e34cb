import TomtitAgent.BuildHarness.EvidenceStore
import TomtitAgent.Python.SmallRuntime

/-!
# The evidence store writes every artifact once

* `Artifact`, `Artifact.path`   what can be saved, and where it is stored;
* `Artifact.pathText_inj`   accepted artifacts never share a file;
* `StoreOp`, `EvidenceStore.run`   sequences of operations, with what the operating system does to
  each;
* `save_cases`, `appendEvent_cases`   all that one operation can do to the tree;
* `run_keeps`   no operation of a run changes a stored artifact;
* `writeOnce`   the whole contract of the save operations.
-/

open Py

namespace Tomtit

/-! ### artifacts -/

/-- The artifacts of a task: a contract has no name, the others are stored under one. -/
inductive Artifact
  | contract (taskId : PyStr)
  | prompt (taskId role : PyStr)
  | report (taskId role : PyStr)
  | gateResult (taskId name : PyStr)

namespace Artifact

def path : Artifact → Path
  | contract taskId => [taskId, py "contract.json"]
  | prompt taskId role => [taskId, py "prompts", role ++ py ".md"]
  | report taskId role => [taskId, py "reports", role ++ py ".md"]
  | gateResult taskId name => [taskId, py "gate", name ++ py ".json"]

def Accepted : Artifact → Prop
  | contract taskId => isValidTaskId taskId = true
  | prompt taskId role => isValidTaskId taskId = true ∧ isValidEvidenceId role = true
  | report taskId role => isValidTaskId taskId = true ∧ isValidEvidenceId role = true
  | gateResult taskId name => isValidTaskId taskId = true ∧ isValidEvidenceId name = true

theorem path_injective : Function.Injective path := by
  intro a b h
  cases a <;> cases b <;> simp [path] at h ⊢
  · exact h
  · exact h
  · exact h
  · exact h

end Artifact

/-- A component of an accepted path: a name that does not start with a dot and has no separator. -/
structure CleanName (name : PyStr) : Prop where
  head : ∃ c cs, name = c :: cs ∧ c ≠ 46
  separator : (47 : CodePoint) ∉ name

theorem CleanName.append {name suffix : PyStr} (h : CleanName name)
    (hs : (47 : CodePoint) ∉ suffix) : CleanName (name ++ suffix) := by
  obtain ⟨⟨c, cs, rfl, hc⟩, hsep⟩ := h
  refine ⟨⟨c, cs ++ suffix, rfl, hc⟩, ?_⟩
  rw [List.mem_append, not_or]
  exact ⟨hsep, hs⟩

theorem cleanName_of_tokenRe {rest : CodePoint → Bool} {n : Nat} {s : PyStr}
    (hrest : rest 47 = false) (h : tokenRe isAlnum rest n s = true) : CleanName s := by
  constructor
  · obtain ⟨c, cs, rfl⟩ := List.exists_cons_of_ne_nil (tokenRe_ne_nil h)
    refine ⟨c, cs, rfl, ?_⟩
    rintro rfl
    exact absurd h (by simp [tokenRe, isAlnum, isDigit, isUpper, isLower])
  · intro hmem
    rcases tokenRe_all h 47 hmem with h1 | h1
    · exact absurd h1 (by decide)
    · exact absurd h1 (by rw [hrest]; simp)

/-- The identifier grammars accept clean names only: a final newline is neither dot nor separator. -/
theorem cleanName_of_dollar {rest : CodePoint → Bool} {n : Nat} {s : PyStr}
    (hrest : rest 47 = false) (h : dollar (tokenRe isAlnum rest n) s = true) : CleanName s := by
  unfold dollar at h
  rcases Bool.or_eq_true_iff.mp h with h1 | h1
  · exact cleanName_of_tokenRe hrest h1
  · obtain ⟨hl, hd⟩ := Bool.and_eq_true_iff.mp h1
    have e : s = s.dropLast ++ [newline] :=
      (List.dropLast_append_getLast? newline (by rw [beq_iff_eq] at hl; exact hl)).symm
    rw [e]
    exact (cleanName_of_tokenRe hrest hd).append (by decide)

theorem cleanName_of_taskId {s : PyStr} (h : isValidTaskId s = true) : CleanName s :=
  cleanName_of_dollar (by decide) h

theorem cleanName_of_evidenceId {s : PyStr} (h : isValidEvidenceId s = true) : CleanName s :=
  cleanName_of_dollar (by decide) h

theorem cleanName_lit {c : Char} {l : List Char} (hc : c ≠ '.') (h : '/' ∉ c :: l) :
    CleanName (py (String.ofList (c :: l))) := by
  rw [py_ofList]
  refine ⟨⟨CodePoint.ofChar c, l.map CodePoint.ofChar, rfl, fun e => hc ?_⟩, fun hmem => h ?_⟩
  · exact CodePoint.ofChar_injective e
  · obtain ⟨d, hd, e⟩ := List.mem_map.mp hmem
    rw [← show d = '/' from CodePoint.ofChar_injective e]
    exact hd

namespace Artifact

theorem Accepted.cleanName {a : Artifact} (h : a.Accepted) : ∀ part ∈ a.path, CleanName part := by
  have hmd : (47 : CodePoint) ∉ py ".md" := by rw [py_ofList]; decide
  have hjson : (47 : CodePoint) ∉ py ".json" := by rw [py_ofList]; decide
  intro part hpart
  cases a with
  | contract taskId =>
    simp only [path, List.mem_cons, List.not_mem_nil, or_false] at hpart
    rcases hpart with rfl | rfl
    · exact cleanName_of_taskId h
    · exact cleanName_lit (by decide) (by decide)
  | prompt taskId role =>
    simp only [path, List.mem_cons, List.not_mem_nil, or_false] at hpart
    rcases hpart with rfl | rfl | rfl
    · exact cleanName_of_taskId h.1
    · exact cleanName_lit (by decide) (by decide)
    · exact (cleanName_of_evidenceId h.2).append hmd
  | report taskId role =>
    simp only [path, List.mem_cons, List.not_mem_nil, or_false] at hpart
    rcases hpart with rfl | rfl | rfl
    · exact cleanName_of_taskId h.1
    · exact cleanName_lit (by decide) (by decide)
    · exact (cleanName_of_evidenceId h.2).append hmd
  | gateResult taskId name =>
    simp only [path, List.mem_cons, List.not_mem_nil, or_false] at hpart
    rcases hpart with rfl | rfl | rfl
    · exact cleanName_of_taskId h.1
    · exact cleanName_lit (by decide) (by decide)
    · exact (cleanName_of_evidenceId h.2).append hjson

/-- Accepted artifacts that are stored in one file are one artifact, also as the file system reads
the path, split at its separators. -/
theorem pathText_inj {store : EvidenceStore} {a b : Artifact} (ha : a.Accepted) (hb : b.Accepted)
    (h : store.pathText a.path = store.pathText b.path) : a = b := by
  have hpath : ∀ c : Artifact, c.path ≠ [] := by
    intro c
    cases c <;> exact List.cons_ne_nil _ _
  have hsplit : ∀ c : Artifact, c.Accepted → ([47].intercalate c.path).splitOn 47 = c.path :=
    fun c hc => List.splitOn_intercalate 47 (fun part hpart => (hc.cleanName part hpart).separator)
      (hpath c)
  have hroot : ∀ c : Artifact, store.pathText c.path = store.root ++ 47 :: [47].intercalate c.path := by
    intro c
    unfold EvidenceStore.pathText joinWith
    rw [List.intercalate_cons_of_ne_nil (hpath c)]
    simp
  rw [hroot, hroot] at h
  have hrest : [47].intercalate a.path = [47].intercalate b.path :=
    (List.cons.inj (List.append_cancel_left h)).2
  apply path_injective
  rw [← hsplit a ha, ← hsplit b hb, hrest]

theorem Accepted.ne_temporaryPath {a : Artifact} (h : a.Accepted) (p : Path) (env : WriteEnv) :
    a.path ≠ temporaryPath p env := by
  intro e
  have hmem : temporaryName env.suffix ∈ a.path := by
    rw [e]
    exact List.mem_append_right _ (List.mem_singleton_self _)
  obtain ⟨c, cs, hc, hne⟩ := (h.cleanName _ hmem).head
  refine hne ?_
  unfold temporaryName at hc
  rw [py_ofList] at hc
  exact (List.cons.inj hc).1.symm

end Artifact

/-! ### what a save can do -/

def Save.artifact : Save → Artifact
  | .contract c => .contract c.taskId
  | .prompt taskId role _ => .prompt taskId role
  | .report taskId role _ => .report taskId role
  | .gateResult taskId name _ => .gateResult taskId name

section
variable (rt : Runtime) (store : EvidenceStore)

def Save.text : Save → Except PyExc PyStr
  | .contract c => jsonFile rt (contractToDict c)
  | .prompt _ _ text => .ok text
  | .report _ _ text => .ok text
  | .gateResult _ _ payload => jsonFile rt payload

theorem validateTaskId_eq_ok {taskId : PyStr} {u : Unit} :
    validateTaskId rt taskId = .ok u ↔ isValidTaskId taskId = true := by
  unfold validateTaskId
  rw [raiseIf_eq_ok, Bool.not_eq_false]

theorem validateArtifactName_eq_ok {kind name : PyStr} {u : Unit} :
    validateArtifactName rt kind name = .ok u ↔ isValidEvidenceId name = true := by
  unfold validateArtifactName
  rw [raiseIf_eq_ok, Bool.not_eq_false]

theorem target_eq_ok {taskId : PyStr} {parts p : Path} :
    target rt taskId parts = .ok p ↔ isValidTaskId taskId = true ∧ taskId :: parts = p := by
  unfold target
  rw [bind_eq_ok]
  constructor
  · rintro ⟨u, hu, hp⟩
    exact ⟨(validateTaskId_eq_ok rt).mp hu, Except.ok.inj hp⟩
  · rintro ⟨hid, rfl⟩
    exact ⟨(), (validateTaskId_eq_ok rt).mpr hid, rfl⟩

theorem Save.plan_eq_ok {s : Save} {p : Path} {text : PyStr} :
    s.plan rt = .ok (p, text) ↔
      s.artifact.Accepted ∧ s.artifact.path = p ∧ s.text rt = .ok text := by
  have named : ∀ {kind taskId name : PyStr} {parts : Path} {x : Except PyExc PyStr},
      (do validateArtifactName rt kind name
          let p ← target rt taskId parts
          let text ← x
          return (p, text)) = .ok (p, text) ↔
        (isValidTaskId taskId = true ∧ isValidEvidenceId name = true) ∧ taskId :: parts = p ∧
          x = .ok text := by
    intro kind taskId name parts x
    constructor
    · intro h
      obtain ⟨u, hu, h⟩ := bind_eq_ok.mp h
      obtain ⟨q, hq, h⟩ := bind_eq_ok.mp h
      obtain ⟨z, hz, h⟩ := bind_eq_ok.mp h
      obtain ⟨rfl, rfl⟩ := Prod.mk.inj (Except.ok.inj h)
      obtain ⟨hid, hp⟩ := (target_eq_ok rt).mp hq
      exact ⟨⟨hid, (validateArtifactName_eq_ok rt).mp hu⟩, hp, hz⟩
    · rintro ⟨⟨hid, hname⟩, hp, hx⟩
      refine bind_eq_ok.mpr ⟨(), (validateArtifactName_eq_ok rt).mpr hname, ?_⟩
      exact bind_eq_ok.mpr ⟨p, (target_eq_ok rt).mpr ⟨hid, hp⟩, bind_eq_ok.mpr ⟨text, hx, rfl⟩⟩
  cases s with
  | contract c =>
    constructor
    · intro h
      obtain ⟨q, hq, h⟩ := bind_eq_ok.mp h
      obtain ⟨z, hz, h⟩ := bind_eq_ok.mp h
      obtain ⟨rfl, rfl⟩ := Prod.mk.inj (Except.ok.inj h)
      obtain ⟨hid, hp⟩ := (target_eq_ok rt).mp hq
      exact ⟨hid, hp, hz⟩
    · rintro ⟨hid, hp, hx⟩
      exact bind_eq_ok.mpr ⟨p, (target_eq_ok rt).mpr ⟨hid, hp⟩, bind_eq_ok.mpr ⟨text, hx, rfl⟩⟩
  | prompt taskId role text' => exact named (x := .ok text')
  | report taskId role text' => exact named (x := .ok text')
  | gateResult taskId name payload => exact named

theorem writeNew_ok {env : WriteEnv} {t t' : FileTree} {p q : Path} {b : Bytes}
    (hne : p ≠ temporaryPath p env) (hfree : t.read? (temporaryPath p env) = none)
    (h : writeNew env t p b = (t', .ok q)) :
    q = p ∧ ∀ r, t'.read? r = if r = p then some b else t.read? r := by
  unfold writeNew at h
  dsimp only at h
  split at h
  · exact absurd (Prod.mk.inj h).2 (by simp)
  · exact absurd (Prod.mk.inj h).2 (by simp)
  · exact absurd (Prod.mk.inj h).2 (by simp)
  · obtain ⟨rfl, hq⟩ := Prod.mk.inj h
    refine ⟨(Except.ok.inj hq).symm, fun r => ?_⟩
    by_cases hr : r = temporaryPath p env
    · subst hr
      rw [FileTree.rename, FileTree.read?_write_self]
      dsimp only
      rw [FileTree.read?_write_other _ _ (Ne.symm hne), FileTree.read?_remove, if_pos rfl,
        if_neg (Ne.symm hne), hfree]
    · exact FileTree.read?_write_rename t b hr

theorem afterFault_read? {t : FileTree} {tmp r : Path} (b : Bytes) (unlinked : Bool) (h : r ≠ tmp) :
    (afterFault (t.write tmp b) tmp unlinked).read? r = t.read? r := by
  unfold afterFault
  split_ifs
  · rw [FileTree.read?_remove_other _ h, FileTree.read?_write_other _ _ h]
  · exact FileTree.read?_write_other _ _ h

theorem writeNew_error {env : WriteEnv} {t t' : FileTree} {p r : Path} {b : Bytes} {e : PyExc}
    (h : writeNew env t p b = (t', .error e)) (hr : r ≠ temporaryPath p env) :
    t'.read? r = t.read? r := by
  unfold writeNew at h
  dsimp only at h
  split at h
  · rw [← (Prod.mk.inj h).1]
  · rw [← (Prod.mk.inj h).1]
    exact afterFault_read? _ _ hr
  · rw [← (Prod.mk.inj h).1]
    exact afterFault_read? _ _ hr
  · exact absurd (Prod.mk.inj h).2 (by simp)

/-- All that a save can do: the tree it leaves and its result. -/
inductive SaveEffect (s : Save) (t : FileTree) : FileTree → Except PyExc Path → Prop
  /-- it raises before it writes -/
  | refused (e : PyExc) : SaveEffect s t t (.error e)
  /-- the write fails; a temporary file may be left -/
  | failed (env : WriteEnv) (e : PyExc) (t' : FileTree) (accepted : s.artifact.Accepted)
      (free : t.read? (temporaryPath s.artifact.path env) = none)
      (others : ∀ r, r ≠ temporaryPath s.artifact.path env → t'.read? r = t.read? r) :
      SaveEffect s t t' (.error e)
  /-- the same text is stored already -/
  | repeated (text : PyStr) (accepted : s.artifact.Accepted) (text_eq : s.text rt = .ok text)
      (encodable : Encodable text) (stored : t.read? s.artifact.path = some (utf8Bytes text)) :
      SaveEffect s t t (.ok s.artifact.path)
  /-- the artifact is new -/
  | created (text : PyStr) (t' : FileTree) (accepted : s.artifact.Accepted)
      (text_eq : s.text rt = .ok text) (encodable : Encodable text)
      (free : t.read? s.artifact.path = none)
      (read : ∀ r, t'.read? r =
        if r = s.artifact.path then some (utf8Bytes text) else t.read? r) :
      SaveEffect s t t' (.ok s.artifact.path)

theorem save_cases {s : Save} {env : WriteEnv} {t t' : FileTree} {result : Except PyExc Path}
    (h : store.save rt s env t = (t', result)) : SaveEffect rt s t t' result := by
  unfold EvidenceStore.save at h
  split at h
  · obtain ⟨rfl, rfl⟩ := Prod.mk.inj h
    exact .refused _
  · next p text hplan =>
    obtain ⟨hacc, rfl, htext⟩ := (Save.plan_eq_ok rt).mp hplan
    unfold EvidenceStore.writeAtomic at h
    split at h
    · obtain ⟨rfl, rfl⟩ := Prod.mk.inj h
      exact .refused _
    · next encoded hencoded =>
      have henc : Encodable text := encodeUtf8_ok_iff.mp ⟨encoded, hencoded⟩
      obtain rfl : utf8Bytes text = encoded := by
        rw [encodeUtf8_of henc] at hencoded
        exact Except.ok.inj hencoded
      split at h
      · next existing hread =>
        split_ifs at h with he
        · obtain ⟨rfl, rfl⟩ := Prod.mk.inj h
          exact .repeated text hacc htext henc (he ▸ hread)
        · obtain ⟨rfl, rfl⟩ := Prod.mk.inj h
          exact .refused _
      · next hread =>
        split_ifs at h with hfree
        · obtain ⟨rfl, rfl⟩ := Prod.mk.inj h
          exact .refused _
        · have hfree' : t.read? (temporaryPath s.artifact.path env) = none := not_not.mp hfree
          cases result with
          | error e => exact .failed env e t' hacc hfree' fun r hr => writeNew_error h hr
          | ok q =>
            obtain ⟨rfl, hq⟩ := writeNew_ok (hacc.ne_temporaryPath _ _) hfree' h
            exact .created text t' hacc htext henc hread hq

theorem save_created {s : Save} {env : WriteEnv} {t : FileTree} {text : PyStr}
    (hacc : s.artifact.Accepted) (htext : s.text rt = .ok text) (henc : Encodable text)
    (hfree : t.read? s.artifact.path = none)
    (htmp : t.read? (temporaryPath s.artifact.path env) = none) (hfault : env.fault = none) :
    ∃ t', store.save rt s env t = (t', .ok s.artifact.path) := by
  have hplan := (Save.plan_eq_ok rt).mpr ⟨hacc, rfl, htext⟩
  unfold EvidenceStore.save
  rw [hplan]
  dsimp only
  unfold EvidenceStore.writeAtomic
  rw [encodeUtf8_of henc]
  dsimp only
  rw [hfree]
  dsimp only
  rw [if_neg (not_not.mpr htmp), writeNew, hfault]
  exact ⟨_, rfl⟩

theorem save_stored {s : Save} {env : WriteEnv} {t : FileTree} {text text' : PyStr}
    (hacc : s.artifact.Accepted) (htext : s.text rt = .ok text') (henc : Encodable text)
    (hstored : t.read? s.artifact.path = some (utf8Bytes text)) :
    store.save rt s env t = (t,
      if Encodable text' then
        if text' = text then .ok s.artifact.path
        else .error (evidenceConflictError (py "artifact already exists with different content: " ++
          store.pathText s.artifact.path))
      else .error surrogateError) := by
  have hplan := (Save.plan_eq_ok rt).mpr ⟨hacc, rfl, htext⟩
  unfold EvidenceStore.save
  rw [hplan]
  dsimp only
  unfold EvidenceStore.writeAtomic
  by_cases henc' : Encodable text'
  · rw [encodeUtf8_of henc', if_pos henc']
    dsimp only
    rw [hstored]
    dsimp only
    by_cases he : text' = text
    · subst he
      rw [if_pos rfl, if_pos rfl]
    · have hbytes : utf8Bytes text ≠ utf8Bytes text' := fun hb => he
        (encodeUtf8_inj (encodeUtf8_of henc') (by rw [encodeUtf8_of henc, hb]))
      rw [if_neg hbytes, if_neg he]
  · rw [encodeUtf8, if_neg henc', if_neg henc']

theorem save_unwritable {s : Save} {env : WriteEnv} {t : FileTree} {e : PyExc}
    (hacc : s.artifact.Accepted) (htext : s.text rt = .error e) :
    store.save rt s env t = (t, .error e) := by
  have hplan : s.plan rt = .error e := by
    cases s with
    | contract c =>
      have hp : target rt c.taskId [py "contract.json"] = .ok _ :=
        (target_eq_ok rt).mpr ⟨hacc, rfl⟩
      rw [Save.plan, hp]
      show (Save.text rt (.contract c) >>= _) = _
      rw [htext]
      rfl
    | prompt taskId role text => exact absurd htext (by simp [Save.text])
    | report taskId role text => exact absurd htext (by simp [Save.text])
    | gateResult taskId name payload =>
      have hp : target rt taskId [py "gate", name ++ py ".json"] = .ok _ :=
        (target_eq_ok rt).mpr ⟨hacc.1, rfl⟩
      have hname : validateArtifactName rt (py "gate name") name = .ok () :=
        (validateArtifactName_eq_ok rt).mpr hacc.2
      rw [Save.plan, hname, hp]
      show (Save.text rt (.gateResult taskId name payload) >>= _) = _
      rw [htext]
      rfl
  unfold EvidenceStore.save
  rw [hplan]

/-! ### the event log -/

theorem read?_touch (t : FileTree) (p r : Path) :
    (touch t p).read? r = if r = p then some ((t.read? p).getD .empty) else t.read? r := by
  unfold touch
  split
  · next b hb =>
    split_ifs with hr
    · rw [hr, hb]
      rfl
    · rfl
  · next hb => rw [FileTree.read?_write, hb, Option.getD_none]

/-- All that an append can do: the tree it leaves and its result. -/
inductive AppendEffect (taskId eventType : PyStr) (timestamp : Timestamp) (payload : PyVal)
    (t : FileTree) : FileTree → Except PyExc Path → Prop
  /-- it raises before it opens the log -/
  | refused (e : PyExc) : AppendEffect taskId eventType timestamp payload t t (.error e)
  /-- the event cannot be written; the log is there afterwards -/
  | unwritable (e : PyExc) (taskId_ok : isValidTaskId taskId = true)
      (eventType_ok : isValidEvidenceId eventType = true)
      (line_eq : eventLine rt timestamp taskId eventType payload = .error e) :
      AppendEffect taskId eventType timestamp payload t (touch t (eventsPath taskId)) (.error e)
  | appended (line : Bytes) (taskId_ok : isValidTaskId taskId = true)
      (eventType_ok : isValidEvidenceId eventType = true)
      (line_eq : eventLine rt timestamp taskId eventType payload = .ok line) :
      AppendEffect taskId eventType timestamp payload t (appendBytes t (eventsPath taskId) line)
        (.ok (eventsPath taskId))

theorem appendEvent_cases {taskId eventType : PyStr} {timestamp : Timestamp} {payload : PyVal}
    {t t' : FileTree} {result : Except PyExc Path}
    (h : EvidenceStore.appendEvent rt t taskId eventType timestamp payload = (t', result)) :
    AppendEffect rt taskId eventType timestamp payload t t' result := by
  unfold EvidenceStore.appendEvent at h
  dsimp only at h
  split at h
  · obtain ⟨rfl, rfl⟩ := Prod.mk.inj h
    exact .refused _
  · next p hp =>
    obtain ⟨u, hu, hp⟩ := bind_eq_ok.mp hp
    obtain ⟨hid, rfl⟩ := (target_eq_ok rt).mp hp
    have htype := (validateArtifactName_eq_ok rt).mp hu
    split at h
    · next e hline =>
      obtain ⟨rfl, rfl⟩ := Prod.mk.inj h
      exact .unwritable e hid htype hline
    · next line hline =>
      obtain ⟨rfl, rfl⟩ := Prod.mk.inj h
      exact .appended line hid htype hline

/-! ### runs -/

/-- A call of an operation that writes, with all that its result depends on. -/
inductive StoreOp
  | save (s : Save) (env : WriteEnv)
  | append (taskId eventType : PyStr) (timestamp : Timestamp) (payload : PyVal)

def EvidenceStore.step (t : FileTree) : StoreOp → FileTree × Except PyExc Path
  | .save s env => store.save rt s env t
  | .append taskId eventType timestamp payload =>
    EvidenceStore.appendEvent rt t taskId eventType timestamp payload

/-- The tree after a sequence of calls, each of which may raise. -/
def EvidenceStore.run (t : FileTree) (ops : List StoreOp) : FileTree :=
  ops.foldl (fun t op => (store.step rt t op).1) t

def IsArtifactPath (p : Path) : Prop := ∃ a : Artifact, a.Accepted ∧ a.path = p

theorem Artifact.path_ne_eventsPath (a : Artifact) (taskId : PyStr) : a.path ≠ eventsPath taskId := by
  cases a <;> simp [Artifact.path, eventsPath]

theorem save_keeps {s : Save} {t t' : FileTree} {result : Except PyExc Path}
    (h : SaveEffect rt s t t' result) : FileTree.Keeps (fun _ => True) t t' := by
  intro p b _ hb
  cases h with
  | refused e => exact hb
  | failed env e t' accepted free others =>
    rw [others p (fun hp => absurd (hp ▸ hb) (by rw [free]; simp))]
    exact hb
  | repeated text accepted text_eq encodable stored => exact hb
  | created text t' accepted text_eq encodable free read =>
    rw [read, if_neg (fun hp => absurd (hp ▸ hb) (by rw [free]; simp))]
    exact hb

theorem append_keeps {taskId eventType : PyStr} {timestamp : Timestamp} {payload : PyVal}
    {t t' : FileTree} {result : Except PyExc Path}
    (h : AppendEffect rt taskId eventType timestamp payload t t' result) :
    FileTree.Keeps (fun p => p ≠ eventsPath taskId) t t' := by
  intro p b hp hb
  cases h with
  | refused e => exact hb
  | unwritable e taskId_ok eventType_ok line_eq =>
    rw [read?_touch, if_neg hp]
    exact hb
  | appended line taskId_ok eventType_ok line_eq =>
    rw [appendBytes, FileTree.read?_write_other _ _ hp]
    exact hb

theorem step_keeps (t : FileTree) (op : StoreOp) :
    FileTree.Keeps IsArtifactPath t (store.step rt t op).1 := by
  cases op with
  | save s env =>
    intro p b _ hb
    exact save_keeps rt (save_cases rt store rfl) p b trivial hb
  | append taskId eventType timestamp payload =>
    rintro p b ⟨a, _, rfl⟩ hb
    exact append_keeps rt (appendEvent_cases rt rfl) _ b (a.path_ne_eventsPath taskId) hb

theorem run_keeps (t : FileTree) (ops : List StoreOp) :
    FileTree.Keeps IsArtifactPath t (store.run rt t ops) := by
  induction ops generalizing t with
  | nil => exact FileTree.Keeps.refl _ t
  | cons op ops ih => exact (step_keeps rt store t op).trans (ih (store.step rt t op).1)

/-- A save that fails leaves every file as it was, and every artifact that was missing missing. -/
theorem save_failed {s : Save} {t t' : FileTree} {e : PyExc} (h : SaveEffect rt s t t' (.error e))
    {a : Artifact} (ha : a.Accepted) : t'.read? a.path = t.read? a.path := by
  cases h with
  | refused e => rfl
  | failed env e t' accepted free others => exact others _ (ha.ne_temporaryPath _ env)

theorem save_succeeded {s : Save} {t t' : FileTree} {p : Path}
    (h : SaveEffect rt s t t' (.ok p)) :
    ∃ text, s.artifact.Accepted ∧ s.text rt = .ok text ∧ Encodable text ∧ p = s.artifact.path ∧
      t'.read? p = some (utf8Bytes text) := by
  cases h with
  | repeated text accepted text_eq encodable stored =>
    exact ⟨text, accepted, text_eq, encodable, rfl, stored⟩
  | created text t' accepted text_eq encodable free read =>
    exact ⟨text, accepted, text_eq, encodable, rfl, by rw [read, if_pos rfl]⟩

/-- **The store writes once.**  After a save that succeeded and any calls whatsoever, the stored
bytes are those of its text, the same text is saved without effect, and nothing else can be saved in
its place.  A save that fails changes no file, and no two artifacts share one. -/
theorem writeOnce :
    (∀ (s : Save) (env : WriteEnv) (t t' : FileTree) (p : Path),
      store.save rt s env t = (t', .ok p) →
      ∃ text, s.text rt = .ok text ∧ p = s.artifact.path ∧ ∀ ops : List StoreOp,
        (store.run rt t' ops).read? p = some (utf8Bytes text) ∧
        ∀ (s' : Save) (env' : WriteEnv), s'.artifact = s.artifact →
          (s'.text rt = .ok text → store.save rt s' env' (store.run rt t' ops) =
            (store.run rt t' ops, .ok p)) ∧
          (∀ text', s'.text rt = .ok text' → text' ≠ text →
            ∃ e, store.save rt s' env' (store.run rt t' ops) = (store.run rt t' ops, .error e) ∧
              e.isA (if Encodable text' then "EvidenceConflictError" else "UnicodeEncodeError")) ∧
          (∀ e, s'.text rt = .error e →
            store.save rt s' env' (store.run rt t' ops) = (store.run rt t' ops, .error e))) ∧
    (∀ (s : Save) (env : WriteEnv) (t t' : FileTree) (e : PyExc),
      store.save rt s env t = (t', .error e) →
      (∀ p b, t.read? p = some b → t'.read? p = some b) ∧
        ∀ a : Artifact, a.Accepted → t'.read? a.path = t.read? a.path) ∧
    ∀ a b : Artifact, a.Accepted → b.Accepted →
      store.pathText a.path = store.pathText b.path → a = b := by
  refine ⟨?_, ?_, ?_⟩
  · intro s env t t' p h
    obtain ⟨text, hacc, htext, henc, rfl, hread⟩ := save_succeeded rt (save_cases rt store h)
    refine ⟨text, htext, rfl, fun ops => ?_⟩
    have hstored := run_keeps rt store t' ops _ _ ⟨s.artifact, hacc, rfl⟩ hread
    refine ⟨hstored, fun s' env' hs' => ?_⟩
    rw [← hs'] at hacc hstored ⊢
    refine ⟨fun htext' => ?_, fun text' htext' hne => ?_, fun e => save_unwritable rt store hacc⟩
    · rw [save_stored rt store hacc htext' henc hstored, if_pos henc, if_pos rfl]
    · rw [save_stored rt store hacc htext' henc hstored]
      by_cases henc' : Encodable text'
      · rw [if_pos henc', if_neg hne, if_pos henc']
        exact ⟨_, rfl, rfl⟩
      · rw [if_neg henc', if_neg henc']
        exact ⟨_, rfl, rfl⟩
  · intro s env t t' e h
    have heffect := save_cases rt store h
    exact ⟨fun p b hb => save_keeps rt heffect p b trivial hb, fun a => save_failed rt heffect⟩
  · intro a b
    exact Artifact.pathText_inj

end

def calm : WriteEnv := ⟨[], none, fun _ h => absurd h List.not_mem_nil⟩

/-- A text with a lone surrogate differs from what is stored, but no conflict is raised for it. -/
theorem writeOnce_surrogate : ∃ (t : FileTree) (p : Path) (e : PyExc),
    EvidenceStore.save (small 4300) ⟨[46]⟩ (.prompt [84] [97] [97]) calm .empty = (t, .ok p) ∧
    EvidenceStore.save (small 4300) ⟨[46]⟩ (.prompt [84] [97] [0xD800]) calm t = (t, .error e) ∧
    e.isA "EvidenceConflictError" = false := by
  have hacc : (Save.prompt [84] [97] [97]).artifact.Accepted := ⟨by decide, by decide⟩
  have henc : Encodable [97] := List.forall_mem_singleton.mpr rfl
  have hsurrogate : ¬ Encodable [0xD800] := fun h => absurd (h 0xD800 (List.mem_singleton_self _))
    (by decide)
  have hsaved : ∃ t, EvidenceStore.save (small 4300) ⟨[46]⟩ (.prompt [84] [97] [97]) calm .empty =
      (t, .ok (Artifact.prompt [84] [97]).path) := save_created _ _ hacc rfl henc rfl rfl rfl
  obtain ⟨t, ht⟩ := hsaved
  obtain ⟨text, -, htext, -, -, hread⟩ := save_succeeded (small 4300) (save_cases _ _ ht)
  obtain rfl : [97] = text := Except.ok.inj htext
  have hconflict : EvidenceStore.save (small 4300) ⟨[46]⟩ (.prompt [84] [97] [0xD800]) calm t = (t, _) :=
    save_stored _ _ hacc rfl henc hread
  rw [if_neg hsurrogate] at hconflict
  exact ⟨t, _, surrogateError, ht, hconflict, rfl⟩

end Tomtit
