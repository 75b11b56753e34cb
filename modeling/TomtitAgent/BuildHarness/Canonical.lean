import TomtitAgent.Python.JsonRoundTrip

/-!
# `canonical.py`: canonical serialization

* `canonicalize`, `canonicalJsonBytes`, `canonicalDigest`, `changedFilesDigest`   as the source
  computes them, with its messages and paths;
* `norm`   the normal form of a value: its JSON tree with NFC strings and sorted keys;
* `canonicalJsonBytes_ok_iff`   the bytes are those of the text of the normal form, and exist
  exactly when the normal form does and can be written and encoded;
* `norm_eq_of_bytes`   equal bytes come from equal normal forms;
* `norm_record_inj`   records with the same keys and one normal form agree field by field;
* `norm_eq_of_digest`   equal digests come from equal normal forms, short of a SHA-256 collision.
-/

open Py

namespace Tomtit

def p09bValidationError (msg : PyStr) : PyExc := ⟨["P09BValidationError", "ValueError"], msg⟩

section
variable (rt : Runtime)

/-! ### the code -/

mutual

/-- `_canonicalize(value, path=path)` -/
def canonicalize (path : PyStr) : PyVal → Except PyExc Json
  | .enum _ _ _ (.str memberValue) => .ok (.str (rt.nfc memberValue))
  | .enum cls name isStr value => do
    let text ← reprVal rt (.enum cls name isStr value)
    .error (p09bValidationError (path ++ py ": enum " ++ text ++ py " value must be a string"))
  | .none => .ok .null
  | .bool b => .ok (.bool b)
  | .int n => .ok (.int n)
  | .float x =>
    if x.isFinite then .ok (.float x)
    else .error (p09bValidationError (path ++ py ": NaN/Infinity is not allowed"))
  | .str s => .ok (.str (rt.nfc s))
  | .list xs => do
    let items ← canonicalizeItems path 0 xs
    return .arr items
  | .tuple xs => do
    let items ← canonicalizeItems path 0 xs
    return .arr items
  | .dict kvs => do
    let result ← canonicalizeDict path [] kvs
    return .obj result
  | .obj cls _ _ => .error (p09bValidationError
      (path ++ py ": unsupported type for canonical serialization: " ++ cls))

def canonicalizeItems (path : PyStr) : Nat → List PyVal → Except PyExc (List Json)
  | _, [] => .ok []
  | i, item :: rest => do
    let x ← canonicalize (path ++ py "[" ++ natText i ++ py "]") item
    let xs ← canonicalizeItems path (i + 1) rest
    return x :: xs

/-- The loop over the items of a dictionary; `seen` are the keys assigned so far. -/
def canonicalizeDict (path : PyStr) :
    List PyStr → List (PyVal × PyVal) → Except PyExc (List (PyStr × Json))
  | _, [] => .ok []
  | seen, (.str key, item) :: rest =>
    if rt.nfc key ∈ seen then .error (p09bValidationError
      (path ++ py ": duplicate object key " ++ reprStr rt (rt.nfc key) ++
        py " after NFC normalization"))
    else do
      let x ← canonicalize (path ++ py "." ++ key) item
      let result ← canonicalizeDict path (rt.nfc key :: seen) rest
      return (rt.nfc key, x) :: result
  | _, (key, _) :: _ => .error (p09bValidationError
      (path ++ py ": object keys must be exact str, got " ++ key.typeName))

end

def canonicalJsonBytes (value : PyVal) : Except PyExc Bytes := do
  let canonical ← canonicalize rt (py "$") value
  let text ← canonical.dumps rt
  encodeUtf8 text

def sha256DigestBytes (value : Bytes) : PyStr := py "sha256:" ++ sha256 value

/-- sha256 digest of the canonical JSON encoding of `value`. -/
def canonicalDigest (value : PyVal) : Except PyExc PyStr := do
  let bytes ← canonicalJsonBytes rt value
  return sha256DigestBytes bytes

def changedFilesDigest (paths : List PyStr) : Except PyExc PyStr :=
  canonicalDigest rt (.record
    [(py "kind", .str (py "p0-9b.changed-files.v1")), (py "paths", .strList paths)])

/-! ### the normal form -/

mutual

/-- The JSON tree of a value with NFC strings and sorted keys; `none` for what `_canonicalize`
rejects. -/
def norm : PyVal → Option Json
  | .enum _ _ _ (.str s) => some (.str (rt.nfc s))
  | .enum _ _ _ _ => none
  | .none => some .null
  | .bool b => some (.bool b)
  | .int n => some (.int n)
  | .float x => if x.isFinite then some (.float x) else none
  | .str s => some (.str (rt.nfc s))
  | .list xs => (normItems xs).map .arr
  | .tuple xs => (normItems xs).map .arr
  | .dict kvs => do
    let es ← normDict kvs
    if (es.map Prod.fst).Nodup then some (.obj (sortItems es)) else none
  | .obj _ _ _ => none

def normItems : List PyVal → Option (List Json)
  | [] => some []
  | x :: xs => do
    let j ← norm x
    let js ← normItems xs
    return j :: js

def normDict : List (PyVal × PyVal) → Option (List (PyStr × Json))
  | [] => some []
  | (.str key, x) :: rest => do
    let j ← norm x
    let es ← normDict rest
    return (rt.nfc key, j) :: es
  | _ :: _ => none

end

theorem toOption_bind {ε α β : Type} (x : Except ε α) (f : α → Except ε β) :
    (x >>= f).toOption = x.toOption.bind fun a => (f a).toOption := by
  cases x <;> rfl

theorem canonicalizeItems_norm {xs : List PyVal}
    (ih : ∀ x ∈ xs, ∀ p, (canonicalize rt p x).toOption.map Json.sortKeys = norm rt x)
    (p : PyStr) (i : Nat) :
    (canonicalizeItems rt p i xs).toOption.map (List.map Json.sortKeys) = normItems rt xs := by
  induction xs generalizing i with
  | nil => rfl
  | cons x xs ihx =>
    have hx := ih x List.mem_cons_self (p ++ py "[" ++ natText i ++ py "]")
    have hxs := ihx (fun y hy => ih y (List.mem_cons_of_mem x hy)) (i + 1)
    rw [canonicalizeItems, normItems, ← hx, ← hxs, toOption_bind]
    cases (canonicalize rt (p ++ py "[" ++ natText i ++ py "]") x).toOption with
    | none => rfl
    | some j =>
      simp only [Option.bind_some, toOption_bind, Option.map_some]
      cases (canonicalizeItems rt p (i + 1) xs).toOption with
      | none => rfl
      | some js => rfl

/-- The keys are pairwise different and none of them is in `seen`. -/
def Fresh (seen : List PyStr) (es : List (PyStr × Json)) : Prop :=
  (es.map Prod.fst).Nodup ∧ ∀ k ∈ es.map Prod.fst, k ∉ seen

instance (seen : List PyStr) (es : List (PyStr × Json)) : Decidable (Fresh seen es) :=
  inferInstanceAs (Decidable (_ ∧ _))

theorem fresh_cons {seen : List PyStr} {k : PyStr} {j : Json} {es : List (PyStr × Json)} :
    Fresh seen ((k, j) :: es) ↔ k ∉ seen ∧ Fresh (k :: seen) es := by
  unfold Fresh
  simp only [List.map_cons, List.nodup_cons, List.mem_cons, not_or, forall_eq_or_imp]
  constructor
  · rintro ⟨⟨hk, hnd⟩, hs, hall⟩
    exact ⟨hs, hnd, fun a ha => ⟨fun e => hk (e ▸ ha), hall a ha⟩⟩
  · rintro ⟨hs, hnd, hall⟩
    exact ⟨⟨fun hk => (hall k hk).1 rfl, hnd⟩, hs, fun a ha => (hall a ha).2⟩

theorem fresh_nil {es : List (PyStr × Json)} : Fresh [] es ↔ (es.map Prod.fst).Nodup :=
  and_iff_left fun _ _ => List.not_mem_nil

theorem canonicalizeDict_norm {kvs : List (PyVal × PyVal)}
    (ih : ∀ kv ∈ kvs, ∀ p, (canonicalize rt p kv.2).toOption.map Json.sortKeys = norm rt kv.2)
    (p : PyStr) (seen : List PyStr) :
    (canonicalizeDict rt p seen kvs).toOption.map (List.map fun kv => (kv.1, kv.2.sortKeys)) =
      (normDict rt kvs).filter (Fresh seen) := by
  induction kvs generalizing seen with
  | nil =>
    have h : Fresh seen [] := ⟨List.nodup_nil, fun k hk => absurd hk List.not_mem_nil⟩
    show some [] = (some []).filter _
    rw [Option.filter_some, if_pos (decide_eq_true h)]
  | cons kv kvs ihk =>
    obtain ⟨key, x⟩ := kv
    cases key with
    | str key =>
      have hx := ih _ List.mem_cons_self (p ++ py "." ++ key)
      have hxs := ihk (fun y hy => ih y (List.mem_cons_of_mem _ hy)) (rt.nfc key :: seen)
      simp only at hx
      rw [canonicalizeDict, normDict, ← hx]
      by_cases hm : rt.nfc key ∈ seen
      · rw [if_pos hm]
        cases (canonicalize rt (p ++ py "." ++ key) x).toOption with
        | none => rfl
        | some j =>
          cases normDict rt kvs with
          | none => rfl
          | some es =>
            have h : ¬ Fresh seen ((rt.nfc key, j.sortKeys) :: es) := fun h => (fresh_cons.mp h).1 hm
            show none = (some ((rt.nfc key, j.sortKeys) :: es)).filter _
            rw [Option.filter_some, if_neg (by rw [decide_eq_true_eq]; exact h)]
      · rw [if_neg hm, toOption_bind]
        cases (canonicalize rt (p ++ py "." ++ key) x).toOption with
        | none => rfl
        | some j =>
          have hl : ((canonicalizeDict rt p (rt.nfc key :: seen) kvs >>= fun result =>
                pure ((rt.nfc key, j) :: result)).toOption.map
                (List.map fun kv => (kv.1, kv.2.sortKeys))) =
              ((normDict rt kvs).filter (Fresh (rt.nfc key :: seen))).map
                (List.cons (rt.nfc key, j.sortKeys)) := by
            rw [← hxs]
            cases canonicalizeDict rt p (rt.nfc key :: seen) kvs <;> rfl
          refine hl.trans ?_
          cases normDict rt kvs with
          | none => rfl
          | some es =>
            show _ = (some ((rt.nfc key, j.sortKeys) :: es)).filter _
            rw [Option.filter_some, Option.filter_some]
            simp only [decide_eq_true_eq, fresh_cons, and_iff_right hm]
            split <;> rfl
    | _ => rfl

theorem canonicalize_norm (v : PyVal) :
    ∀ p, (canonicalize rt p v).toOption.map Json.sortKeys = norm rt v := by
  induction v using PyVal.induct with
  | none => exact fun p => rfl
  | bool b => exact fun p => rfl
  | int n => exact fun p => rfl
  | float x =>
    intro p
    rw [canonicalize, norm]
    split <;> rfl
  | str s => exact fun p => rfl
  | list xs ih =>
    intro p
    rw [canonicalize, norm, ← canonicalizeItems_norm rt ih p 0, toOption_bind]
    cases (canonicalizeItems rt p 0 xs).toOption with
    | none => rfl
    | some js => exact congrArg some (by rw [Json.sortKeys, Json.sortKeysList_eq])
  | tuple xs ih =>
    intro p
    rw [canonicalize, norm, ← canonicalizeItems_norm rt ih p 0, toOption_bind]
    cases (canonicalizeItems rt p 0 xs).toOption with
    | none => rfl
    | some js => exact congrArg some (by rw [Json.sortKeys, Json.sortKeysList_eq])
  | dict kvs ih =>
    intro p
    have h := canonicalizeDict_norm rt (fun kv hkv => (ih kv hkv).2) p []
    have hl : (canonicalize rt p (.dict kvs)).toOption.map Json.sortKeys =
        ((normDict rt kvs).filter (Fresh [])).map fun es => .obj (sortItems es) := by
      rw [← h, canonicalize]
      cases canonicalizeDict rt p [] kvs with
      | error e => rfl
      | ok result => exact congrArg some (by rw [Json.sortKeys, Json.sortKeysItems_eq])
    rw [hl, norm]
    cases normDict rt kvs with
    | none => rfl
    | some es =>
      show _ = if _ then some _ else none
      rw [Option.filter_some]
      simp only [decide_eq_true_eq, fresh_nil]
      split <;> rfl
  | enum cls name isStr value ih =>
    intro p
    cases value with
    | str s => rfl
    | _ =>
      simp only [canonicalize, norm, toOption_bind]
      cases (reprVal rt _).toOption <;> rfl
  | obj cls repr attrs => exact fun p => rfl
theorem canonicalize_ok_iff (p : PyStr) (v : PyVal) {j : Json} :
    norm rt v = some j ↔ ∃ c, canonicalize rt p v = .ok c ∧ c.sortKeys = j := by
  rw [← canonicalize_norm rt v p]
  cases canonicalize rt p v with
  | error e => exact ⟨fun h => absurd h (by simp [Except.toOption]), fun ⟨c, h, _⟩ => absurd h (by simp)⟩
  | ok c =>
    show some c.sortKeys = some j ↔ _
    exact ⟨fun h => ⟨c, rfl, Option.some.inj h⟩,
      fun ⟨c', h, e⟩ => by rw [Except.ok.inj h, e]⟩

theorem normItems_mem {xs : List PyVal} {js : List Json} (h : normItems rt xs = some js) :
    ∀ j ∈ js, ∃ x ∈ xs, norm rt x = some j := by
  induction xs generalizing js with
  | nil =>
    intro j hj
    rw [← Option.some.inj h] at hj
    exact absurd hj List.not_mem_nil
  | cons x xs ih =>
    rw [normItems] at h
    obtain ⟨j, hx, h⟩ := Option.bind_eq_some_iff.mp h
    obtain ⟨js', hxs, h⟩ := Option.bind_eq_some_iff.mp h
    rw [← Option.some.inj h]
    intro j' hj'
    rcases List.mem_cons.mp hj' with rfl | hj'
    · exact ⟨x, List.mem_cons_self, hx⟩
    · obtain ⟨y, hy, hn⟩ := ih hxs j' hj'
      exact ⟨y, List.mem_cons_of_mem x hy, hn⟩

theorem normDict_mem {kvs : List (PyVal × PyVal)} {es : List (PyStr × Json)}
    (h : normDict rt kvs = some es) :
    ∀ e ∈ es, ∃ k x, (.str k, x) ∈ kvs ∧ e.1 = rt.nfc k ∧ norm rt x = some e.2 := by
  induction kvs generalizing es with
  | nil =>
    intro e he
    rw [← Option.some.inj h] at he
    exact absurd he List.not_mem_nil
  | cons kv kvs ih =>
    obtain ⟨key, x⟩ := kv
    cases key with
    | str key =>
      rw [normDict] at h
      obtain ⟨j, hx, h⟩ := Option.bind_eq_some_iff.mp h
      obtain ⟨es', hes, h⟩ := Option.bind_eq_some_iff.mp h
      rw [← Option.some.inj h]
      intro e he
      rcases List.mem_cons.mp he with rfl | he
      · exact ⟨key, x, List.mem_cons_self, rfl, hx⟩
      · obtain ⟨k, y, hy, h1, h2⟩ := ih hes e he
        exact ⟨k, y, List.mem_cons_of_mem _ hy, h1, h2⟩
    | _ => exact absurd h (by simp [normDict])

theorem norm_dict_eq_some {kvs : List (PyVal × PyVal)} {j : Json} :
    norm rt (.dict kvs) = some j ↔ ∃ es, normDict rt kvs = some es ∧ (es.map Prod.fst).Nodup ∧
      j = .obj (sortItems es) := by
  rw [norm]
  constructor
  · intro h
    obtain ⟨es, hes, h⟩ := Option.bind_eq_some_iff.mp h
    split at h
    · next hnd => exact ⟨es, hes, hnd, (Option.some.inj h).symm⟩
    · exact absurd h (by simp)
  · rintro ⟨es, hes, hnd, rfl⟩
    rw [hes]
    exact if_pos hnd

theorem norm_plain {v : PyVal} {j : Json} (h : norm rt v = some j) : j.Plain := by
  induction v using PyVal.induct generalizing j with
  | none => rw [← Option.some.inj h]; exact .null
  | bool b => rw [← Option.some.inj h]; exact .bool b
  | int n => rw [← Option.some.inj h]; exact .int n
  | float x =>
    rw [norm] at h
    split at h
    · next hx => rw [← Option.some.inj h]; exact .float hx
    · exact absurd h (by simp)
  | str s => rw [← Option.some.inj h]; exact .str _
  | list xs ih =>
    obtain ⟨js, hjs, rfl⟩ := Option.map_eq_some_iff.mp h
    refine .arr fun j hj => ?_
    obtain ⟨x, hx, hn⟩ := normItems_mem rt hjs j hj
    exact ih x hx hn
  | tuple xs ih =>
    obtain ⟨js, hjs, rfl⟩ := Option.map_eq_some_iff.mp h
    refine .arr fun j hj => ?_
    obtain ⟨x, hx, hn⟩ := normItems_mem rt hjs j hj
    exact ih x hx hn
  | dict kvs ih =>
    obtain ⟨es, hes, hnd, rfl⟩ := (norm_dict_eq_some rt).mp h
    refine .obj ((sortItems_keys es).nodup_iff.mpr hnd) fun e he => ?_
    obtain ⟨k, x, hx, _, hn⟩ := normDict_mem rt hes e ((sortItems_perm_self es).mem_iff.mp he)
    exact (ih _ hx).2 hn
  | enum cls name isStr value ih =>
    cases value with
    | str s => rw [← Option.some.inj h]; exact .str _
    | _ => exact absurd h (by simp [norm])
  | obj cls repr attrs => exact absurd h (by simp [norm])

/-! ### bytes and digests -/

/-- **Spec of `canonical_json_bytes`.** -/
theorem canonicalJsonBytes_ok_iff {v : PyVal} {b : Bytes} :
    canonicalJsonBytes rt v = .ok b ↔ ∃ j, norm rt v = some j ∧ j.intsFit rt = true ∧
      j.encodable = true ∧ b = utf8Bytes (j.text rt) := by
  unfold canonicalJsonBytes Json.dumps
  constructor
  · intro h
    obtain ⟨c, hc, h⟩ := bind_eq_ok.mp h
    obtain ⟨t, ht, h⟩ := bind_eq_ok.mp h
    split at ht
    · next hf =>
      have hn := (canonicalize_ok_iff rt (py "$") v).mpr ⟨c, hc, rfl⟩
      obtain rfl := Except.ok.inj ht
      have he := encodeUtf8_ok_iff.mp ⟨b, h⟩
      rw [encodeUtf8_of he] at h
      exact ⟨_, hn, by rw [Json.intsFit_sortKeys]; exact hf,
        (Json.encodable_text rt (norm_plain rt hn)).mp he, (Except.ok.inj h).symm⟩
    · exact absurd ht (by simp)
  · rintro ⟨j, hn, hf, he, rfl⟩
    obtain ⟨c, hc, rfl⟩ := (canonicalize_ok_iff rt (py "$") v).mp hn
    rw [Json.intsFit_sortKeys] at hf
    have he' := (Json.encodable_text rt (norm_plain rt hn)).mpr he
    refine bind_eq_ok.mpr ⟨c, hc, bind_eq_ok.mpr ⟨_, if_pos hf, encodeUtf8_of he'⟩⟩

/-- Equal bytes come from equal normal forms. -/
theorem norm_eq_of_bytes {u v : PyVal} {b : Bytes} (hu : canonicalJsonBytes rt u = .ok b)
    (hv : canonicalJsonBytes rt v = .ok b) : norm rt u = norm rt v := by
  obtain ⟨j, hj, hf, he, hb⟩ := (canonicalJsonBytes_ok_iff rt).mp hu
  obtain ⟨j', hj', hf', he', hb'⟩ := (canonicalJsonBytes_ok_iff rt).mp hv
  have hp := norm_plain rt hj
  have hp' := norm_plain rt hj'
  have h1 := encodeUtf8_of ((Json.encodable_text rt hp).mpr he)
  have h2 := encodeUtf8_of ((Json.encodable_text rt hp').mpr he')
  rw [← hb] at h1
  rw [← hb'] at h2
  rw [hj, hj', JsonLoad.text_inj rt hp hf hp' hf' (encodeUtf8_inj h1 h2)]

theorem canonicalJsonBytes_congr {u v : PyVal} (h : norm rt u = norm rt v) (b : Bytes) :
    canonicalJsonBytes rt u = .ok b ↔ canonicalJsonBytes rt v = .ok b := by
  rw [canonicalJsonBytes_ok_iff, canonicalJsonBytes_ok_iff, h]

theorem canonicalDigest_ok_iff {v : PyVal} {d : PyStr} :
    canonicalDigest rt v = .ok d ↔
      ∃ b, canonicalJsonBytes rt v = .ok b ∧ d = sha256DigestBytes b := by
  unfold canonicalDigest
  rw [bind_eq_ok]
  exact exists_congr fun b => and_congr_right fun _ =>
    ⟨fun h => (Except.ok.inj h).symm, fun h => by rw [h]; rfl⟩

theorem canonicalDigest_congr {u v : PyVal} (h : norm rt u = norm rt v) (d : PyStr) :
    canonicalDigest rt u = .ok d ↔ canonicalDigest rt v = .ok d := by
  rw [canonicalDigest_ok_iff, canonicalDigest_ok_iff]
  exact exists_congr fun b => by rw [canonicalJsonBytes_congr rt h b]

/-- SHA-256 does not collide on the encodings of the two values. -/
def CollisionFree (u v : PyVal) : Prop :=
  ∀ bu bv, canonicalJsonBytes rt u = .ok bu → canonicalJsonBytes rt v = .ok bv → NoCollision bu bv

theorem sha256DigestBytes_inj {b b' : Bytes} (h : NoCollision b b')
    (e : sha256DigestBytes b = sha256DigestBytes b') : b = b' := h (List.append_cancel_left e)

/-- Equal digests come from equal normal forms, short of a collision. -/
theorem norm_eq_of_digest {u v : PyVal} {d : PyStr} (hc : CollisionFree rt u v)
    (hu : canonicalDigest rt u = .ok d) (hv : canonicalDigest rt v = .ok d) :
    norm rt u = norm rt v := by
  obtain ⟨b, hb, rfl⟩ := (canonicalDigest_ok_iff rt).mp hu
  obtain ⟨b', hb', e⟩ := (canonicalDigest_ok_iff rt).mp hv
  obtain rfl := sha256DigestBytes_inj (hc b b' hb hb') e
  exact norm_eq_of_bytes rt hb hb'

/-- `sha256:` and 64 lower-case hexadecimal digits. -/
def digestRe (s : PyStr) : Bool :=
  s.take 7 == py "sha256:" && exactRe isHex 64 (s.drop 7)

theorem digestRe_digest (b : Bytes) : digestRe (sha256DigestBytes b) = true := by
  have hlen : (py "sha256:").length = 7 := by rw [py_ofList]; rfl
  unfold digestRe sha256DigestBytes
  rw [← hlen, List.take_left, List.drop_left, beq_self_eq_true, Bool.true_and]
  exact sha256_hex b

/-! ### records -/

theorem normDict_perm {kvs kvs' : List (PyVal × PyVal)} (h : kvs.Perm kvs')
    {es : List (PyStr × Json)} (he : normDict rt kvs = some es) :
    ∃ es', normDict rt kvs' = some es' ∧ es.Perm es' := by
  induction h generalizing es with
  | nil => exact ⟨es, he, .refl es⟩
  | @cons kv l l' _ ih =>
    obtain ⟨k, x⟩ := kv
    cases k with
    | str k =>
      rw [normDict] at he
      obtain ⟨j, hj, he⟩ := Option.bind_eq_some_iff.mp he
      obtain ⟨es1, h1, he⟩ := Option.bind_eq_some_iff.mp he
      obtain ⟨es', h2, hp⟩ := ih h1
      rw [← Option.some.inj he]
      exact ⟨(rt.nfc k, j) :: es', by rw [normDict, hj, h2]; rfl, hp.cons _⟩
    | _ => exact absurd he (by simp [normDict])
  | swap kv kv' l =>
    obtain ⟨k, x⟩ := kv
    obtain ⟨k', x'⟩ := kv'
    cases k' with
    | str k' =>
      cases k with
      | str k =>
        rw [normDict, normDict] at he
        obtain ⟨j', hj', he⟩ := Option.bind_eq_some_iff.mp he
        obtain ⟨es1, h1, he⟩ := Option.bind_eq_some_iff.mp he
        obtain ⟨j, hj, h1⟩ := Option.bind_eq_some_iff.mp h1
        obtain ⟨es2, h2, h1⟩ := Option.bind_eq_some_iff.mp h1
        rw [← Option.some.inj he, ← Option.some.inj h1]
        exact ⟨(rt.nfc k, j) :: (rt.nfc k', j') :: es2, by rw [normDict, normDict, hj, hj', h2]; rfl,
          .swap _ _ _⟩
      | _ => exact absurd he (by simp [normDict])
    | _ => exact absurd he (by simp [normDict])
  | trans _ _ ih1 ih2 =>
    obtain ⟨es1, h1, hp1⟩ := ih1 he
    obtain ⟨es2, h2, hp2⟩ := ih2 h1
    exact ⟨es2, h2, hp1.trans hp2⟩

theorem norm_perm {kvs kvs' : List (PyVal × PyVal)} (h : kvs.Perm kvs') :
    norm rt (.dict kvs) = norm rt (.dict kvs') := by
  have forward : ∀ {as bs : List (PyVal × PyVal)}, as.Perm bs → ∀ j, norm rt (.dict as) = some j →
      norm rt (.dict bs) = some j := by
    intro as bs h j hj
    obtain ⟨es, hes, hnd, rfl⟩ := (norm_dict_eq_some rt).mp hj
    obtain ⟨es', hes', hp⟩ := normDict_perm rt h hes
    refine (norm_dict_eq_some rt).mpr ⟨es', hes', (hp.map Prod.fst).nodup_iff.mp hnd, ?_⟩
    rw [sortItems_perm hp hnd]
  exact Option.ext fun j => ⟨forward h j, forward h.symm j⟩

theorem norm_record_sortItems (fs : List (PyStr × PyVal)) :
    norm rt (.record (sortItems fs)) = norm rt (.record fs) :=
  norm_perm rt ((sortItems_perm_self fs).map _)

theorem norm_record_congr {fs fs' : List (PyStr × PyVal)}
    (hkeys : fs.map Prod.fst = fs'.map Prod.fst)
    (h : (fs.map fun kv => norm rt kv.2) = fs'.map fun kv => norm rt kv.2) :
    norm rt (.record fs) = norm rt (.record fs') := by
  have hd : normDict rt (fs.map fun kv => (.str kv.1, kv.2)) =
      normDict rt (fs'.map fun kv => (.str kv.1, kv.2)) := by
    induction fs generalizing fs' with
    | nil =>
      cases fs' with
      | nil => rfl
      | cons kv fs' => exact absurd hkeys (by simp)
    | cons kv fs ih =>
      cases fs' with
      | nil => exact absurd hkeys (by simp)
      | cons kv' fs' =>
        obtain ⟨hk, hks⟩ := List.cons.inj hkeys
        obtain ⟨hv, hvs⟩ := List.cons.inj h
        simp only at hv
        rw [List.map_cons, List.map_cons, normDict, normDict, hk, hv, ih hks hvs]
  unfold PyVal.record
  rw [norm, norm, hd]

theorem perm_eq_of_keys {es es' : List (PyStr × Json)} (hp : es.Perm es')
    (hk : es.map Prod.fst = es'.map Prod.fst) (hnd : (es.map Prod.fst).Nodup) : es = es' := by
  induction es generalizing es' with
  | nil => exact hp.nil_eq
  | cons e es ih =>
    cases es' with
    | nil => exact absurd hk (by simp)
    | cons e' es' =>
      rw [List.map_cons, List.map_cons] at hk
      obtain ⟨h1, h2⟩ := List.cons.inj hk
      rw [List.map_cons, List.nodup_cons] at hnd
      have he : e = e' := by
        rcases List.mem_cons.mp (hp.mem_iff.mp List.mem_cons_self) with h | h
        · exact h
        · exact absurd (h2 ▸ List.mem_map.mpr ⟨e, h, rfl⟩) hnd.1
      subst he
      rw [ih (List.Perm.cons_inv hp) h2 hnd.2]

theorem normDict_record {fs : List (PyStr × PyVal)} (hk : ∀ kv ∈ fs, rt.nfc kv.1 = kv.1)
    {es : List (PyStr × Json)}
    (h : normDict rt (fs.map fun kv => (.str kv.1, kv.2)) = some es) :
    es.map Prod.fst = fs.map Prod.fst ∧
      es.map (fun e => some e.2) = fs.map fun kv => norm rt kv.2 := by
  induction fs generalizing es with
  | nil =>
    rw [← Option.some.inj h]
    exact ⟨rfl, rfl⟩
  | cons kv fs ih =>
    rw [List.map_cons, normDict] at h
    obtain ⟨j, hx, h⟩ := Option.bind_eq_some_iff.mp h
    obtain ⟨es', hes, h⟩ := Option.bind_eq_some_iff.mp h
    obtain ⟨h1, h2⟩ := ih (fun y hy => hk y (List.mem_cons_of_mem _ hy)) hes
    rw [← Option.some.inj h, List.map_cons, List.map_cons, List.map_cons, List.map_cons, h1, h2, hx,
      hk kv List.mem_cons_self]
    exact ⟨rfl, rfl⟩

/-- Records with the same keys and one normal form agree field by field. -/
theorem norm_record_inj {fs fs' : List (PyStr × PyVal)} (hkeys : fs.map Prod.fst = fs'.map Prod.fst)
    (hk : ∀ k ∈ fs.map Prod.fst, rt.nfc k = k) {j : Json}
    (h : norm rt (.record fs) = some j) (h' : norm rt (.record fs') = some j) :
    (fs.map fun kv => norm rt kv.2) = fs'.map fun kv => norm rt kv.2 := by
  obtain ⟨es, hes, hnd1, rfl⟩ := (norm_dict_eq_some rt).mp h
  obtain ⟨es', hes', hnd2, e⟩ := (norm_dict_eq_some rt).mp h'
  have hk' : ∀ k ∈ fs'.map Prod.fst, rt.nfc k = k := hkeys ▸ hk
  obtain ⟨a1, a2⟩ := normDict_record rt (fun kv hkv => hk _ (List.mem_map_of_mem hkv)) hes
  obtain ⟨b1, b2⟩ := normDict_record rt (fun kv hkv => hk' _ (List.mem_map_of_mem hkv)) hes'
  have hp : es.Perm es' := by
    have hs := sortItems_perm_self es
    rw [Json.obj.inj e] at hs
    exact hs.symm.trans (sortItems_perm_self es')
  rw [← a2, ← b2, perm_eq_of_keys hp (by rw [a1, b1, hkeys]) hnd1]

end

end Tomtit
