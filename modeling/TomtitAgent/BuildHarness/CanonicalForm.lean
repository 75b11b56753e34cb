import TomtitAgent.BuildHarness.Accepted
import TomtitAgent.Python.SmallRuntime

/-!
# `canonical_json_bytes` is a canonical form

The purpose of the serialiser, stated without it:

* `Same u v`       the least equivalence that identifies dictionaries up to insertion order, tuples
                   with lists, string enum members with their values, strings and keys with their
                   NFC forms, at any depth;
* `Rejected v`     the values with a part that cannot be serialised;
* `Reordered u v`  the same value up to the insertion order of its dictionaries, at any depth.

Against it the code: `norm_eq_iff_same`, `raises_iff_rejected`, and the round trip through
`json.loads`.
-/

open Py

namespace Tomtit

section
variable (rt : Runtime)

inductive Same : PyVal → PyVal → Prop
  | refl (v : PyVal) : Same v v
  | symm {u v : PyVal} (h : Same u v) : Same v u
  | trans {u v w : PyVal} (h : Same u v) (h' : Same v w) : Same u w
  /-- insertion order -/
  | perm {kvs kvs' : List (PyVal × PyVal)} (h : kvs.Perm kvs') : Same (.dict kvs) (.dict kvs')
  /-- tuples and lists -/
  | tuple (xs : List PyVal) : Same (.tuple xs) (.list xs)
  /-- string enums and their values -/
  | enum (cls name : PyStr) (isStr : Bool) (s : PyStr) :
    Same (.enum cls name isStr (.str s)) (.str s)
  /-- strings and keys up to NFC -/
  | nfc (s : PyStr) : Same (.str s) (.str (rt.nfc s))
  | key (pre post : List (PyVal × PyVal)) (k : PyStr) (v : PyVal) :
    Same (.dict (pre ++ (.str k, v) :: post)) (.dict (pre ++ (.str (rt.nfc k), v) :: post))
  /-- inside a list, inside a dictionary -/
  | item (pre post : List PyVal) {x y : PyVal} (h : Same x y) :
    Same (.list (pre ++ x :: post)) (.list (pre ++ y :: post))
  | value (pre post : List (PyVal × PyVal)) (k : PyVal) {x y : PyVal} (h : Same x y) :
    Same (.dict (pre ++ (k, x) :: post)) (.dict (pre ++ (k, y) :: post))

/-- A value with a part that has no canonical form; `TooLong` are the integers that count as one. -/
inductive Rejected (TooLong : Int → Prop) : PyVal → Prop
  /-- unsupported types -/
  | obj (cls repr : PyStr) (attrs : List (PyStr × PyVal)) : Rejected TooLong (.obj cls repr attrs)
  | enum (cls name : PyStr) (isStr : Bool) {value : PyVal} (h : ∀ s, value ≠ .str s) :
    Rejected TooLong (.enum cls name isStr value)
  /-- NaN and the infinities -/
  | float {x : PyFloat} (h : x.isFinite = false) : Rejected TooLong (.float x)
  /-- integers that cannot be written -/
  | int {n : Int} (h : TooLong n) : Rejected TooLong (.int n)
  /-- lone surrogates -/
  | str {s : PyStr} (h : ¬ Encodable s) : Rejected TooLong (.str s)
  | enumStr (cls name : PyStr) (isStr : Bool) {s : PyStr} (h : ¬ Encodable s) :
    Rejected TooLong (.enum cls name isStr (.str s))
  | keyStr {kvs : List (PyVal × PyVal)} {k : PyStr} {v : PyVal} (hk : (.str k, v) ∈ kvs)
    (h : ¬ Encodable k) : Rejected TooLong (.dict kvs)
  /-- keys that are no strings -/
  | keyType {kvs : List (PyVal × PyVal)} {k v : PyVal} (hk : (k, v) ∈ kvs) (h : ∀ s, k ≠ .str s) :
    Rejected TooLong (.dict kvs)
  /-- two keys with one NFC form -/
  | collision {kvs : List (PyVal × PyVal)} {k k' : PyStr} {v v' : PyVal}
    (hk : [(.str k, v), (.str k', v')].Sublist kvs) (h : rt.nfc k = rt.nfc k') :
    Rejected TooLong (.dict kvs)
  /-- inside a container -/
  | list {xs : List PyVal} {x : PyVal} (hx : x ∈ xs) (h : Rejected TooLong x) : Rejected TooLong (.list xs)
  | tuple {xs : List PyVal} {x : PyVal} (hx : x ∈ xs) (h : Rejected TooLong x) : Rejected TooLong (.tuple xs)
  | value {kvs : List (PyVal × PyVal)} {k v : PyVal} (hk : (k, v) ∈ kvs) (h : Rejected TooLong v) :
    Rejected TooLong (.dict kvs)

end

inductive Reordered : PyVal → PyVal → Prop
  | refl (v : PyVal) : Reordered v v
  | trans {u v w : PyVal} (h : Reordered u v) (h' : Reordered v w) : Reordered u w
  | perm {kvs kvs' : List (PyVal × PyVal)} (h : kvs.Perm kvs') :
    Reordered (.dict kvs) (.dict kvs')
  | item (pre post : List PyVal) {x y : PyVal} (h : Reordered x y) :
    Reordered (.list (pre ++ x :: post)) (.list (pre ++ y :: post))
  | tupleItem (pre post : List PyVal) {x y : PyVal} (h : Reordered x y) :
    Reordered (.tuple (pre ++ x :: post)) (.tuple (pre ++ y :: post))
  | value (pre post : List (PyVal × PyVal)) (k : PyVal) {x y : PyVal} (h : Reordered x y) :
    Reordered (.dict (pre ++ (k, x) :: post)) (.dict (pre ++ (k, y) :: post))

section
variable (rt : Runtime)

theorem Reordered.same {u v : PyVal} (h : Reordered u v) : Same rt u v := by
  induction h with
  | refl v => exact .refl v
  | trans _ _ h1 h2 => exact h1.trans h2
  | perm h => exact .perm h
  | item pre post _ ih => exact .item pre post ih
  | tupleItem pre post _ ih =>
    exact ((Same.tuple _).trans (.item pre post ih)).trans (Same.tuple _).symm
  | value pre post k _ ih => exact .value pre post k ih

/-! ### `Same` values have one normal form -/

theorem normItems_append (xs ys : List PyVal) : normItems rt (xs ++ ys) = do
    let a ← normItems rt xs
    let b ← normItems rt ys
    return a ++ b := by
  induction xs with
  | nil => cases h : normItems rt ys <;> simp [normItems, h]
  | cons x xs ih =>
    rw [List.cons_append, normItems, normItems, ih]
    cases norm rt x with
    | none => rfl
    | some j => cases normItems rt xs <;> cases normItems rt ys <;> rfl

theorem normDict_append (xs ys : List (PyVal × PyVal)) : normDict rt (xs ++ ys) = do
    let a ← normDict rt xs
    let b ← normDict rt ys
    return a ++ b := by
  induction xs with
  | nil => cases h : normDict rt ys <;> simp [normDict, h]
  | cons kv xs ih =>
    obtain ⟨k, x⟩ := kv
    cases k with
    | str k =>
      rw [List.cons_append, normDict, normDict, ih]
      cases norm rt x with
      | none => rfl
      | some j => cases normDict rt xs <;> cases normDict rt ys <;> rfl
    | _ => rfl

theorem normDict_cons_congr {k : PyVal} {x y : PyVal} (h : norm rt x = norm rt y)
    (post : List (PyVal × PyVal)) : normDict rt ((k, x) :: post) = normDict rt ((k, y) :: post) := by
  cases k with
  | str k => rw [normDict, normDict, h]
  | _ => rfl

theorem norm_eq_of_same {u v : PyVal} (h : Same rt u v) : norm rt u = norm rt v := by
  induction h with
  | refl v => rfl
  | symm _ ih => exact ih.symm
  | trans _ _ ih1 ih2 => exact ih1.trans ih2
  | perm h =>
    exact norm_perm rt h
  | tuple xs => rfl
  | enum cls name isStr s => rfl
  | nfc s => rw [norm, norm, rt.nfc_idem]
  | key pre post k v =>
    simp only [norm, normDict_append, normDict, rt.nfc_idem]
  | item pre post h ih =>
    simp only [norm, normItems_append, normItems, ih]
  | value pre post k h ih =>
    simp only [norm, normDict_append, normDict_cons_congr rt ih post]

/-! ### every accepted value is `Same` as its normal form -/

theorem same_list {xs : List PyVal} {js : List Json} (hn : normItems rt xs = some js)
    (ih : ∀ x ∈ xs, ∀ j, norm rt x = some j → Same rt x (JsonLoad.toPy j)) (pre : List PyVal) :
    Same rt (.list (pre ++ xs)) (.list (pre ++ JsonLoad.toPyList js)) := by
  induction xs generalizing js pre with
  | nil =>
    rw [← Option.some.inj hn]
    exact .refl _
  | cons x xs ihx =>
    rw [normItems] at hn
    obtain ⟨j, hj, hn⟩ := Option.bind_eq_some_iff.mp hn
    obtain ⟨js', hjs, hn⟩ := Option.bind_eq_some_iff.mp hn
    rw [← Option.some.inj hn, JsonLoad.toPyList]
    have h1 := Same.item pre xs (ih x List.mem_cons_self j hj)
    have h2 := ihx hjs (fun y hy => ih y (List.mem_cons_of_mem x hy)) (pre ++ [JsonLoad.toPy j])
    simp only [List.append_assoc, List.singleton_append] at h2
    exact h1.trans h2

theorem same_dict {kvs : List (PyVal × PyVal)} {es : List (PyStr × Json)}
    (hn : normDict rt kvs = some es)
    (ih : ∀ kv ∈ kvs, ∀ j, norm rt kv.2 = some j → Same rt kv.2 (JsonLoad.toPy j))
    (pre : List (PyVal × PyVal)) :
    Same rt (.dict (pre ++ kvs)) (.dict (pre ++ JsonLoad.toPyItems es)) := by
  induction kvs generalizing es pre with
  | nil =>
    rw [← Option.some.inj hn]
    exact .refl _
  | cons kv kvs ihk =>
    obtain ⟨k, x⟩ := kv
    cases k with
    | str k =>
      rw [normDict] at hn
      obtain ⟨j, hj, hn⟩ := Option.bind_eq_some_iff.mp hn
      obtain ⟨es', hes, hn⟩ := Option.bind_eq_some_iff.mp hn
      rw [← Option.some.inj hn, JsonLoad.toPyItems]
      have h1 := @Same.key rt pre kvs k x
      have h2 := Same.value pre kvs (.str (rt.nfc k)) (ih _ List.mem_cons_self j hj)
      have h3 := ihk hes (fun y hy => ih y (List.mem_cons_of_mem _ hy))
        (pre ++ [(.str (rt.nfc k), JsonLoad.toPy j)])
      simp only [List.append_assoc, List.singleton_append] at h3
      exact (h1.trans h2).trans h3
    | _ => exact absurd hn (by simp [normDict])

theorem same_toPy {v : PyVal} {j : Json} (h : norm rt v = some j) :
    Same rt v (JsonLoad.toPy j) := by
  induction v using PyVal.induct generalizing j with
  | none => rw [← Option.some.inj h]; exact .refl _
  | bool b => rw [← Option.some.inj h]; exact .refl _
  | int n => rw [← Option.some.inj h]; exact .refl _
  | float x =>
    rw [norm] at h
    split at h
    · rw [← Option.some.inj h]; exact .refl _
    · exact absurd h (by simp)
  | str s => rw [← Option.some.inj h]; exact .nfc s
  | list xs ih =>
    obtain ⟨js, hjs, rfl⟩ := Option.map_eq_some_iff.mp h
    exact same_list rt hjs (fun x hx j hj => ih x hx hj) []
  | tuple xs ih =>
    obtain ⟨js, hjs, rfl⟩ := Option.map_eq_some_iff.mp h
    exact (Same.tuple xs).trans (same_list rt hjs (fun x hx j hj => ih x hx hj) [])
  | dict kvs ih =>
    obtain ⟨es, hes, hnd, rfl⟩ := (norm_dict_eq_some rt).mp h
    have h1 := same_dict rt hes (fun kv hkv j hj => (ih kv hkv).2 hj) []
    have hp : (JsonLoad.toPyItems es).Perm (JsonLoad.toPyItems (sortItems es)) := by
      rw [JsonLoad.toPyItems_eq, JsonLoad.toPyItems_eq]
      exact (sortItems_perm_self es).symm.map _
    exact h1.trans (.perm hp)
  | enum cls name isStr value ih =>
    cases value with
    | str s => rw [← Option.some.inj h]; exact (Same.enum cls name isStr s).trans (.nfc s)
    | _ => exact absurd h (by simp [norm])
  | obj cls repr attrs => exact absurd h (by simp [norm])

theorem same_of_norm_eq {u v : PyVal} {j : Json} (hu : norm rt u = some j)
    (hv : norm rt v = some j) : Same rt u v := (same_toPy rt hu).trans (same_toPy rt hv).symm

/-! ### the rejected values -/

/-- More digits than `sys.get_int_max_str_digits()` allows. -/
def TooLong (n : Int) : Prop := intFits rt n = false

theorem accepted_of_not_rejected (v : PyVal) (h : ¬ Rejected rt (TooLong rt) v) : Accepted rt v := by
  induction v using PyVal.induct with
  | none => exact ⟨_, rfl, rfl, rfl⟩
  | bool b => exact ⟨_, rfl, rfl, rfl⟩
  | int n => exact ⟨_, rfl, by by_contra hf; exact h (.int (Bool.eq_false_of_not_eq_true hf)), rfl⟩
  | float x =>
    have hx : x.isFinite = true := by
      by_contra hf
      exact h (.float (Bool.eq_false_of_not_eq_true hf))
    exact ⟨.float x, by rw [norm, if_pos hx], rfl, rfl⟩
  | str s => exact (accepted_str rt s).mpr (by by_contra hs; exact h (.str hs))
  | list xs ih =>
    exact (accepted_list rt xs).mpr fun x hx => ih x hx fun hr => h (.list hx hr)
  | tuple xs ih =>
    exact (accepted_list rt xs).mpr fun x hx => ih x hx fun hr => h (.tuple hx hr)
  | dict kvs ih =>
    refine (accepted_dict rt kvs).mpr ⟨fun kv hkv => ⟨?_, (ih kv hkv).2 fun hr => h (.value hkv hr)⟩, ?_⟩
    · by_contra hno
      have hstr : ∃ k, kv.1 = .str k := by
        by_contra hk
        exact h (.keyType hkv fun s hs => hk ⟨s, hs⟩)
      obtain ⟨k, hk⟩ := hstr
      refine h (.keyStr (k := k) (v := kv.2) (by rw [← hk]; exact hkv) fun he => hno ⟨k, hk, he⟩)
    · rw [List.pairwise_iff_forall_sublist]
      rintro ⟨_, v1⟩ ⟨_, v2⟩ hs k1 k2 rfl rfl e
      exact h (.collision hs e)
  | enum cls name isStr value ih =>
    cases value with
    | str s => exact (accepted_str rt s).mpr (by by_contra hs; exact h (.enumStr cls name isStr hs))
    | _ => exact absurd (.enum cls name isStr fun s hs => absurd hs (by simp)) h
  | obj cls repr attrs => exact absurd (.obj cls repr attrs) h

theorem not_accepted_of_rejected {v : PyVal} (h : Rejected rt (TooLong rt) v) : ¬ Accepted rt v := by
  induction h with
  | obj cls repr attrs =>
    rintro ⟨j, hn, _⟩
    exact absurd hn (by simp [norm])
  | enum cls name isStr h =>
    rename_i value
    rintro ⟨j, hn, _⟩
    cases value with
    | str s => exact h s rfl
    | _ => exact absurd hn (by simp [norm])
  | float h =>
    rintro ⟨j, hn, _⟩
    exact absurd hn (by simp [norm, h])
  | int h =>
    rintro ⟨j, hn, hf, _⟩
    rw [← Option.some.inj hn, Json.intsFit] at hf
    exact absurd (h.symm.trans hf) (by simp)
  | str h => exact fun ha => h ((accepted_str rt _).mp ha)
  | enumStr cls name isStr h => exact fun ha => h ((accepted_str rt _).mp ha)
  | keyStr hk h =>
    intro ha
    obtain ⟨⟨k', e, he⟩, _⟩ := ((accepted_dict rt _).mp ha).1 _ hk
    exact h (PyVal.str.inj e ▸ he)
  | keyType hk h =>
    intro ha
    obtain ⟨⟨k', e, _⟩, _⟩ := ((accepted_dict rt _).mp ha).1 _ hk
    exact h k' e
  | collision hk h =>
    intro ha
    exact List.pairwise_iff_forall_sublist.mp ((accepted_dict rt _).mp ha).2 hk _ _ rfl rfl h
  | list hx _ ih => exact fun ha => ih ((accepted_list rt _).mp ha _ hx)
  | tuple hx _ ih => exact fun ha => ih ((accepted_list rt _).mp ha _ hx)
  | value hk _ ih => exact fun ha => ih (((accepted_dict rt _).mp ha).1 _ hk).2

/-- The code raises exactly on the values with an unserialisable part. -/
theorem raises_iff_rejected (v : PyVal) :
    (∃ e, canonicalJsonBytes rt v = .error e) ↔ Rejected rt (TooLong rt) v := by
  rw [raises_iff, ← accepted_iff]
  exact ⟨fun h => by by_contra hr; exact h (accepted_of_not_rejected rt v hr),
    not_accepted_of_rejected rt⟩

/-! ### bytes -/

theorem bytes_eq_iff_same {u v : PyVal} {bu bv : Bytes} (hu : canonicalJsonBytes rt u = .ok bu)
    (hv : canonicalJsonBytes rt v = .ok bv) : bu = bv ↔ Same rt u v := by
  constructor
  · rintro rfl
    obtain ⟨j, hj, _⟩ := (canonicalJsonBytes_ok_iff rt).mp hu
    exact same_of_norm_eq rt hj ((norm_eq_of_bytes rt hu hv).symm.trans hj)
  · intro h
    have hv' := (canonicalJsonBytes_congr rt (norm_eq_of_same rt h) bu).mp hu
    exact Except.ok.inj (hv'.symm.trans hv)

theorem raises_congr {u v : PyVal} (h : Same rt u v) :
    (∃ e, canonicalJsonBytes rt u = .error e) ↔ ∃ e, canonicalJsonBytes rt v = .error e := by
  rw [raises_iff, raises_iff]
  exact not_congr (exists_congr fun b => canonicalJsonBytes_congr rt (norm_eq_of_same rt h) b)

theorem canonicalJsonBytes_loads {v : PyVal} {b : Bytes} (h : canonicalJsonBytes rt v = .ok b) :
    ∃ s j, decodeUtf8 b = some s ∧ JsonLoad.loads rt s = some j ∧
      canonicalJsonBytes rt (JsonLoad.toPy j) = .ok b := by
  obtain ⟨j, hj, hf, he, rfl⟩ := (canonicalJsonBytes_ok_iff rt).mp h
  have hp := norm_plain rt hj
  exact ⟨_, j, decode_encode (encodeUtf8_of ((Json.encodable_text rt hp).mpr he)),
    JsonLoad.loads_text rt hp hf,
    (canonicalJsonBytes_congr rt (norm_eq_of_same rt (same_toPy rt hj)) _).mp h⟩

/-- **`canonical_json_bytes` is a faithful canonical form.** -/
theorem canonicalJsonBytes_faithful :
    (∀ u v bu bv, canonicalJsonBytes rt u = .ok bu → canonicalJsonBytes rt v = .ok bv →
      (bu = bv ↔ Same rt u v)) ∧
    (∀ v, (∃ e, canonicalJsonBytes rt v = .error e) ↔ Rejected rt (TooLong rt) v) ∧
    (∀ u v, Reordered u v →
      ((∃ e, canonicalJsonBytes rt u = .error e) ↔ ∃ e, canonicalJsonBytes rt v = .error e)) ∧
    (∀ v b, canonicalJsonBytes rt v = .ok b → ∃ s j, decodeUtf8 b = some s ∧
      JsonLoad.loads rt s = some j ∧ canonicalJsonBytes rt (JsonLoad.toPy j) = .ok b) :=
  ⟨fun _ _ _ _ hu hv => bytes_eq_iff_same rt hu hv, raises_iff_rejected rt,
    fun _ _ h => raises_congr rt (h.same rt), fun _ _ h => canonicalJsonBytes_loads rt h⟩

end

/-- `é` in a list, and as `e` with a combining accent in a tuple. -/
theorem canonicalJsonBytes_faithful_accent :
    ∃ b, canonicalJsonBytes (small 4300) (.list [.str [0xE9]]) = .ok b ∧
      canonicalJsonBytes (small 4300) (.tuple [.str [0x65, 0x301]]) = .ok b := by
  have accepted : ∀ s, Py.Encodable s → Accepted (small 4300) (.list [.str s]) := fun s hs =>
    (accepted_list _ _).mpr (List.forall_mem_singleton.mpr ((accepted_str _ s).mpr hs))
  obtain ⟨b, hb⟩ := (accepted_iff _).mp (accepted [0xE9] (by decide))
  obtain ⟨b', hb'⟩ := (accepted_iff _).mp (accepted [0x65, 0x301] (by decide))
  have hsame : Same (small 4300) (.list [.str [0xE9]]) (.tuple [.str [0x65, 0x301]]) :=
    ((Same.tuple _).trans (.item [] [] (.nfc [0x65, 0x301]))).symm
  have e := ((canonicalJsonBytes_faithful (small 4300)).1 _ (.tuple [.str [0x65, 0x301]]) b b' hb
    hb').mpr hsame
  exact ⟨b, hb, e ▸ hb'⟩

theorem tooLong_pow {rt : Runtime} (h : rt.intMaxStrDigits ≠ 0) :
    TooLong rt (10^rt.intMaxStrDigits) := by
  have hlt : ¬ ((10 : Int)^rt.intMaxStrDigits).natAbs < 10^rt.intMaxStrDigits := by
    rw [Int.natAbs_pow]
    exact lt_irrefl _
  unfold TooLong intFits
  rw [decide_eq_false hlt, beq_false_of_ne h]
  rfl

/-- An integer of 4301 digits is rejected, although every part of it is of a supported type. -/
theorem canonicalJsonBytes_int_too_long :
    (∃ e, canonicalJsonBytes (small 4300) (.int (10^(small 4300).intMaxStrDigits)) = .error e) ∧
      ¬ Rejected (small 4300) (fun _ => False) (.int (10^(small 4300).intMaxStrDigits)) := by
  refine ⟨(raises_iff_rejected _ _).mpr (.int (tooLong_pow (by decide))), fun h => ?_⟩
  cases h with
  | int h => exact h

end Tomtit
