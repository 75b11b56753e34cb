import TomtitAgent.BuildHarness.Canonical
import TomtitAgent.Python.StrEnum

/-!
# Which values have canonical bytes

* `Accepted v`   the value has a normal form that can be written and encoded;
* `accepted_str`, `accepted_list`, `accepted_dict`, `accepted_record`   acceptance by the shape of
  the value;
* `digest_of_accepted`, `digest_eq_iff`   an accepted value has a digest, and digests are equal
  when the normal forms are;
* `norm_record_iff`, `norm_str_ascii`, `norm_strList_iff`   when that is, by the shape.
-/

open Py

namespace Tomtit

section
variable (rt : Runtime)

/-- The value has a normal form that can be written and encoded. -/
def Accepted (v : PyVal) : Prop :=
  ∃ j, norm rt v = some j ∧ j.intsFit rt = true ∧ j.encodable = true

theorem accepted_iff {v : PyVal} : Accepted rt v ↔ ∃ b, canonicalJsonBytes rt v = .ok b := by
  simp only [canonicalJsonBytes_ok_iff]
  exact ⟨fun ⟨j, h1, h2, h3⟩ => ⟨_, j, h1, h2, h3, rfl⟩, fun ⟨_, j, h1, h2, h3, _⟩ => ⟨j, h1, h2, h3⟩⟩

theorem normItems_accepted (xs : List PyVal) :
    (∃ js, normItems rt xs = some js ∧ Json.intsFitList rt js = true ∧
      Json.encodableList js = true) ↔ ∀ x ∈ xs, Accepted rt x := by
  induction xs with
  | nil => exact iff_of_true ⟨[], rfl, rfl, rfl⟩ fun x hx => absurd hx List.not_mem_nil
  | cons x xs ih =>
    rw [List.forall_mem_cons, ← ih, normItems]
    constructor
    · rintro ⟨js, hn, hf, he⟩
      obtain ⟨j, hj, hn⟩ := Option.bind_eq_some_iff.mp hn
      obtain ⟨js', hjs, hn⟩ := Option.bind_eq_some_iff.mp hn
      obtain rfl := Option.some.inj hn
      rw [Json.intsFitList, Bool.and_eq_true] at hf
      rw [Json.encodableList, Bool.and_eq_true] at he
      exact ⟨⟨j, hj, hf.1, he.1⟩, js', hjs, hf.2, he.2⟩
    · rintro ⟨⟨j, hj, hf, he⟩, js, hjs, hf', he'⟩
      refine ⟨j :: js, by rw [hj, hjs]; rfl, ?_, ?_⟩
      · rw [Json.intsFitList, hf, hf']; rfl
      · rw [Json.encodableList, he, he']; rfl

theorem accepted_list (xs : List PyVal) : Accepted rt (.list xs) ↔ ∀ x ∈ xs, Accepted rt x := by
  rw [← normItems_accepted]
  unfold Accepted
  constructor
  · rintro ⟨j, hn, hf, he⟩
    obtain ⟨js, hjs, rfl⟩ := Option.map_eq_some_iff.mp hn
    exact ⟨js, hjs, hf, he⟩
  · rintro ⟨js, hjs, hf, he⟩
    exact ⟨.arr js, by rw [norm, hjs]; rfl, hf, he⟩

def KeysApart (a b : PyVal × PyVal) : Prop :=
  ∀ k k', a.1 = .str k → b.1 = .str k' → rt.nfc k ≠ rt.nfc k'

/-- A dictionary item with an encodable string key and an accepted value. -/
def ItemAccepted (kv : PyVal × PyVal) : Prop :=
  (∃ k, kv.1 = .str k ∧ Encodable k) ∧ Accepted rt kv.2

theorem normDict_forward {kvs : List (PyVal × PyVal)} {es : List (PyStr × Json)}
    (h : normDict rt kvs = some es) :
    ∀ kv ∈ kvs, ∃ k j, kv.1 = .str k ∧ norm rt kv.2 = some j ∧ (rt.nfc k, j) ∈ es := by
  induction kvs generalizing es with
  | nil => exact fun kv hkv => absurd hkv List.not_mem_nil
  | cons kv kvs ih =>
    obtain ⟨k, x⟩ := kv
    cases k with
    | str k =>
      rw [normDict] at h
      obtain ⟨j, hj, h⟩ := Option.bind_eq_some_iff.mp h
      obtain ⟨es', hes, h⟩ := Option.bind_eq_some_iff.mp h
      rw [← Option.some.inj h]
      intro kv hkv
      rcases List.mem_cons.mp hkv with rfl | hkv
      · exact ⟨k, j, rfl, hj, List.mem_cons_self⟩
      · obtain ⟨k', j', h1, h2, h3⟩ := ih hes kv hkv
        exact ⟨k', j', h1, h2, List.mem_cons_of_mem _ h3⟩
    | _ => exact absurd h (by simp [normDict])

theorem normDict_keys {kvs : List (PyVal × PyVal)} {es : List (PyStr × Json)}
    (h : normDict rt kvs = some es) :
    (es.map Prod.fst).Nodup ↔ kvs.Pairwise (KeysApart rt) := by
  induction kvs generalizing es with
  | nil =>
    rw [← Option.some.inj h]
    exact iff_of_true List.nodup_nil List.Pairwise.nil
  | cons kv kvs ih =>
    obtain ⟨k, x⟩ := kv
    cases k with
    | str k =>
      rw [normDict] at h
      obtain ⟨j, hj, h⟩ := Option.bind_eq_some_iff.mp h
      obtain ⟨es', hes, h⟩ := Option.bind_eq_some_iff.mp h
      rw [← Option.some.inj h, List.map_cons, List.nodup_cons, List.pairwise_cons, ih hes]
      refine and_congr_left fun _ => ?_
      constructor
      · intro hk kv hkv k1 k2 e1 e2 e
        obtain rfl := PyVal.str.inj e1
        obtain ⟨k', j', h1, _, h3⟩ := normDict_forward rt hes kv hkv
        obtain rfl := PyVal.str.inj (e2.symm.trans h1)
        exact hk (List.mem_map.mpr ⟨_, h3, e.symm⟩)
      · intro hall hk
        obtain ⟨y, hy, ey⟩ := List.mem_map.mp hk
        obtain ⟨k', x', hx', ek, _⟩ := normDict_mem rt hes y hy
        exact hall _ hx' k k' rfl rfl (ey.symm.trans ek)
    | _ => exact absurd h (by simp [normDict])

theorem normDict_accepted (kvs : List (PyVal × PyVal)) :
    (∃ es, normDict rt kvs = some es ∧ Json.intsFitItems rt es = true ∧
      Json.encodableItems es = true) ↔ ∀ kv ∈ kvs, ItemAccepted rt kv := by
  constructor
  · rintro ⟨es, hes, hf, he⟩ kv hkv
    obtain ⟨k, j, hk, hj, hm⟩ := normDict_forward rt hes kv hkv
    obtain ⟨he1, he2⟩ := Json.encodableItems_iff.mp he _ hm
    exact ⟨⟨k, hk, (rt.nfc_encodable k).mp he1⟩, j, hj, (Json.intsFitItems_iff rt).mp hf _ hm, he2⟩
  · intro h
    induction kvs with
    | nil => exact ⟨[], rfl, rfl, rfl⟩
    | cons kv kvs ih =>
      obtain ⟨k, x⟩ := kv
      rw [List.forall_mem_cons] at h
      obtain ⟨⟨⟨k', hk, hke⟩, j, hj, hf, he⟩, hrest⟩ := h
      obtain ⟨es, hes, hf', he'⟩ := ih hrest
      obtain rfl : k = .str k' := hk
      refine ⟨(rt.nfc k', j) :: es, by rw [normDict, hj, hes]; rfl, ?_, ?_⟩
      · rw [Json.intsFitItems, hf, hf']; rfl
      · rw [Json.encodableItems, he, he', decide_eq_true ((rt.nfc_encodable k').mpr hke)]; rfl

theorem accepted_dict (kvs : List (PyVal × PyVal)) :
    Accepted rt (.dict kvs) ↔ (∀ kv ∈ kvs, ItemAccepted rt kv) ∧ kvs.Pairwise (KeysApart rt) := by
  rw [← normDict_accepted]
  have sorted : ∀ es : List (PyStr × Json),
      (Json.intsFitItems rt (sortItems es) = true ↔ Json.intsFitItems rt es = true) ∧
      (Json.encodableItems (sortItems es) = true ↔ Json.encodableItems es = true) := by
    intro es
    simp only [Json.intsFitItems_iff, Json.encodableItems_iff, (sortItems_perm_self es).mem_iff,
      iff_self, and_self]
  constructor
  · rintro ⟨j, hn, hf, he⟩
    obtain ⟨es, hes, hnd, rfl⟩ := (norm_dict_eq_some rt).mp hn
    exact ⟨⟨es, hes, (sorted es).1.mp hf, (sorted es).2.mp he⟩, (normDict_keys rt hes).mp hnd⟩
  · rintro ⟨⟨es, hes, hf, he⟩, hk⟩
    exact ⟨_, (norm_dict_eq_some rt).mpr ⟨es, hes, (normDict_keys rt hes).mpr hk, rfl⟩,
      (sorted es).1.mpr hf, (sorted es).2.mpr he⟩

theorem accepted_str (s : PyStr) : Accepted rt (.str s) ↔ Encodable s := by
  rw [← rt.nfc_encodable]
  exact ⟨fun ⟨j, hn, _, he⟩ => by rw [← Option.some.inj hn] at he; exact of_decide_eq_true he,
    fun h => ⟨_, rfl, rfl, decide_eq_true h⟩⟩

theorem accepted_none : Accepted rt .none := ⟨.null, rfl, rfl, rfl⟩

theorem accepted_bool (b : Bool) : Accepted rt (.bool b) := ⟨.bool b, rfl, rfl, rfl⟩

theorem accepted_strList (xs : List PyStr) :
    Accepted rt (.strList xs) ↔ ∀ x ∈ xs, Encodable x := by
  unfold PyVal.strList
  rw [accepted_list, List.forall_mem_map]
  exact forall₂_congr fun x _ => accepted_str rt x

/-- A record with distinct ASCII keys is accepted when its values are. -/
theorem accepted_record {fs : List (PyStr × PyVal)} (hk : ∀ k ∈ fs.map Prod.fst, Ascii k)
    (hnd : (fs.map Prod.fst).Nodup) :
    Accepted rt (.record fs) ↔ ∀ kv ∈ fs, Accepted rt kv.2 := by
  unfold PyVal.record
  rw [accepted_dict, List.forall_mem_map]
  constructor
  · exact fun h kv hkv => (h.1 kv hkv).2
  · intro h
    refine ⟨fun kv hkv => ⟨⟨kv.1, rfl, (hk _ (List.mem_map_of_mem hkv)).encodable⟩, h kv hkv⟩, ?_⟩
    rw [List.pairwise_map]
    refine (List.pairwise_map.mp hnd).imp_of_mem fun {a b} ha hb hne k k' ea eb e => ?_
    obtain rfl := PyVal.str.inj ea
    obtain rfl := PyVal.str.inj eb
    rw [rt.nfc_ascii (hk _ (List.mem_map_of_mem ha)),
      rt.nfc_ascii (hk _ (List.mem_map_of_mem hb))] at e
    exact hne e

theorem digest_of_accepted {v : PyVal} (h : Accepted rt v) :
    ∃ d, canonicalDigest rt v = .ok d ∧ digestRe d = true := by
  obtain ⟨b, hb⟩ := (accepted_iff rt).mp h
  exact ⟨_, (canonicalDigest_ok_iff rt).mpr ⟨b, hb, rfl⟩, digestRe_digest b⟩

theorem accepted_of_digest {v : PyVal} {d : PyStr} (h : canonicalDigest rt v = .ok d) :
    Accepted rt v ∧ digestRe d = true := by
  obtain ⟨b, hb, rfl⟩ := (canonicalDigest_ok_iff rt).mp h
  exact ⟨(accepted_iff rt).mpr ⟨b, hb⟩, digestRe_digest b⟩

/-- Accepted records with the same distinct ASCII keys have one normal form when their fields do,
and only then. -/
theorem norm_record_iff {fs fs' : List (PyStr × PyVal)}
    (hkeys : fs.map Prod.fst = fs'.map Prod.fst) (hk : ∀ k ∈ fs.map Prod.fst, Ascii k)
    (ha : Accepted rt (.record fs)) :
    norm rt (.record fs) = norm rt (.record fs') ↔
      (fs.map fun kv => norm rt kv.2) = fs'.map fun kv => norm rt kv.2 := by
  refine ⟨fun h => ?_, norm_record_congr rt hkeys⟩
  obtain ⟨j, hj, _⟩ := ha
  exact norm_record_inj rt hkeys (fun k hm => rt.nfc_ascii (hk k hm)) hj (h.symm.trans hj)

/-- Equal digests stand for equal normal forms, short of a collision. -/
theorem digest_eq_iff {u v : PyVal} (hc : CollisionFree rt u v) {d d' : PyStr}
    (hu : canonicalDigest rt u = .ok d) (hv : canonicalDigest rt v = .ok d') :
    d = d' ↔ norm rt u = norm rt v := by
  constructor
  · rintro rfl
    exact norm_eq_of_digest rt hc hu hv
  · intro h
    exact Except.ok.inj (((canonicalDigest_congr rt h d).mp hu).symm.trans hv)

theorem norm_str_ascii {s t : PyStr} (hs : Ascii s) (ht : Ascii t) :
    norm rt (.str s) = norm rt (.str t) ↔ s = t := by
  rw [norm, norm, rt.nfc_ascii hs, rt.nfc_ascii ht]
  exact ⟨fun h => Json.str.inj (Option.some.inj h), fun h => by rw [h]⟩

theorem norm_strList (xs : List PyStr) :
    norm rt (.strList xs) = some (.arr (xs.map fun x => .str (rt.nfc x))) := by
  have h : normItems rt (xs.map .str) = some (xs.map fun x => .str (rt.nfc x)) := by
    induction xs with
    | nil => rfl
    | cons x xs ih => rw [List.map_cons, normItems, ih, norm]; rfl
  unfold PyVal.strList
  rw [norm, h]
  rfl

theorem norm_strList_iff {xs ys : List PyStr} :
    norm rt (.strList xs) = norm rt (.strList ys) ↔ xs.map rt.nfc = ys.map rt.nfc := by
  have hinj : Function.Injective Json.str := fun a b h => Json.str.inj h
  rw [norm_strList, norm_strList]
  constructor
  · intro h
    have h := Json.arr.inj (Option.some.inj h)
    refine List.map_injective_iff.mpr hinj ?_
    rw [List.map_map, List.map_map]
    exact h
  · intro h
    have h := congrArg (List.map Json.str) h
    rw [List.map_map, List.map_map] at h
    exact congrArg (fun js => some (Json.arr js)) h

theorem norm_value_iff {α : Type} [StrEnum α] {a b : α} :
    norm rt (.str (StrEnum.value a)) = norm rt (.str (StrEnum.value b)) ↔ a = b :=
  (norm_str_ascii rt (StrEnum.value_ascii a) (StrEnum.value_ascii b)).trans
    StrEnum.value_inj.eq_iff

theorem map_nfc_values_iff {α : Type} [StrEnum α] {xs ys : List α} :
    (xs.map StrEnum.value).map rt.nfc = (ys.map StrEnum.value).map rt.nfc ↔ xs = ys := by
  have hnfc : ∀ zs : List α, (zs.map StrEnum.value).map rt.nfc = zs.map StrEnum.value := by
    intro zs
    rw [List.map_map]
    exact List.map_congr_left fun z _ => rt.nfc_ascii (StrEnum.value_ascii z)
  rw [hnfc, hnfc]
  exact (List.map_injective_iff.mpr StrEnum.value_inj).eq_iff

theorem accepted_value {α : Type} [StrEnum α] (a : α) : Accepted rt (.str (StrEnum.value a)) :=
  (accepted_str rt _).mpr (StrEnum.value_ascii a).encodable

theorem encodable_values {α : Type} [StrEnum α] (xs : List α) :
    ∀ s ∈ xs.map StrEnum.value, Encodable s := by
  rw [List.forall_mem_map]
  exact fun x _ => (StrEnum.value_ascii x).encodable

end

end Tomtit
