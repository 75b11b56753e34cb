import TomtitAgent.Python.JsonBytes

/-!
# The integers of a text that was read

`json.loads` converts each integer literal with `int(text)`, which raises beyond the digit limit.  So
every integer of a value that it returns can be written again (`loads_intsFit`), and `str` and `repr`
of the value do not raise (`strVal_toPy`).
-/

namespace Py

section
variable (rt : Runtime)

/-! ### what is read -/

namespace Scan

theorem mem_dictSet {k : PyStr} {v : Json} {d : List (PyStr × Json)} {kv : PyStr × Json}
    (h : kv ∈ JsonLoad.dictSet k v d) : kv = (k, v) ∨ kv ∈ d := by
  induction d with
  | nil => exact .inl (List.mem_singleton.mp h)
  | cons kv' d ih =>
    obtain ⟨k', v'⟩ := kv'
    rw [JsonLoad.dictSet] at h
    split_ifs at h
    · rcases List.mem_cons.mp h with rfl | h
      · exact .inl rfl
      · exact .inr (List.mem_cons_of_mem _ h)
    · rcases List.mem_cons.mp h with rfl | h
      · exact .inr List.mem_cons_self
      · exact (ih h).imp_right (List.mem_cons_of_mem _)

theorem mem_dictOf {kvs : List (PyStr × Json)} {kv : PyStr × Json}
    (h : kv ∈ JsonLoad.dictOf kvs) : kv ∈ kvs := by
  have hfold : ∀ (kvs d : List (PyStr × Json)),
      kv ∈ kvs.foldl (fun d kv => JsonLoad.dictSet kv.1 kv.2 d) d → kv ∈ kvs ∨ kv ∈ d := by
    intro kvs
    induction kvs with
    | nil => exact fun d h => .inr h
    | cons a kvs ih =>
      intro d h
      rcases ih _ h with h | h
      · exact .inl (List.mem_cons_of_mem a h)
      · rcases mem_dictSet h with rfl | h
        · exact .inl List.mem_cons_self
        · exact .inr h
  exact (hfold kvs [] h).resolve_right List.not_mem_nil

theorem number_intsFit {s rest : PyStr} {j : Json} (h : number rt s = .ok (j, rest)) :
    j.intsFit rt = true := by
  revert h
  unfold number
  rcases JsonLoad.numberSign s with ⟨sign, r0⟩
  intro h
  obtain ⟨⟨ip, r1⟩, -, h⟩ := bind_eq_ok.mp h
  revert h
  dsimp only
  rcases JsonLoad.fraction r1 with ⟨frac, r2⟩
  rcases JsonLoad.exponent r2 with ⟨ex, r3⟩
  dsimp only
  generalize (if sign.isEmpty then (JsonLoad.natOf ip : Int) else -(JsonLoad.natOf ip : Int)) = n
  intro h
  split at h
  · split at h
    · next hfits =>
      obtain ⟨rfl, -⟩ := Prod.mk.inj (Except.ok.inj h)
      exact hfits
    · exact absurd h (by simp)
  · obtain ⟨rfl, -⟩ := Prod.mk.inj (Except.ok.inj h)
    rfl

theorem scalar_intsFit {s rest : PyStr} {j : Json} (h : scalar rt s = .ok (j, rest)) :
    j.intsFit rt = true := by
  have hconst : ∀ {v : Json} {r : PyStr}, v.intsFit rt = true →
      (Except.ok (v, r) : Except PyExc (Json × PyStr)) = .ok (j, rest) → j.intsFit rt = true := by
    intro v r hv e
    obtain ⟨rfl, -⟩ := Prod.mk.inj (Except.ok.inj e)
    exact hv
  unfold scalar at h
  split at h
  · exact hconst rfl h
  · split at h
    · exact hconst rfl h
    · split at h
      · exact hconst rfl h
      · split at h
        · exact hconst rfl h
        · split at h
          · exact hconst rfl h
          · split at h
            · exact hconst rfl h
            · exact number_intsFit rt h

theorem scan_intsFit (n : Nat) :
    (∀ s j rest, value rt n s = .ok (j, rest) → j.intsFit rt = true) ∧
    (∀ s xs rest, elements rt n s = .ok (xs, rest) → ∀ x ∈ xs, x.intsFit rt = true) ∧
    (∀ s kv rest, item rt n s = .ok (kv, rest) → kv.2.intsFit rt = true) ∧
    (∀ s kvs rest, items rt n s = .ok (kvs, rest) → ∀ kv ∈ kvs, kv.2.intsFit rt = true) := by
  induction n with
  | zero =>
    exact ⟨fun _ _ _ h => absurd h (by simp [value]), fun _ _ _ h => absurd h (by simp [elements]),
      fun _ _ _ h => absurd h (by simp [item]), fun _ _ _ h => absurd h (by simp [items])⟩
  | succ n ih =>
    obtain ⟨hvalue, helements, hitem, hitems⟩ := ih
    refine ⟨fun s j rest h => ?_, fun s xs rest h => ?_, fun s kv rest h => ?_, fun s kvs rest h => ?_⟩
    · unfold value at h
      dsimp only at h
      split at h
      · cases hs : JsonLoad.string _ with
        | none =>
          rw [hs] at h
          exact absurd h (by simp [orDecodeError])
        | some r =>
          rw [hs] at h
          obtain ⟨rfl, -⟩ := Prod.mk.inj (Except.ok.inj h)
          rfl
      · split at h
        · obtain ⟨rfl, -⟩ := Prod.mk.inj (Except.ok.inj h)
          rfl
        · obtain ⟨⟨x, r⟩, hx, h⟩ := bind_eq_ok.mp h
          obtain ⟨⟨xs, r'⟩, hxs, h⟩ := bind_eq_ok.mp h
          obtain ⟨rfl, -⟩ := Prod.mk.inj (Except.ok.inj h)
          rw [Json.intsFit, Json.intsFitList_iff]
          exact List.forall_mem_cons.mpr ⟨hvalue _ _ _ hx, helements _ _ _ hxs⟩
      · split at h
        · obtain ⟨rfl, -⟩ := Prod.mk.inj (Except.ok.inj h)
          rfl
        · obtain ⟨⟨kv, r⟩, hkv, h⟩ := bind_eq_ok.mp h
          obtain ⟨⟨kvs, r'⟩, hkvs, h⟩ := bind_eq_ok.mp h
          obtain ⟨rfl, -⟩ := Prod.mk.inj (Except.ok.inj h)
          rw [Json.intsFit, Json.intsFitItems_iff]
          intro x hx
          rcases List.mem_cons.mp (mem_dictOf hx) with rfl | hx
          · exact hitem _ _ _ hkv
          · exact hitems _ _ _ hkvs x hx
        · exact absurd h (by simp)
      · exact scalar_intsFit rt h
    · unfold elements at h
      dsimp only at h
      split at h
      · obtain ⟨rfl, -⟩ := Prod.mk.inj (Except.ok.inj h)
        exact fun _ hx => absurd hx List.not_mem_nil
      · obtain ⟨⟨x, r⟩, hx, h⟩ := bind_eq_ok.mp h
        obtain ⟨⟨xs, r'⟩, hxs, h⟩ := bind_eq_ok.mp h
        obtain ⟨rfl, -⟩ := Prod.mk.inj (Except.ok.inj h)
        exact List.forall_mem_cons.mpr ⟨hvalue _ _ _ hx, helements _ _ _ hxs⟩
      · exact absurd h (by simp)
    · unfold item at h
      obtain ⟨⟨k, r⟩, -, h⟩ := bind_eq_ok.mp h
      dsimp only at h
      split at h
      · obtain ⟨⟨x, r'⟩, hx, h⟩ := bind_eq_ok.mp h
        obtain ⟨rfl, -⟩ := Prod.mk.inj (Except.ok.inj h)
        exact hvalue _ _ _ hx
      · exact absurd h (by simp)
    · unfold items at h
      dsimp only at h
      split at h
      · obtain ⟨rfl, -⟩ := Prod.mk.inj (Except.ok.inj h)
        exact fun _ hx => absurd hx List.not_mem_nil
      · split at h
        · obtain ⟨⟨kv, r⟩, hkv, h⟩ := bind_eq_ok.mp h
          obtain ⟨⟨kvs, r'⟩, hkvs, h⟩ := bind_eq_ok.mp h
          obtain ⟨rfl, -⟩ := Prod.mk.inj (Except.ok.inj h)
          exact List.forall_mem_cons.mpr ⟨hitem _ _ _ hkv, hitems _ _ _ hkvs⟩
        · exact absurd h (by simp)
      · exact absurd h (by simp)

theorem loads_intsFit {s : PyStr} {j : Json} (h : loads rt s = .ok j) : j.intsFit rt = true := by
  unfold loads at h
  split at h
  · next j' rest hvalue =>
    split_ifs at h
    obtain rfl := Except.ok.inj h
    exact (scan_intsFit rt _).1 _ _ _ hvalue
  · exact absurd h (by simp)

/-! ### what is raised -/

def ScanErrors {α : Type} (x : Except PyExc α) : Prop :=
  ∀ e, x = .error e → e = jsonDecodeError ∨ e = intLiteralTooLong

theorem ScanErrors.ok {α : Type} (a : α) : ScanErrors (.ok a) := fun _ h => absurd h (by simp)

theorem ScanErrors.decode {α : Type} : ScanErrors (α := α) (.error jsonDecodeError) :=
  fun _ h => .inl (Except.error.inj h).symm

theorem ScanErrors.bind {α β : Type} {x : Except PyExc α} {f : α → Except PyExc β}
    (hx : ScanErrors x) (hf : ∀ a, ScanErrors (f a)) : ScanErrors (x >>= f) := by
  cases x with
  | error e => exact fun e' h => hx e' (congrArg _ (Except.error.inj h))
  | ok a => exact hf a

theorem ScanErrors.orDecodeError {α : Type} (o : Option α) : ScanErrors (orDecodeError o) := by
  cases o with
  | none => exact .decode
  | some a => exact .ok a

theorem number_errors (s : PyStr) : ScanErrors (number rt s) := by
  unfold number
  rcases JsonLoad.numberSign s with ⟨sign, r0⟩
  refine (ScanErrors.orDecodeError _).bind fun ⟨ip, r1⟩ => ?_
  rcases JsonLoad.fraction r1 with ⟨frac, r2⟩
  rcases JsonLoad.exponent r2 with ⟨ex, r3⟩
  dsimp only
  generalize (if sign.isEmpty then (JsonLoad.natOf ip : Int) else -(JsonLoad.natOf ip : Int)) = n
  split
  · split
    · exact .ok _
    · exact fun _ h => .inr (Except.error.inj h).symm
  · exact .ok _

theorem scalar_errors (s : PyStr) : ScanErrors (scalar rt s) := by
  unfold scalar
  repeat' split
  all_goals first | exact .ok _ | exact number_errors rt s

theorem scan_errors (n : Nat) :
    (∀ s, ScanErrors (value rt n s)) ∧ (∀ s, ScanErrors (elements rt n s)) ∧
    (∀ s, ScanErrors (item rt n s)) ∧ (∀ s, ScanErrors (items rt n s)) := by
  induction n with
  | zero => exact ⟨fun _ => .decode, fun _ => .decode, fun _ => .decode, fun _ => .decode⟩
  | succ n ih =>
    obtain ⟨hvalue, helements, hitem, hitems⟩ := ih
    refine ⟨fun s => ?_, fun s => ?_, fun s => ?_, fun s => ?_⟩
    · unfold value
      dsimp only
      split
      · exact .orDecodeError _
      · split
        · exact .ok _
        · exact (hvalue _).bind fun _ => (helements _).bind fun _ => .ok _
      · split
        · exact .ok _
        · exact (hitem _).bind fun _ => (hitems _).bind fun _ => .ok _
        · exact .decode
      · exact scalar_errors rt s
    · unfold elements
      dsimp only
      split
      · exact .ok _
      · exact (hvalue _).bind fun _ => (helements _).bind fun _ => .ok _
      · exact .decode
    · unfold item
      refine (ScanErrors.orDecodeError _).bind fun kr => ?_
      obtain ⟨k, r⟩ := kr
      dsimp only
      split
      · exact (hvalue _).bind fun _ => .ok _
      · exact .decode
    · unfold items
      dsimp only
      split
      · exact .ok _
      · split
        · exact (hitem _).bind fun _ => (hitems _).bind fun _ => .ok _
        · exact .decode
      · exact .decode

theorem loads_errors (s : PyStr) : ScanErrors (loads rt s) := by
  unfold loads
  split
  · split_ifs
    · exact .ok _
    · exact .decode
  · next e hvalue => exact fun e' h => (scan_errors rt _).1 _ e' (Except.error.inj h ▸ hvalue)

end Scan

/-! ### its text -/

theorem reprVal_toPy {j : Json} (h : j.intsFit rt = true) :
    ∃ t, reprVal rt (JsonLoad.toPy j) = .ok t := by
  induction j using Json.induct with
  | null => exact ⟨_, rfl⟩
  | bool b => exact ⟨_, rfl⟩
  | int n =>
    refine ⟨intText n, ?_⟩
    show strInt rt n = _
    unfold strInt
    exact if_pos h
  | float x => exact ⟨_, rfl⟩
  | str s => exact ⟨_, rfl⟩
  | arr xs ih =>
    rw [Json.intsFit, Json.intsFitList_iff] at h
    have hlist : ∃ ts, reprList rt (JsonLoad.toPyList xs) = .ok ts := by
      induction xs with
      | nil => exact ⟨[], rfl⟩
      | cons x xs ihx =>
        obtain ⟨t, ht⟩ := ih x List.mem_cons_self (h x List.mem_cons_self)
        obtain ⟨ts, hts⟩ := ihx (fun y hy => ih y (List.mem_cons_of_mem x hy))
          fun y hy => h y (List.mem_cons_of_mem x hy)
        refine ⟨t :: ts, ?_⟩
        rw [JsonLoad.toPyList, reprList, ht, hts]
        rfl
    obtain ⟨ts, hts⟩ := hlist
    rw [JsonLoad.toPy, reprVal, hts]
    exact ⟨_, rfl⟩
  | obj kvs ih =>
    rw [Json.intsFit, Json.intsFitItems_iff] at h
    have hitems : ∃ ts, reprItems rt (JsonLoad.toPyItems kvs) = .ok ts := by
      induction kvs with
      | nil => exact ⟨[], rfl⟩
      | cons kv kvs ihk =>
        obtain ⟨t, ht⟩ := ih kv List.mem_cons_self (h kv List.mem_cons_self)
        obtain ⟨ts, hts⟩ := ihk (fun y hy => ih y (List.mem_cons_of_mem kv hy))
          fun y hy => h y (List.mem_cons_of_mem kv hy)
        refine ⟨(reprStr rt kv.1 ++ py ": " ++ t) :: ts, ?_⟩
        rw [JsonLoad.toPyItems, reprItems, ht, hts]
        rfl
    obtain ⟨ts, hts⟩ := hitems
    rw [JsonLoad.toPy, reprVal, hts]
    exact ⟨_, rfl⟩

theorem strVal_toPy {j : Json} (h : j.intsFit rt = true) :
    ∃ t, strVal rt (JsonLoad.toPy j) = .ok t := by
  cases j with
  | str s => exact ⟨s, rfl⟩
  | _ => exact reprVal_toPy rt h

end

end Py
