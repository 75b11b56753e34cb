import TomtitAgent.BuildHarness.MergeEligibility.Record

/-!
# What the decision digest binds

* `decisionIdentity_of_digest`   decisions with one digest agree in all 26 identity fields.

The strings of a decision are ASCII, so that the serialiser leaves them as they are.
-/

open Py

namespace Tomtit

section
variable {rt : Runtime}

theorem norm_strList_ascii {xs ys : List PyStr} (hx : ∀ x ∈ xs, Ascii x) (hy : ∀ y ∈ ys, Ascii y) :
    norm rt (.strList xs) = norm rt (.strList ys) ↔ xs = ys := by
  have hid : ∀ zs : List PyStr, (∀ z ∈ zs, Ascii z) → zs.map rt.nfc = zs := fun zs hz =>
    (List.map_congr_left fun z hzs => rt.nfc_ascii (hz z hzs)).trans (List.map_id zs)
  rw [norm_strList_iff, hid xs hx, hid ys hy]

theorem norm_optStr_ascii {s t : Option PyStr} (hs : ∀ x ∈ s, Ascii x) (ht : ∀ y ∈ t, Ascii y) :
    norm rt (.optStr s) = norm rt (.optStr t) ↔ s = t := by
  cases s with
  | none =>
    cases t with
    | none => exact iff_of_true rfl rfl
    | some y => exact iff_of_false (by simp [PyVal.optStr, norm]) (by simp)
  | some x =>
    cases t with
    | none => exact iff_of_false (by simp [PyVal.optStr, norm]) (by simp)
    | some y =>
      rw [Option.some.injEq]
      exact norm_str_ascii rt (hs x rfl) (ht y rfl)

theorem TokenSet.ascii {xs : List PyStr} (h : TokenSet xs) : ∀ x ∈ xs, Ascii x :=
  fun x hx => tokenGrammar_ascii (h.token x hx)

theorem ReasonSet.ascii {xs : List PyStr} (h : ReasonSet xs) : ∀ x ∈ xs, Ascii x :=
  fun x hx => knownReasonCodes_ascii x (h.known x hx)

theorem InputEchoes.Valid.approval_ascii {e : InputEchoes} (h : e.Valid) :
    Ascii e.approvalDigestOrSentinel := by
  rcases h.approvalDigestOrSentinel with h | h
  · rw [h]
    exact ascii_lit _ (by decide)
  · exact digestRe_ascii h

theorem echoes_norm_inj {e e' : InputEchoes} (h : e.Valid) (h' : e'.Valid)
    (hn : (e.items.map fun kv => norm rt kv.2) = e'.items.map fun kv => norm rt kv.2) : e = e' := by
  simp only [InputEchoes.items, List.map_cons, List.map_nil, List.cons.injEq, and_true] at hn
  rw [norm_str_ascii rt (tokenGrammar_ascii h.taskId) (tokenGrammar_ascii h'.taskId),
    norm_str_ascii rt (digestRe_ascii h.taskContractDigest) (digestRe_ascii h'.taskContractDigest),
    norm_str_ascii rt (digestRe_ascii h.candidateDigest) (digestRe_ascii h'.candidateDigest),
    norm_str_ascii rt (digestRe_ascii h.repositorySnapshotDigest)
      (digestRe_ascii h'.repositorySnapshotDigest),
    norm_str_ascii rt (digestRe_ascii h.verificationBundleDigest)
      (digestRe_ascii h'.verificationBundleDigest),
    norm_str_ascii rt h.approval_ascii h'.approval_ascii,
    norm_str_ascii rt (digestRe_ascii h.authorityBindingDigest)
      (digestRe_ascii h'.authorityBindingDigest),
    norm_str_ascii rt (digestRe_ascii h.verifierBindingDigest)
      (digestRe_ascii h'.verifierBindingDigest),
    norm_str_ascii rt (digestRe_ascii h.policyDigest) (digestRe_ascii h'.policyDigest),
    norm_str_ascii rt (tokenGrammar_ascii h.policyVersion) (tokenGrammar_ascii h'.policyVersion),
    norm_str_ascii rt (tokenGrammar_ascii h.evaluatorVersion)
      (tokenGrammar_ascii h'.evaluatorVersion), norm_value_iff] at hn
  obtain ⟨h1, h2, h3, h4, h5, h6, h7, h8, h9, h10, h11, h12⟩ := hn
  exact InputEchoes.ext h1 h2 h3 h4 h5 h6 h7 h8 h9 h10 h11 h12

theorem primary_ascii {c : DecisionCoreArgs} (h : c.Recordable) :
    ∀ code ∈ c.primaryReasonCode, Ascii code :=
  fun code hc => h.complete.ascii code (h.primary_mem code hc)

theorem core_norm_inj {c c' : DecisionCoreArgs} (h : c.Recordable) (h' : c'.Recordable)
    (hn : ((c.items .strList).map fun kv => norm rt kv.2) =
      (c'.items .strList).map fun kv => norm rt kv.2) : c = c' := by
  simp only [DecisionCoreArgs.items, List.map_cons, List.map_nil, List.cons.injEq, and_true] at hn
  rw [norm_value_iff, norm_value_iff, norm_optStr_ascii (primary_ascii h) (primary_ascii h'),
    norm_strList_ascii h.complete.ascii h'.complete.ascii,
    norm_strList_ascii h.blocking.ascii h'.blocking.ascii,
    norm_strList_ascii h.review.ascii h'.review.ascii,
    norm_strList_ascii h.required.ascii h'.required.ascii,
    norm_strList_ascii h.satisfied.ascii h'.satisfied.ascii,
    norm_strList_ascii h.invalid.ascii h'.invalid.ascii,
    norm_strList_ascii h.missing.ascii h'.missing.ascii,
    norm_strList_ascii h.rejected.ascii h'.rejected.ascii,
    norm_strList_ascii h.invalidProvenance.ascii h'.invalidProvenance.ascii,
    norm_strList_ascii h.unexpected.ascii h'.unexpected.ascii] at hn
  obtain ⟨h1, h2, h3, h4, h5, h6, h7, h8, h9, h10, h11, h12, h13⟩ := hn
  exact DecisionCoreArgs.ext h1 h2 h3 h4 h5 h6 h7 h8 h9 h10 h11 h12 h13

theorem identity_norm_inj {d d' : DecisionIdentity} (he : d.toInputEchoes.Valid)
    (he' : d'.toInputEchoes.Valid) (hi : digestRe d.inputDigest = true)
    (hi' : digestRe d'.inputDigest = true) (hc : d.toDecisionCoreArgs.Recordable)
    (hc' : d'.toDecisionCoreArgs.Recordable)
    (hn : ((d.items .strList).map fun kv => norm rt kv.2) =
      (d'.items .strList).map fun kv => norm rt kv.2) : d = d' := by
  unfold DecisionIdentity.items at hn
  rw [List.map_append, List.map_append, List.map_cons, List.map_cons] at hn
  obtain ⟨h1, h2⟩ := List.append_inj hn rfl
  obtain ⟨h3, h4⟩ := List.cons.inj h2
  have h5 := (norm_str_ascii rt (digestRe_ascii hi) (digestRe_ascii hi')).mp h3
  have h6 := echoes_norm_inj he he' h1
  have h7 := core_norm_inj hc hc' h4
  obtain ⟨e, c, digest⟩ := d
  obtain rfl := h5
  obtain rfl := h6
  obtain rfl := h7
  rfl

/-- **What the decision digest binds.**  Decisions with one digest have one identity. -/
theorem decisionIdentity_of_digest {d d' : MergeEligibilityDecisionArgs} (hv : d.Valid rt)
    (hv' : d'.Valid rt)
    (hc : CollisionFree rt (decisionPayload (d.toDecisionIdentity.items .strTuple))
      (decisionPayload (d'.toDecisionIdentity.items .strTuple)))
    (h : d.decisionDigest = d'.decisionDigest) : d.toDecisionIdentity = d'.toDecisionIdentity := by
  have hd := (canonicalDigest_congr rt (norm_decisionPayload _) _).mpr hv.decisionDigest
  have hd' := (canonicalDigest_congr rt (norm_decisionPayload _) _).mpr hv'.decisionDigest
  have hn := norm_eq_of_digest rt hc (h ▸ hd) hd'
  rw [norm_decisionPayload, norm_decisionPayload] at hn
  unfold decisionPayload at hn
  have hkeys : ∀ a b : DecisionIdentity,
      ((py "kind", PyVal.str decisionKind) :: a.items .strList).map Prod.fst =
        ((py "kind", PyVal.str decisionKind) :: b.items .strList).map Prod.fst := fun a b => by
    rw [List.map_cons, List.map_cons, a.items_keys, b.items_keys]
  have hascii : ∀ k ∈ ((py "kind", PyVal.str decisionKind) ::
      d.toDecisionIdentity.items .strList).map Prod.fst, Ascii k := by
    rw [List.map_cons, DecisionIdentity.items_keys, List.forall_mem_cons]
    exact ⟨ascii_lit _ (by decide), identityFields_ascii⟩
  rw [norm_record_iff rt (hkeys _ _) hascii (decisionPayload_accepted hv.echoes hv.inputDigest hv.core.accepted),
    List.map_cons, List.map_cons] at hn
  exact identity_norm_inj hv.echoes hv'.echoes hv.inputDigest hv'.inputDigest hv.core hv'.core
    (List.cons.inj hn).2

end

end Tomtit
