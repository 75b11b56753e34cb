import TomtitAgent.Conversation.PreferenceClauses
import TomtitAgent.Python.Phrases
import TomtitAgent.Python.RegexSearch

/-!
# The polarity of what a preference sentence states

Polarity is read off the text: what follows a "thích" is negated where "không" stands before it, with adverbs
between at most.  The extractor looks for "không" right before "thích" only, and for a name it does not look at all.

* `likings`             every "thích" of a text, with what stands before it and what follows up to the next one;
* `saysNot`, `Mentions` whether "không" stands before, and whether an item stands in what follows;
* `clause_liking`       a clause of the extractor belongs to a "thích", and "không" in its head negates that;
* `items_mentioned`     its items are mentioned there;
* `keepsPolarity_iff`   the sentences of which no item is stated with the opposite polarity;
* `not_keepsPolarity`   two sentences of which one is.
-/

namespace Tomtit
open Py

section
variable (rt : ExtractorRuntime) (adverbs : List PyStr)

def ExtractorRuntime.same (u w : PyStr) : Bool := decide (u.map rt.tables.fold = w.map rt.tables.fold)

def likes (s : PyStr) : Bool := rt.same (s.take 5) (py "thích") && (s.drop 5).head?.any isSpace

def upToLikes : PyStr → PyStr
  | [] => []
  | c :: s => if likes rt (c :: s) then [] else c :: upToLikes s

/-- A "thích" of a text: what stands before it, and what follows up to the next one. -/
structure Liking where
  before : PyStr
  content : PyStr
deriving DecidableEq

def likingsFrom : PyStr → PyStr → List Liking
  | _, [] => []
  | before, c :: s =>
    if likes rt (c :: s) then ⟨before.reverse, upToLikes rt (s.drop 4)⟩ :: likingsFrom (c :: before) s
    else likingsFrom (c :: before) s

def likings (text : PyStr) : List Liking := likingsFrom rt [] text

/-- The first of the words ends in "không", or it is an adverb and the others negate. -/
def saysNotWords : List PyStr → Bool
  | [] => false
  | w :: ws => rt.same (w.drop (w.length - 5)) (py "không") || (adverbs.any (rt.same w) && saysNotWords ws)

/-- "không" stands before, and at most adverbs after it. -/
def saysNot (before : PyStr) : Bool :=
  before.getLast?.any isSpace && saysNotWords rt adverbs (split before).reverse

/-! ### what is mentioned -/

def isEdge (c : CodePoint) : Bool := isSpace c || decide (c ∈ py ".!,")

def connectives : List PyStr := [py "nhưng", py "và", py ","]

def subjects : List PyStr := [py "tôi", py "mình"]

def clauseAdverbs : List PyStr := [py "cũng", py "còn", py "vẫn"]

def leadIns : List PyStr := connectives ++ (subjects ++ (clauseAdverbs ++ [py "không"]))

/-- The item stands in the text as words of its own; what a clause begins with may be written onto it. -/
def StandsIn (text item : PyStr) : Prop :=
  ∃ x y, text = x ++ (item ++ y) ∧ x.getLast?.all isEdge = true ∧
    (y.head?.all isEdge = true ∨ ∃ w ∈ leadIns, rt.same (y.take w.length) w = true)

/-- The item stands in the text, or it does without the food verb that another item there begins with. -/
def Mentions (text item : PyStr) : Prop :=
  StandsIn rt text item ∨ ∃ verb ∈ foodVerbPrefixes, ∃ first object, item = verb ++ object ∧
    StandsIn rt text first ∧ startsWith (rt.lower first) verb = true ∧ StandsIn rt text object

/-- The item is mentioned where "không" negates, and nowhere else. -/
structure OnlyNegated (text item : PyStr) : Prop where
  occurs : ∃ l ∈ likings rt text, Mentions rt l.content item
  negated : ∀ l ∈ likings rt text, Mentions rt l.content item → saysNot rt adverbs l.before = true

/-- The item is mentioned where no "không" negates, and nowhere else. -/
structure OnlyAffirmed (text item : PyStr) : Prop where
  occurs : ∃ l ∈ likings rt text, Mentions rt l.content item
  affirmed : ∀ l ∈ likings rt text, Mentions rt l.content item → saysNot rt adverbs l.before = false

/-- No operation of a preference sentence asserts an item with the polarity opposite to the text. -/
structure KeepsPolarity (others : ComplexityReason → PyStr → List MemoryOperation) (rawText : PyStr) :
    Prop where
  positive : preferenceSentence rt (collapse (strip rawText)) = true →
    ∀ op ∈ extract rt others rawText, op.asserts (py "positive") →
      ¬ OnlyNegated rt adverbs (collapse (strip rawText)) op.value
  negative : preferenceSentence rt (collapse (strip rawText)) = true →
    ∀ op ∈ extract rt others rawText, op.asserts (py "negative") →
      ¬ OnlyAffirmed rt adverbs (collapse (strip rawText)) op.value

/-- The "thích" of the clause is that of `l`. -/
def Clause.IsAt (text : PyStr) (c : Clause) (l : Liking) : Prop :=
  ∃ before lead verb after rest, text = before ++ (c.head ++ (c.segment ++ after)) ∧
    c.head = lead ++ (verb ++ rest) ∧ rt.same verb (py "thích") = true ∧ l.before = before ++ lead

/-- The clause is negated by a "không" that does not stand in its head. -/
def Clause.Unseen (text : PyStr) (c : Clause) : Prop :=
  c.negated = false ∧ ∃ l ∈ likings rt text, c.IsAt rt text l ∧ saysNot rt adverbs l.before = true

/-- Every name, and every item of a clause with an unseen "không", among the items of which operations are made
is also mentioned where no "không" negates. -/
def NamesAffirmed (text : PyStr) : Prop :=
  2 ≤ (statedItems rt text).length → ∀ stated ∈ (statedItems rt text).take maxOperationsPerUtterance,
    isPersonAffinityValue rt stated.2 = true ∨ stated.1.Unseen rt adverbs text →
      ∃ l ∈ likings rt text, Mentions rt l.content stated.2 ∧ saysNot rt adverbs l.before = false

end

section
variable {rt : ExtractorRuntime} {adverbs : List PyStr} {text s t u : PyStr}

theorem isEdge_space {c : CodePoint} (h : isSpace c = true) : isEdge c = true := by
  rw [isEdge, h, Bool.true_or]

theorem isEdge_mark {c : CodePoint} (h : c ∈ py ".!,") : isEdge c = true := by
  rw [isEdge, decide_eq_true h, Bool.or_true]

/-! ### letter case -/

theorem same_iff {w : PyStr} : rt.same u w = true ↔ u.map rt.tables.fold = w.map rt.tables.fold :=
  decide_eq_true_iff

theorem same_length {w : PyStr} (h : rt.same u w = true) : u.length = w.length := by
  have h := congrArg List.length (same_iff.mp h)
  rwa [List.length_map, List.length_map] at h

theorem spells_iff {w : PyStr} : Spells rt.anyCase u w ↔ rt.same u w = true := by
  rw [same_iff]
  unfold Spells
  induction u generalizing w with
  | nil =>
    cases w with
    | nil => exact ⟨fun _ => rfl, fun _ => .nil⟩
    | cons d w => exact iff_of_false (fun h => nomatch h) fun h => nomatch h
  | cons c u ih =>
    cases w with
    | nil => exact iff_of_false (fun h => nomatch h) fun h => nomatch h
    | cons d w =>
      rw [List.forall₂_cons, List.map_cons, List.map_cons, List.cons.injEq, ih]
      exact and_congr_left fun _ => decide_eq_true_iff

theorem same_noSpace {w : PyStr} (hw : w.any isSpace = false) (h : rt.same u w = true) :
    ∀ c ∈ u, isSpace c = false := by
  intro c hc
  have hmem : rt.tables.fold c ∈ w.map rt.tables.fold := same_iff.mp h ▸ List.mem_map_of_mem hc
  obtain ⟨d, hd, hfold⟩ := List.mem_map.mp hmem
  rw [← rt.fold_space, ← hfold, rt.fold_space]
  exact eq_false_of_ne_true fun hspace => List.any_eq_false.mp hw d hd hspace

theorem noSpace_likes : (py "thích").any isSpace = false := by
  rw [py_ofList]
  decide +kernel

theorem noSpace_not : (py "không").any isSpace = false := by
  rw [py_ofList]
  decide +kernel

theorem length_likes : (py "thích").length = 5 := by
  rw [py_ofList]
  rfl

theorem length_not : (py "không").length = 5 := by
  rw [py_ofList]
  rfl

/-! ### "thích" -/

theorem likes_iff : likes rt s = true ↔
    ∃ verb c rest, s = verb ++ c :: rest ∧ rt.same verb (py "thích") = true ∧ isSpace c = true := by
  unfold likes
  rw [Bool.and_eq_true]
  constructor
  · rintro ⟨hverb, hspace⟩
    obtain ⟨c, hc, hspace⟩ := (Option.any_eq_true _ _).mp hspace
    obtain ⟨rest, hrest⟩ := List.head?_eq_some_iff.mp hc
    exact ⟨s.take 5, c, rest, by rw [← hrest, List.take_append_drop], hverb, hspace⟩
  · rintro ⟨verb, c, rest, rfl, hverb, hspace⟩
    have hlen : verb.length = 5 := (same_length hverb).trans length_likes
    rw [← hlen, List.take_left, List.drop_left]
    exact ⟨hverb, hspace⟩

theorem not_likes {a : PyStr} {c : CodePoint} (hc : isSpace c = true) (ha : a.length < 5) :
    likes rt (a ++ c :: s) = false := by
  rw [← Bool.not_eq_true, likes_iff]
  rintro ⟨verb, d, rest, hs, hverb, -⟩
  have hlen : verb.length = 5 := (same_length hverb).trans length_likes
  have hmem : c ∈ verb := by
    have htake := congrArg (List.take 5) hs
    rw [← hlen, List.take_left, List.take_append, List.take_of_length_le (by omega)] at htake
    rw [← htake, hlen, show 5 - a.length = (5 - a.length - 1) + 1 by omega]
    exact List.mem_append_right _ List.mem_cons_self
  rw [same_noSpace noSpace_likes hverb c hmem] at hc
  exact Bool.noConfusion hc

theorem upToLikes_append {t : PyStr} (s : PyStr) (h : ∀ a b, s = a ++ b → b ≠ [] → likes rt (b ++ t) = false) :
    upToLikes rt (s ++ t) = s ++ upToLikes rt t := by
  induction s with
  | nil => rfl
  | cons c s ih =>
    have hhere : ¬ likes rt (c :: (s ++ t)) = true := by
      rw [← List.cons_append, h [] (c :: s) rfl (List.cons_ne_nil c s)]
      exact Bool.false_ne_true
    rw [List.cons_append, upToLikes, if_neg hhere, ih fun a b hab hb => h (c :: a) b (by rw [hab]; rfl) hb]
    rfl

theorem upToLikes_of_likes (h : likes rt s = true) : upToLikes rt s = [] := by
  cases s with
  | nil => rfl
  | cons c s => rw [upToLikes, if_pos h]

theorem mem_likingsFrom {s : PyStr} (hlikes : likes rt s = true) : ∀ a before : PyStr,
    ⟨(a.reverse ++ before).reverse, upToLikes rt (s.drop 5)⟩ ∈ likingsFrom rt before (a ++ s) := by
  intro a
  induction a with
  | nil =>
    intro before
    cases s with
    | nil => exact absurd hlikes (by unfold likes; simp)
    | cons c s =>
      rw [List.nil_append, likingsFrom, if_pos hlikes]
      exact List.mem_cons_self
  | cons c a ih =>
    intro before
    have hmore := ih (c :: before)
    rw [List.reverse_cons, List.append_assoc]
    rw [List.cons_append, likingsFrom]
    split
    · exact List.mem_cons_of_mem _ hmore
    · exact hmore

theorem mem_likings (hlikes : likes rt s = true) (a : PyStr) :
    ⟨a, upToLikes rt (s.drop 5)⟩ ∈ likings rt (a ++ s) := by
  have h := mem_likingsFrom hlikes a []
  rwa [List.append_nil, List.reverse_reverse] at h

/-! ### the head of a clause -/

def spacedRe (words : List PyStr) : Re := .seq (.anyWord words) (.seq (.plus [.space]) .eps)

def notRe : Re := .group 1 (.lits (py "không") (.seq (.plus [.space]) .eps))

def likesRe : Re := .lits (py "thích") (.seq (.plus [.space]) .eps)

def headRe : Re := .seq (.alt (spacedRe connectives) .eps) (.seq (.alt (spacedRe subjects) .eps)
  (.seq (.alt (spacedRe clauseAdverbs) .eps) (.seq (.alt notRe .eps) likesRe)))

theorem rePrefClauseHead_eq : rePrefClauseHead = headRe := by
  unfold rePrefClauseHead headRe spacedRe notRe likesRe connectives subjects clauseAdverbs
  repeat rw [py_ofList]
  decide +kernel

theorem blank_lang {m : Mode} {x : PyStr} (h : (Re.seq (.plus [.space]) .eps).Lang m x) :
    x ≠ [] ∧ ∀ c ∈ x, isSpace c = true := by
  obtain ⟨u, v, rfl, hu, rfl⟩ := h
  rw [List.append_nil]
  refine ⟨(plus_lang hu).1, fun c hc => ?_⟩
  have h := (plus_lang hu).2 c hc
  rwa [List.any_cons, List.any_nil, Bool.or_false] at h

structure Spaced (rt : ExtractorRuntime) (word : PyStr) (x : PyStr) : Prop where
  split : ∃ u gap, x = u ++ gap ∧ rt.same u word = true ∧ gap ≠ [] ∧ ∀ c ∈ gap, isSpace c = true

theorem spaced_lits {word x : PyStr} (h : (Re.lits word (.seq (.plus [.space]) .eps)).Lang rt.anyCase x) :
    Spaced rt word x := by
  obtain ⟨u, gap, rfl, hu, hgap⟩ := lits_lang word h
  obtain ⟨hne, hspace⟩ := blank_lang hgap
  exact ⟨u, gap, rfl, spells_iff.mp hu, hne, hspace⟩

theorem spaced_anyWord {words : List PyStr} {x : PyStr} (h : (spacedRe words).Lang rt.anyCase x) :
    ∃ word ∈ words, Spaced rt word x := by
  obtain ⟨u, gap, rfl, hu, hgap⟩ := h
  obtain ⟨word, hword, hspells⟩ := anyWord_lang hu
  obtain ⟨hne, hspace⟩ := blank_lang hgap
  exact ⟨word, hword, u, gap, rfl, spells_iff.mp hspells, hne, hspace⟩

theorem spaced_not {x : PyStr} (h : notRe.Lang rt.anyCase x) : Spaced rt (py "không") x := by
  unfold notRe at h
  rw [Re.Lang] at h
  exact spaced_lits h

theorem spaced_likes {x : PyStr} (h : likesRe.Lang rt.anyCase x) : Spaced rt (py "thích") x := by
  unfold likesRe at h
  exact spaced_lits h

theorem head_starts (h : headRe.Lang rt.anyCase s) :
    ∃ word x y, s = x ++ y ∧ (word ∈ leadIns ∨ word = py "thích") ∧ Spaced rt word x := by
  unfold headRe at h
  unfold leadIns
  rcases optional_lang h with ⟨u, v, rfl, hu, -⟩ | h
  · obtain ⟨word, hword, hspaced⟩ := spaced_anyWord hu
    exact ⟨word, u, v, rfl, .inl (List.mem_append_left _ hword), hspaced⟩
  rcases optional_lang h with ⟨u, v, rfl, hu, -⟩ | h
  · obtain ⟨word, hword, hspaced⟩ := spaced_anyWord hu
    exact ⟨word, u, v, rfl, .inl (List.mem_append_right _ (List.mem_append_left _ hword)), hspaced⟩
  rcases optional_lang h with ⟨u, v, rfl, hu, -⟩ | h
  · obtain ⟨word, hword, hspaced⟩ := spaced_anyWord hu
    exact ⟨word, u, v, rfl, .inl (List.mem_append_right _ (List.mem_append_right _
      (List.mem_append_left _ hword))), hspaced⟩
  rcases optional_lang h with ⟨u, v, rfl, hu, -⟩ | h
  · exact ⟨py "không", u, v, rfl, .inl (List.mem_append_right _ (List.mem_append_right _
      (List.mem_append_right _ (List.mem_singleton_self _)))), spaced_not hu⟩
  · exact ⟨py "thích", s, [], (List.append_nil _).symm, .inr rfl, spaced_likes h⟩

theorem head_ne_nil (h : headRe.Lang rt.anyCase s) : s ≠ [] := by
  obtain ⟨word, x, y, rfl, -, ⟨u, gap, rfl, -, hne, -⟩⟩ := head_starts h
  exact fun e => hne (List.append_eq_nil_iff.mp (List.append_eq_nil_iff.mp e).1).2

theorem spacedRe_bodies (words : List PyStr) : (spacedRe words).bodies = [] := by
  show (Re.anyWord words).bodies ++ [] = []
  rw [anyWord_bodies]
  rfl

theorem head_reads {p q : At} (h : q ∈ headRe.runs rt.anyCase p) (hp : p.groups = []) :
    ∃ lead no v, Reads (lead ++ (no ++ v)) p q ∧ Spaced rt (py "thích") v ∧
      ((q.groups.lookup 1).isSome = true → Spaced rt (py "không") no) := by
  unfold headRe at h
  obtain ⟨w1, r1, hr1, hp1, h⟩ := optional_reads (spacedRe_bodies connectives) h hp
  obtain ⟨w2, r2, hr2, hp2, h⟩ := optional_reads (spacedRe_bodies subjects) h hp1
  obtain ⟨w3, r3, hr3, hp3, h⟩ := optional_reads (spacedRe_bodies clauseAdverbs) h hp2
  have hlead := hr1.append (hr2.append hr3)
  rcases mem_runs_optional.mp h with ⟨r4, h4, h5⟩ | h5
  · obtain ⟨no, hno, hnot⟩ := runs_lang notRe r3 r4 h4
    obtain ⟨v, hv, hlikes⟩ := runs_lang likesRe r4 q h5
    exact ⟨_, no, v, hlead.append (hno.append hv), spaced_likes hlikes, fun _ => spaced_not hnot⟩
  · -- no group is set on the way without "không"
    obtain ⟨v, hv, hlikes⟩ := runs_lang likesRe r3 q h5
    have hbodies : likesRe.bodies = [] := by
      unfold likesRe
      exact lits_bodies _ _
    refine ⟨_, [], v, hlead.append hv, spaced_likes hlikes, fun hset => ?_⟩
    rw [runs_groups_eq hbodies r3 q h5, hp3] at hset
    exact Bool.noConfusion hset

theorem runs_of_likes (h : likes rt s = true) (before : PyStr) :
    headRe.runs rt.anyCase ⟨before, s, []⟩ ≠ [] := by
  obtain ⟨verb, c, rest, rfl, hverb, hspace⟩ := likes_iff.mp h
  have hone : Re.First rt.anyCase (.one false [.space]) ⟨verb.reverse ++ before, c :: rest, []⟩
      ⟨c :: (verb.reverse ++ before), rest, []⟩ := by
    refine Re.First.one rfl ?_
    rw [List.any_cons, List.any_nil, Bool.or_false, Bool.bne_false]
    exact hspace
  have hgap := (hone.seq (@Re.First.star rt.anyCase false [.space] _)).seq Re.First.eps
  have hlikes : ∃ q, q ∈ likesRe.runs rt.anyCase ⟨before, verb ++ c :: rest, []⟩ := by
    unfold likesRe
    exact ⟨_, mem_runs_lits (spells_iff.mpr hverb) (List.mem_of_head? hgap)⟩
  obtain ⟨q, hq⟩ := hlikes
  unfold headRe
  refine @List.ne_nil_of_mem _ q _ ?_
  exact mem_runs_optional.mpr (.inr (mem_runs_optional.mpr (.inr (mem_runs_optional.mpr (.inr
    (mem_runs_optional.mpr (.inr hq)))))))

/-! ### the clauses -/

theorem split_append_word {k : PyStr} (hk : IsWord k) (s : PyStr) :
    ∃ ws v, split (s ++ k) = ws ++ [v ++ k] := by
  induction s using words_induct with
  | nil => exact ⟨[], [], split_word hk.1 hk.2⟩
  | space c s hc ih =>
    rw [List.cons_append, split_cons_space hc]
    exact ih
  | word w hne hw =>
    refine ⟨[], w, split_word (List.append_ne_nil_of_left_ne_nil hne k) fun c hc => ?_⟩
    rcases List.mem_append.mp hc with hc | hc
    · exact hw c hc
    · exact hk.2 c hc
  | cons w c s hne hw hc ih =>
    obtain ⟨ws, v, hsplit⟩ := ih
    refine ⟨w :: ws, v, ?_⟩
    rw [List.append_assoc, List.cons_append, split_append_space hc, split_word hne hw, hsplit]
    rfl

theorem saysNot_not {no : PyStr} (h : Spaced rt (py "không") no) (s : PyStr) :
    saysNot rt adverbs (s ++ no) = true := by
  obtain ⟨k, gap, rfl, hk, hne, hgap⟩ := h
  have hlen : k.length = 5 := (same_length hk).trans length_not
  have hword : IsWord k := by
    refine ⟨?_, same_noSpace noSpace_not hk⟩
    rintro rfl
    exact nomatch hlen
  obtain ⟨ws, v, hsplit⟩ := split_append_word hword s
  unfold saysNot
  rw [← List.append_assoc, split_append_spaces hgap, hsplit, List.reverse_concat, saysNotWords,
    List.getLast?_append_of_ne_nil _ hne, List.getLast?_eq_some_getLast hne, List.length_append, hlen,
    Nat.add_sub_cancel, List.drop_left, hk, Bool.true_or, Bool.and_true]
  exact hgap _ (List.getLast_mem hne)

theorem length_leadIns : ∀ w ∈ leadIns, w.length ≤ 5 := by
  unfold leadIns connectives subjects clauseAdverbs
  repeat rw [py_ofList]
  decide

/-- What follows the objects of a clause up to the next "thích": nothing, or the word the next clause begins with. -/
theorem upToLikes_head {w : PyStr} (h : headRe.Lang rt.anyCase w) (t : PyStr) :
    upToLikes rt (w ++ t) = [] ∨ ∃ v ∈ leadIns, rt.same ((upToLikes rt (w ++ t)).take v.length) v = true := by
  by_cases hlikes : likes rt (w ++ t) = true
  · exact .inl (upToLikes_of_likes hlikes)
  · obtain ⟨v, x, y, rfl, hv, u, gap, rfl, hu, hne, hgap⟩ := head_starts h
    obtain ⟨d, gap, rfl⟩ := List.exists_cons_of_ne_nil hne
    have hd : isSpace d = true := hgap d List.mem_cons_self
    have hsplit : u ++ d :: gap ++ y ++ t = u ++ d :: (gap ++ (y ++ t)) := by
      simp only [List.append_assoc, List.cons_append]
    rw [hsplit] at hlikes ⊢
    rcases hv with hv | rfl
    · refine .inr ⟨v, hv, ?_⟩
      have hlen : u.length = v.length := same_length hu
      have hshort := length_leadIns v hv
      rw [upToLikes_append u, ← hlen, List.take_left]
      · exact hu
      · intro a b hab hb
        cases a with
        | nil =>
          rw [List.nil_append] at hab
          exact hab ▸ eq_false_of_ne_true hlikes
        | cons c a =>
          refine not_likes hd ?_
          have h := congrArg List.length hab
          rw [List.length_append, List.length_cons] at h
          omega
    · exact absurd (likes_iff.mpr ⟨u, d, _, rfl, hu, hd⟩) hlikes

theorem standsIn_content {gap segment after item : PyStr} (hgap : ∀ c ∈ gap, isSpace c = true)
    (hafter : after = [] ∨ ∃ w t, after = w ++ t ∧ headRe.Lang rt.anyCase w)
    (h : Phrase isEdge segment item) : StandsIn rt (gap ++ (segment ++ upToLikes rt after)) item := by
  obtain ⟨x, y, rfl, hx, hy⟩ := h
  refine ⟨gap ++ x, y ++ upToLikes rt after, by simp only [List.append_assoc], ?_, ?_⟩
  · exact getLast?_all_append (getLast?_all_of_forall fun c hc => isEdge_space (hgap c hc)) hx
  · cases y with
    | cons c y => exact .inl hy
    | nil =>
      rw [List.nil_append]
      rcases hafter with rfl | ⟨w, t, rfl, hw⟩
      · exact .inl rfl
      · rcases upToLikes_head hw t with hnil | hlead
        · rw [hnil]
          exact .inl rfl
        · exact .inr hlead

/-- A clause belongs to a "thích" of the text.  Where "không" stands in its head it negates, and what stands in its
objects stands in what follows the "thích". -/
theorem clause_liking (adverbs : List PyStr) {c : Clause} (hc : c ∈ clauses rt text) : ∃ l ∈ likings rt text,
    c.IsAt rt text l ∧ (c.negated = true → saysNot rt adverbs l.before = true) ∧
      ∀ item, Phrase isEdge c.segment item → StandsIn rt l.content item := by
  obtain ⟨piece, hpiece, rfl⟩ := List.mem_map.mp hc
  rw [rePrefClauseHead_eq] at hpiece
  obtain ⟨before, after, htext, hstands⟩ := mem_cut (fun w hw => head_ne_nil hw) hpiece
  obtain ⟨lead, no, v, hreads, ⟨verb, gap, rfl, hverb, hne, hgap⟩, hnot⟩ :=
    head_reads (List.mem_of_head? hstands.found) rfl
  have hhead : piece.head = lead ++ (no ++ (verb ++ gap)) := List.append_cancel_right hreads.1
  have hrest : text = (before ++ (lead ++ no)) ++ (verb ++ (gap ++ (piece.tail ++ after))) := by
    rw [htext, hhead]
    simp only [List.append_assoc]
  have hlikes : likes rt (verb ++ (gap ++ (piece.tail ++ after))) = true := by
    obtain ⟨d, gap', rfl⟩ := List.exists_cons_of_ne_nil hne
    exact likes_iff.mpr ⟨verb, d, _, rfl, hverb, hgap d List.mem_cons_self⟩
  have hcontent : upToLikes rt ((verb ++ (gap ++ (piece.tail ++ after))).drop 5) =
      gap ++ (piece.tail ++ upToLikes rt after) := by
    rw [show 5 = verb.length from ((same_length hverb).trans length_likes).symm, List.drop_left,
      upToLikes_append gap, upToLikes_append piece.tail]
    · -- no head begins in the objects
      intro a b hab hb
      rw [← Bool.not_eq_true]
      exact fun h => runs_of_likes h _ (hstands.quiet a b hab hb)
    · intro a b hab hb
      obtain ⟨d, b', rfl⟩ := List.exists_cons_of_ne_nil hb
      exact not_likes (a := []) (hgap d (by rw [hab]; exact List.mem_append_right _ List.mem_cons_self))
        (Nat.zero_lt_succ 4)
  have hmem := mem_likings hlikes (before ++ (lead ++ no))
  rw [← hrest, hcontent] at hmem
  refine ⟨_, hmem, ⟨before, lead ++ no, verb, after, gap, htext, ?_, hverb, rfl⟩, fun hneg => ?_, fun item h => ?_⟩
  · rw [hhead, List.append_assoc]
  · rw [← List.append_assoc]
    exact saysNot_not (hnot hneg) _
  · exact standsIn_content hgap hstands.next h


/-! ### the items of a clause -/

theorem phrase_dropMarkers (markers ws : List PyStr) :
    Phrase isEdge (joinWith [space] ws) (joinWith [space] (dropMarkers rt markers ws)) := by
  induction ws using dropMarkers.induct rt markers with
  | case1 a b ws ha ih =>
    rw [dropMarkers, if_pos ha]
    exact (phrase_tail rfl a (List.cons_ne_nil b ws)).trans ih
  | case2 a b ws ha =>
    rw [dropMarkers, if_neg ha]
    exact .refl _
  | case3 ws hshort =>
    rw [dropMarkers]
    · exact .refl _
    · exact hshort

theorem phrase_dropLast (markers ws : List PyStr) :
    Phrase isEdge (joinWith [space] ws.reverse) (joinWith [space] (dropMarkers rt markers ws).reverse) := by
  induction ws using dropMarkers.induct rt markers with
  | case1 a b ws ha ih =>
    rw [dropMarkers, if_pos ha, List.reverse_cons]
    refine (phrase_init rfl a ?_).trans ih
    rw [List.reverse_cons]
    exact List.concat_ne_nil _ _
  | case2 a b ws ha =>
    rw [dropMarkers, if_neg ha]
    exact .refl _
  | case3 ws hshort =>
    rw [dropMarkers]
    · exact .refl _
    · exact hshort

theorem phrase_stripDiscourse (h : Tight s) : Phrase isEdge s (stripDiscourseMarker rt s) := by
  have hdrop := @phrase_dropLast rt discourseMarkerSuffixes (split s).reverse
  rw [List.reverse_reverse, h.joinWith_split] at hdrop
  exact ((phrase_strip (fun _ => isEdge_space) s).trans hdrop).trans (phrase_strip (fun _ => isEdge_space) _)

theorem phrase_stripAdditive (h : Tight s) : Phrase isEdge s (stripAdditiveTargetMarker rt s) := by
  have hdrop := @phrase_dropMarkers rt additiveTargetPrefixes (split s)
  rw [h.joinWith_split] at hdrop
  have hvalue := ((phrase_strip (fun _ => isEdge_space) s).trans hdrop).trans (phrase_strip (fun _ => isEdge_space) _)
  exact hvalue.trans (phrase_stripDiscourse (h.part hvalue.isInfix))

def asWellRe : Re := .seq (.plus [.space]) (.seq (.anyWord subjects) (.seq (.plus [.space]) (.lits (py "cũng")
  (.seq (.plus [.space]) (.lits (py "vậy") (.seq (.star true (.one false [.space])) (.seq .lineEnd .eps)))))))

theorem reAsWell_eq : reAsWell = asWellRe := by
  unfold reAsWell asWellRe subjects
  repeat rw [py_ofList]
  decide +kernel

theorem asWellRe_anchored : asWellRe.anchored = true := by
  rw [← reAsWell_eq]
  unfold reAsWell
  rw [py_ofList]
  decide +kernel

theorem asWellRe_starts {w : PyStr} (h : asWellRe.Lang rt.anyCase w) : ∃ c t, w = c :: t ∧ isSpace c = true := by
  unfold asWellRe at h
  obtain ⟨u, v, rfl, hu, -⟩ := h
  obtain ⟨hne, hspace⟩ := plus_lang hu
  obtain ⟨c, u, rfl⟩ := List.exists_cons_of_ne_nil hne
  have hc := hspace c List.mem_cons_self
  rw [List.any_cons, List.any_nil, Bool.or_false] at hc
  exact ⟨c, _, rfl, hc⟩

theorem phrase_reAsWell (h : Tight s) : Phrase isEdge s (reAsWell.removeAll rt.anyCase s) := by
  rw [reAsWell_eq]
  have hline : newline ∉ s := fun hmem => absurd (h.spaces newline hmem rfl) (by decide)
  obtain ⟨t, hs, ht⟩ := removeAll_anchored rfl asWellRe_anchored (fun w hw => asWellRe_starts hw) hline
  refine ⟨[], t, hs, rfl, ?_⟩
  cases hhead : t.head? with
  | none => rfl
  | some c => exact isEdge_space (ht c hhead)

theorem phrase_cleanItem (h : Tight s) : Phrase isEdge s (cleanItem rt s) := by
  have hcore : Phrase isEdge s (rstripOf (py ".!,") (strip s)) :=
    (phrase_strip (fun _ => isEdge_space) s).trans (phrase_rstripOf (fun c hc => isEdge_mark hc) _)
  have hitem := hcore.trans (phrase_strip (fun _ => isEdge_space) _)
  have htight := h.part hitem.isInfix
  unfold cleanItem
  dsimp only
  rw [(h.part hcore.isInfix).collapse]
  split_ifs with hnil
  · exact (hitem.trans (phrase_reAsWell htight)).trans (phrase_strip (fun _ => isEdge_space) _)
  · have hmarked := hitem.trans (@phrase_stripAdditive rt _ htight)
    exact (hmarked.trans (phrase_reAsWell (h.part hmarked.isInfix))).trans (phrase_strip (fun _ => isEdge_space) _)

theorem mem_distributeVerb {parts : List PyStr} {item : PyStr} (h : item ∈ distributeVerb rt parts) :
    item ∈ parts ∨ ∃ verb ∈ foodVerbPrefixes, ∃ first ∈ parts, ∃ object ∈ parts,
      item = verb ++ object ∧ startsWith (rt.lower first) verb = true := by
  cases parts with
  | nil => exact .inl h
  | cons first parts =>
    rw [distributeVerb] at h
    cases hverb : foodVerbPrefixes.find? (startsWith (rt.lower first)) with
    | none =>
      rw [hverb] at h
      exact .inl h
    | some verb =>
      rw [hverb] at h
      obtain ⟨object, hobject, rfl⟩ := List.mem_map.mp h
      split
      · exact .inl hobject
      · exact .inr ⟨verb, List.mem_of_find?_eq_some hverb, first, List.mem_cons_self, object, hobject, rfl,
          List.find?_some hverb⟩

theorem mem_splitItems (h : Tight s) {item : PyStr} (hitem : item ∈ splitItems rt s) :
    Phrase isEdge s item ∨ ∃ verb ∈ foodVerbPrefixes, ∃ first object, item = verb ++ object ∧
      Phrase isEdge s first ∧ startsWith (rt.lower first) verb = true ∧ Phrase isEdge s object := by
  have hcomma : ∃ c ∈ (py ",").head?, isEdge c = true :=
    ⟨44, by rw [py_ofList]; rfl, isEdge_mark (by rw [py_ofList]; decide)⟩
  have hcomma' : ∃ c ∈ (py ",").getLast?, isEdge c = true :=
    ⟨44, by rw [py_ofList]; rfl, isEdge_mark (by rw [py_ofList]; decide)⟩
  have hand : ∃ c ∈ (py " và ").head?, isEdge c = true := ⟨32, by rw [py_ofList]; rfl, rfl⟩
  have hand' : ∃ c ∈ (py " và ").getLast?, isEdge c = true := ⟨32, by rw [py_ofList]; rfl, rfl⟩
  have hparts : ∀ p ∈ (((splitSep (py ",") s).flatMap (splitSep (py " và "))).map (cleanItem rt)).filter (· ≠ []),
      Phrase isEdge s p := by
    intro p hp
    obtain ⟨chunk, hchunk, rfl⟩ := List.mem_map.mp (List.mem_filter.mp hp).1
    obtain ⟨piece, hpiece, hchunk⟩ := List.mem_flatMap.mp hchunk
    have hstands := (phrase_splitSep hcomma hcomma' hpiece).trans (phrase_splitSep hand hand' hchunk)
    exact hstands.trans (phrase_cleanItem (h.part hstands.isInfix))
  rcases mem_distributeVerb hitem with hmem | ⟨verb, hverb, first, hfirst, object, hobject, rfl, hstarts⟩
  · exact .inl (hparts item hmem)
  · exact .inr ⟨verb, hverb, first, object, rfl, hparts first hfirst, hstarts, hparts object hobject⟩

/-- The items of a clause are mentioned after its "thích"; "không" in its head negates that. -/
theorem items_mentioned (adverbs : List PyStr) (htight : Tight text) {c : Clause} (hc : c ∈ clauses rt text) :
    ∃ l ∈ likings rt text, c.IsAt rt text l ∧ (c.negated = true → saysNot rt adverbs l.before = true) ∧
      ∀ item ∈ c.items rt, Mentions rt l.content item := by
  obtain ⟨l, hl, hat, hneg, hlift⟩ := clause_liking adverbs hc
  refine ⟨l, hl, hat, hneg, fun item hitem => ?_⟩
  obtain ⟨before, _, _, after, _, htext, -⟩ := hat
  have hsegment : c.segment <:+: text := ⟨before ++ c.head, after, by rw [htext]; simp only [List.append_assoc]⟩
  have hcore : Phrase isEdge c.segment (rstripOf (py ",") (strip c.segment)) := by
    refine (phrase_strip (fun _ => isEdge_space) _).trans (phrase_rstripOf (fun d hd => isEdge_mark ?_) _)
    rw [py_ofList] at hd ⊢
    rw [List.mem_singleton.mp hd]
    decide
  have htight' := (htight.part hsegment).part hcore.isInfix
  rcases mem_splitItems htight' hitem with hitem | ⟨verb, hverb, first, object, rfl, hfirst, hstarts, hobject⟩
  · exact .inl (hlift item (hcore.trans hitem))
  · exact .inr ⟨verb, hverb, first, object, rfl, hlift first (hcore.trans hfirst), hstarts,
      hlift object (hcore.trans hobject)⟩

/-! ### polarity -/

theorem not_onlyNegated_iff {item : PyStr} (h : ∃ l ∈ likings rt text, Mentions rt l.content item) :
    ¬ OnlyNegated rt adverbs text item ↔
      ∃ l ∈ likings rt text, Mentions rt l.content item ∧ saysNot rt adverbs l.before = false := by
  constructor
  · intro hnot
    by_contra hnone
    refine hnot ⟨h, fun l hl hmentions => ?_⟩
    rw [← Bool.not_eq_false]
    exact fun hneg => hnone ⟨l, hl, hmentions, hneg⟩
  · rintro ⟨l, hl, hmentions, hneg⟩ honly
    exact Bool.noConfusion (hneg.symm.trans (honly.negated l hl hmentions))

end

section
variable {rt : ExtractorRuntime} {adverbs : List PyStr} {text : PyStr}

/-! ### two sentences -/

theorem statedItems_of_clause {c : Clause} {a b : PyStr} (hclauses : clauses rt text = [c])
    (hitems : c.items rt = [a, b]) (ha : validItem rt a = true) (hb : validItem rt b = true) :
    statedItems rt text = [(c, a), (c, b)] := by
  unfold statedItems
  rw [hclauses, List.flatMap_singleton, hitems, List.filter_cons_of_pos ha, List.filter_cons_of_pos hb,
    List.filter_nil, List.map_cons, List.map_cons, List.map_nil]

/-- A sentence with one "thích" under "không", and an item there that is stated as a positive one. -/
theorem not_keepsPolarity_of {others : ComplexityReason → PyStr → List MemoryOperation} {l : Liking}
    (stated : Clause × PyStr) (hcollapse : collapse (strip text) = text)
    (hdetect : detectMemoryComplexity rt text = some .multiFactPreference)
    (htwo : (statedItems rt text).length = 2) (hmem : stated ∈ statedItems rt text)
    (hpositive : isPersonAffinityValue rt stated.2 = true ∨ stated.1.negated = false)
    (hlikings : likings rt text = [l]) (hstands : StandsIn rt l.content stated.2)
    (hneg : saysNot rt adverbs l.before = true) : ¬ KeepsPolarity rt adverbs others text := by
  intro h
  have hpreference : preferenceSentence rt (collapse (strip text)) = true := by
    unfold preferenceSentence
    rw [hcollapse, hdetect]
    exact decide_eq_true (List.mem_cons_of_mem _ List.mem_cons_self)
  have hop : itemOperation rt (collapse (strip text)) stated ∈ extract rt others text := by
    refine (mem_extract hpreference).mpr ?_
    rw [hcollapse, List.take_of_length_le (htwo.trans_le (by decide))]
    exact ⟨htwo.ge, stated, hmem, rfl⟩
  refine h.positive hpreference _ hop (itemOperation_asserts.mpr (itemOperation_positive.mpr hpositive)) ?_
  rw [hcollapse]
  refine ⟨⟨l, ?_, .inl hstands⟩, fun l' hl' _ => ?_⟩
  · rw [hlikings]
    exact List.mem_singleton_self l
  · rw [hlikings] at hl'
    rw [List.mem_singleton.mp hl']
    exact hneg

end

theorem plainTables_space (c : CodePoint) : isSpace (IntentParser.plainTables.fold c) = isSpace c := by
  unfold IntentParser.plainTables isUpper
  dsimp only
  split_ifs with hupper hbar
  · have h := (Bool.and_eq_true _ _).mp hupper
    have hle := of_decide_eq_true h.1
    have hge := of_decide_eq_true h.2
    have hval : (c + 32).val = c.val + 32 := by
      rw [Fin.val_add]
      exact Nat.mod_eq_of_lt (by omega)
    unfold isSpace
    rw [hval, Bool.eq_iff_iff]
    simp only [Bool.or_eq_true, Bool.and_eq_true, decide_eq_true_eq, beq_iff_eq]
    omega
  · rw [hbar]
    decide
  · rfl

/-- ASCII letters and digits, and the Vietnamese letters of the tables. -/
def plainExtractor : ExtractorRuntime := { asciiUnicode with
  tables := IntentParser.plainTables
  fold_space := plainTables_space
  charIsDigit := isDigit
  charIsUpper := isUpper
  charIsAlpha := fun c => isUpper c || isLower c || decide (c ∈ py vietnameseLetters) }

def dislikesNam : PyStr := py "tôi không thích bơi, Nam"

def nameClause : Clause := ⟨py "tôi không thích ", true, py "bơi, Nam"⟩

theorem dislikesNam_facts : collapse (strip dislikesNam) = dislikesNam ∧
    detectMemoryComplexity plainExtractor dislikesNam = some .multiFactPreference ∧
    clauses plainExtractor dislikesNam = [nameClause] ∧
    nameClause.items plainExtractor = [py "bơi", py "Nam"] ∧
    validItem plainExtractor (py "bơi") = true ∧ validItem plainExtractor (py "Nam") = true ∧
    isPersonAffinityValue plainExtractor (py "Nam") = true := by
  unfold detectMemoryComplexity isCoKhongQuestion isTechnicalExplanationRequest isRemoveAllAffection
    isRelationAdjacentAffection isMixedPolarity reCxCorrectionName reCxCorrectionRel reCxRemoveAllAffection
    reCxInverseAffection reCxRelationAdjacentAffection reCxContrastSkill reTechnicalExplanationLead
    reTechnicalComparison rePreferenceLead reSkillLead reCoKhongQuestion reBareAI explanationGuards clauses
    rePrefClauseHead Clause.items splitItems cleanItem stripAdditiveTargetMarker stripDiscourseMarker
    additiveTargetPrefixes discourseMarkerSuffixes distributeVerb foodVerbPrefixes reAsWell validItem
    isUnsafeOrSensitiveAutoValue unsafeValueExact unsafeValuePhrases unsafeValueTokens isPersonAffinityValue
    knownNonPersonConcepts commonObjectTokens hasProfessionalToken hasPersonalToken vnProfessionalSingle
    professionalTokens personalTokens plainExtractor dislikesNam nameClause
  repeat rw [py_ofList]
  decide +kernel

theorem dislikesNam_stated (adverbs : List PyStr) :
    likings plainExtractor dislikesNam = [⟨py "tôi không ", py " bơi, Nam"⟩] ∧
    saysNot plainExtractor adverbs (py "tôi không ") = true ∧
    StandsIn plainExtractor (py " bơi, Nam") (py "Nam") := by
  refine ⟨?_, ?_, py " bơi, ", [], ?_, ?_, .inl rfl⟩
  · unfold likings dislikesNam plainExtractor
    repeat rw [py_ofList]
    decide +kernel
  · have hno : Spaced plainExtractor (py "không") (py "không ") := by
      refine ⟨py "không", [space], ?_, ?_, List.cons_ne_nil _ _, ?_⟩
      · rw [py_ofList, py_ofList]
        decide +kernel
      · exact same_iff.mpr rfl
      · intro c hc
        rw [List.mem_singleton.mp hc]
        rfl
    have hsplit : py "tôi không " = py "tôi " ++ py "không " := by
      repeat rw [py_ofList]
      decide +kernel
    rw [hsplit]
    exact saysNot_not hno _
  · repeat rw [py_ofList]
    decide +kernel
  · repeat rw [py_ofList]
    decide +kernel

def noLonger : PyStr := py "tôi không còn thích ăn cay và uống trà"

/-- Its only clause: no "không" stands right before "thích". -/
def noLongerClause : Clause := ⟨py "còn thích ", false, py "ăn cay và uống trà"⟩

theorem noLonger_facts : collapse (strip noLonger) = noLonger ∧
    detectMemoryComplexity plainExtractor noLonger = some .multiFactPreference ∧
    clauses plainExtractor noLonger = [noLongerClause] ∧
    noLongerClause.items plainExtractor = [py "ăn cay", py "uống trà"] ∧
    validItem plainExtractor (py "ăn cay") = true ∧ validItem plainExtractor (py "uống trà") = true := by
  unfold detectMemoryComplexity isCoKhongQuestion isTechnicalExplanationRequest isRemoveAllAffection
    isRelationAdjacentAffection isMixedPolarity reCxCorrectionName reCxCorrectionRel reCxRemoveAllAffection
    reCxInverseAffection reCxRelationAdjacentAffection reCxContrastSkill reTechnicalExplanationLead
    reTechnicalComparison rePreferenceLead reSkillLead reCoKhongQuestion reBareAI explanationGuards clauses
    rePrefClauseHead Clause.items splitItems cleanItem stripAdditiveTargetMarker stripDiscourseMarker
    additiveTargetPrefixes discourseMarkerSuffixes distributeVerb foodVerbPrefixes reAsWell validItem
    isUnsafeOrSensitiveAutoValue unsafeValueExact unsafeValuePhrases unsafeValueTokens
    plainExtractor noLonger noLongerClause
  repeat rw [py_ofList]
  decide +kernel

theorem noLonger_stated :
    likings plainExtractor noLonger = [⟨py "tôi không còn ", py " ăn cay và uống trà"⟩] ∧
    saysNot plainExtractor [py "còn"] (py "tôi không còn ") = true ∧
    StandsIn plainExtractor (py " ăn cay và uống trà") (py "ăn cay") := by
  refine ⟨?_, ?_, py " ", py " và uống trà", ?_, ?_, .inl ?_⟩
  · unfold likings noLonger plainExtractor
    repeat rw [py_ofList]
    decide +kernel
  · unfold saysNot plainExtractor
    repeat rw [py_ofList]
    decide +kernel
  · repeat rw [py_ofList]
    decide +kernel
  · rw [py_ofList]
    decide +kernel
  · rw [py_ofList]
    decide +kernel

end Tomtit
