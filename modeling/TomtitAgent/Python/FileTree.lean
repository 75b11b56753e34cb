import TomtitAgent.Python.Lines
import TomtitAgent.Python.Order

/-!
# A tree of files

The files below one directory, by the components of their paths, on a file system that keeps what
is written and tells upper from lower case.  Directories are implicit.

* `FileTree`, `read?`, `write`, `remove`, `rename`   the tree and its operations;
* `names`   the files of one directory;
* `Keeps`   one tree keeps the files of another, on a set of paths;
* `stem`, `endsWith`   `PurePath.stem` and `str.endswith`.
-/

namespace Py

abbrev Path := List PyStr

/-- The contents of the files, each path at most once. -/
structure FileTree where
  files : List (Path × Bytes)
  nodup : (files.map Prod.fst).Nodup

namespace FileTree

def empty : FileTree := ⟨[], List.nodup_nil⟩

def read? (t : FileTree) (p : Path) : Option Bytes := assoc t.files p

/-- The files without the one at `p`. -/
def remove (t : FileTree) (p : Path) : FileTree where
  files := t.files.filter fun kv => kv.1 ≠ p
  nodup := (List.filter_sublist.map Prod.fst).nodup t.nodup

def write (t : FileTree) (p : Path) (b : Bytes) : FileTree where
  files := (p, b) :: (t.remove p).files
  nodup := by
    rw [List.map_cons, List.nodup_cons]
    refine ⟨fun h => ?_, (t.remove p).nodup⟩
    obtain ⟨kv, hkv, e⟩ := List.mem_map.mp h
    exact absurd e (of_decide_eq_true (List.mem_filter.mp hkv).2)

/-- `os.replace(p, q)` -/
def rename (t : FileTree) (p q : Path) : FileTree :=
  match t.read? p with
  | none => t
  | some b => (t.remove p).write q b

theorem read?_empty (p : Path) : empty.read? p = none := rfl

theorem read?_remove (t : FileTree) (p q : Path) :
    (t.remove p).read? q = if q = p then none else t.read? q := by
  show assoc (t.files.filter fun kv => kv.1 ≠ p) q = if q = p then none else assoc t.files q
  induction t.files with
  | nil =>
    split_ifs
    · rfl
    · rfl
  | cons kv files ih =>
    obtain ⟨k, b⟩ := kv
    by_cases hk : k = p
    · subst hk
      rw [List.filter_cons, if_neg (by simp), ih, assoc_cons]
      split_ifs with h
      · rfl
      · rfl
    · rw [List.filter_cons, if_pos (decide_eq_true hk), assoc_cons, assoc_cons, ih]
      by_cases hq : q = k
      · rw [if_pos hq, if_pos hq, if_neg (hq ▸ hk)]
      · rw [if_neg hq, if_neg hq]

theorem read?_write (t : FileTree) (p q : Path) (b : Bytes) :
    (t.write p b).read? q = if q = p then some b else t.read? q := by
  have h := read?_remove t p q
  show assoc ((p, b) :: (t.remove p).files) q = _
  rw [assoc_cons]
  by_cases hq : q = p
  · rw [if_pos hq, if_pos hq]
  · rw [if_neg hq, if_neg hq]
    rw [if_neg hq] at h
    exact h

theorem read?_write_self (t : FileTree) (p : Path) (b : Bytes) : (t.write p b).read? p = some b := by
  rw [read?_write, if_pos rfl]

theorem read?_write_other (t : FileTree) {p q : Path} (b : Bytes) (h : q ≠ p) :
    (t.write p b).read? q = t.read? q := by
  rw [read?_write, if_neg h]

theorem read?_remove_other (t : FileTree) {p q : Path} (h : q ≠ p) :
    (t.remove p).read? q = t.read? q := by
  rw [read?_remove, if_neg h]

/-- Writing a file beside its place and renaming it changes the files at its place and beside it. -/
theorem read?_write_rename (t : FileTree) {p q r : Path} (b : Bytes) (hr : r ≠ p) :
    ((t.write p b).rename p q).read? r = if r = q then some b else t.read? r := by
  unfold rename
  rw [read?_write_self]
  show (((t.write p b).remove p).write q b).read? r = _
  rw [read?_write, read?_remove_other _ hr, read?_write_other t b hr]

/-! ### directories -/

/-- The names of the files of a directory, sorted. -/
def names (t : FileTree) (dir : Path) : List PyStr :=
  sorted (t.files.filterMap fun kv => if kv.1.dropLast = dir then kv.1.getLast? else none)

theorem mem_names {t : FileTree} {dir : Path} {n : PyStr} :
    n ∈ t.names dir ↔ ∃ b, t.read? (dir ++ [n]) = some b := by
  have hpath : ∀ p : Path, (if p.dropLast = dir then p.getLast? else none) = some n ↔
      p = dir ++ [n] := by
    intro p
    constructor
    · intro h
      split_ifs at h with hd
      rw [← List.dropLast_append_getLast? n h, hd]
    · rintro rfl
      rw [List.dropLast_concat, if_pos rfl, List.getLast?_concat]
  unfold names read?
  rw [mem_sorted, List.mem_filterMap, assoc_isSome_iff, List.mem_map]
  exact exists_congr fun kv => and_congr_right fun _ => hpath kv.1

/-- On the paths of `P`, every file of `t` is kept in `t'`. -/
def Keeps (P : Path → Prop) (t t' : FileTree) : Prop :=
  ∀ p b, P p → t.read? p = some b → t'.read? p = some b

theorem Keeps.refl (P : Path → Prop) (t : FileTree) : Keeps P t t := fun _ _ _ h => h

theorem Keeps.trans {P : Path → Prop} {t t' t'' : FileTree} (h : Keeps P t t')
    (h' : Keeps P t' t'') : Keeps P t t'' := fun p b hp hb => h' p b hp (h p b hp hb)

end FileTree

/-! ### names -/

/-- `name.endswith(suffix)` -/
def endsWith (name suffix : PyStr) : Bool := suffix.reverse.isPrefixOf name.reverse

/-- `PurePath(name).stem`: the name without its last suffix. -/
def stem (name : PyStr) : PyStr :=
  let suffix := name.reverse.takeWhile (· ≠ 46)
  let base := (name.reverse.dropWhile (· ≠ 46)).drop 1
  if suffix = [] ∨ base = [] then name else base.reverse

theorem stem_append {base suffix : PyStr} (hb : base ≠ []) (hs : suffix ≠ [])
    (h : (46 : CodePoint) ∉ suffix) : stem (base ++ 46 :: suffix) = base := by
  have hall : ∀ c ∈ suffix.reverse, decide (c ≠ 46) = true := by
    intro c hc
    refine decide_eq_true fun e => h ?_
    rw [← e]
    exact List.mem_reverse.mp hc
  have hrev : (base ++ 46 :: suffix).reverse = suffix.reverse ++ 46 :: base.reverse := by
    rw [List.reverse_append, List.reverse_cons, List.append_assoc, List.singleton_append]
  unfold stem
  dsimp only
  rw [hrev, List.takeWhile_append_of_pos hall, List.dropWhile_append_of_pos hall,
    List.takeWhile_cons_of_neg (by simp), List.dropWhile_cons_of_neg (by simp), List.append_nil,
    List.drop_one, List.tail_cons, if_neg, List.reverse_reverse]
  rw [List.reverse_eq_nil_iff, List.reverse_eq_nil_iff, not_or]
  exact ⟨hs, hb⟩

theorem endsWith_iff {name suffix : PyStr} :
    endsWith name suffix = true ↔ ∃ base, name = base ++ suffix := by
  unfold endsWith
  rw [List.isPrefixOf_iff_prefix, List.reverse_prefix]
  exact exists_congr fun base => eq_comm

end Py
