import Mathlib.Data.List.Forall2
import Mathlib.Data.List.Sort
import ApiNotes.Files.Selection
import ApiNotes.Proofs.Entries

/-! # The order of selected paths

Paths are compared by their components, so paths that are spelled differently can be equal. Sorted
and without repetitions, selected paths increase strictly, and which components they have depends
only on which patterns there are.
-/

namespace ApiNotes

section Comparison

theorem Text.compare_eq (s t : Text) : Text.compare s t = Ord.compare s t := by
  induction s generalizing t with
  | nil => cases t <;> rfl
  | cons c s ih =>
    cases t with
    | nil => rfl
    | cons d t => rw [Text.compare, List.compare_cons_cons, ih]

theorem Component.compare_eq :
    Component.compare = compareLex (compareOn Component.rank) (compareOn Component.text) := by
  funext a b
  cases a with
  | name m =>
    cases b with
    | name n => exact Text.compare_eq m n
    | _ => rfl
  | _ => cases b <;> rfl

instance : Std.TransCmp Component.compare := by
  rw [Component.compare_eq]
  infer_instance

instance : Std.LawfulEqCmp Component.compare where
  compare_self := Std.ReflCmp.compare_self
  eq_of_compare {a b} h := by
    rw [Component.compare_eq, compareLex_eq_eq, compareOn, compareOn,
      Std.LawfulEqOrd.compare_eq_iff_eq, Std.LawfulEqOrd.compare_eq_iff_eq] at h
    cases a <;> cases b <;> simp_all [Component.rank, Component.text]

theorem Path.compareComponents_eq :
    Path.compareComponents = List.compareLex Component.compare := by
  funext as bs
  induction as generalizing bs with
  | nil => cases bs <;> rfl
  | cons a as ih =>
    cases bs with
    | nil => rfl
    | cons b bs => rw [Path.compareComponents, List.compareLex_cons_cons, ih]

instance : Std.TransCmp Path.compareComponents := by
  rw [Path.compareComponents_eq]
  infer_instance

instance : Std.LawfulEqCmp Path.compareComponents := by
  rw [Path.compareComponents_eq]
  infer_instance

namespace Path

theorem compareComponents_self (as : List Component) : compareComponents as as = .eq :=
  Std.ReflCmp.compare_self

theorem compareComponents_swap (as bs : List Component) :
    compareComponents as bs = (compareComponents bs as).swap :=
  Std.OrientedCmp.eq_swap

instance : Std.Irrefl fun as bs => compareComponents as bs = .lt where
  irrefl as h := by
    rw [compareComponents_self] at h
    cases h

instance : Std.Antisymm fun as bs => compareComponents as bs = .lt where
  antisymm as bs h h' := by
    rw [compareComponents_swap, h] at h'
    cases h'

end Path

end Comparison

namespace Path

def Before (p q : Text) : Prop := compareComponents (components p) (components q) = .lt

variable {p q r : Text}

theorem le_iff : le p q = true ↔ (compareComponents (components p) (components q)).isLE := by
  unfold le
  cases compareComponents (components p) (components q) <;> decide

theorem le_trans (p q r : Text) (hpq : le p q = true) (hqr : le q r = true) : le p r = true := by
  rw [le_iff] at *
  exact Std.TransCmp.isLE_trans hpq hqr

theorem le_total (p q : Text) : (le p q || le q p) = true := by
  rw [Bool.or_eq_true, le_iff, le_iff, compareComponents_swap (components q)]
  cases compareComponents (components p) (components q) <;> decide

theorem same_iff : same p q = true ↔ components p = components q := beq_iff_eq

theorem Before.of_le (h : le p q = true) (hne : components p ≠ components q) : Before p q := by
  rw [le_iff] at h
  unfold Before
  cases hc : compareComponents (components p) (components q) with
  | lt => rfl
  | eq => exact (hne (Std.LawfulEqCmp.eq_of_compare hc)).elim
  | gt => simp [hc] at h

theorem Before.trans_le (h : Before p q) (hqr : le q r = true) : Before p r := by
  rw [le_iff] at hqr
  exact Std.TransCmp.lt_of_lt_of_isLE h hqr

theorem Before.components_ne (h : Before p q) : components p ≠ components q := by
  intro heq
  unfold Before at h
  rw [heq, compareComponents_self] at h
  cases h

end Path

namespace Selection

variable {ps qs fs gs : List Text}

section Order

theorem dedup_sublist (ps : List Text) : (dedup ps).Sublist ps := by
  fun_induction dedup ps with
  | case1 a b ps _ ih => exact ih.trans ((List.sublist_cons_self b ps).cons_cons a)
  | case2 a b ps _ ih => exact ih.cons_cons a
  | case3 ps => exact List.Sublist.refl _

theorem mem_map_components_dedup (ps : List Text) (c : List Component) :
    c ∈ (dedup ps).map Path.components ↔ c ∈ ps.map Path.components := by
  fun_induction dedup ps with
  | case1 a b ps h ih => simp [ih, Path.same_iff.1 h]
  | case2 a b ps h ih => simp only [List.map_cons, List.mem_cons, ih]
  | case3 ps => rfl

theorem pairwise_dedup (h : ps.Pairwise fun p q => Path.le p q = true) :
    (dedup ps).Pairwise Path.Before := by
  fun_induction dedup ps with
  | case1 a b ps _ ih => exact ih (h.sublist ((List.sublist_cons_self b ps).cons_cons a))
  | case2 a b ps hne ih =>
    obtain ⟨ha, hrest⟩ := List.pairwise_cons.1 h
    obtain ⟨hb, -⟩ := List.pairwise_cons.1 hrest
    have hab : Path.Before a b :=
      .of_le (ha b List.mem_cons_self) fun heq => hne (Path.same_iff.2 heq)
    refine List.pairwise_cons.2 ⟨fun p hp => ?_, ih hrest⟩
    rcases List.mem_cons.1 ((dedup_sublist _).subset hp) with rfl | hp
    · exact hab
    · exact hab.trans_le (hb p hp)
  | case3 ps hps =>
    match ps, hps with
    | [], _ => exact .nil
    | [p], _ => exact List.pairwise_singleton _ p
    | p :: q :: ps, hps => exact (hps p q ps rfl).elim

theorem order_subset (ps : List Text) : order ps ⊆ ps := fun _ hp =>
  List.mem_mergeSort.1 ((dedup_sublist _).subset hp)

theorem mem_map_components_order (ps : List Text) (c : List Component) :
    c ∈ (order ps).map Path.components ↔ c ∈ ps.map Path.components := by
  rw [order, mem_map_components_dedup]
  simp only [List.mem_map, List.mem_mergeSort]

theorem pairwise_order (ps : List Text) : (order ps).Pairwise Path.Before :=
  pairwise_dedup (List.pairwise_mergeSort Path.le_trans Path.le_total ps)

theorem order_of_pairwise (h : ps.Pairwise fun p q => Path.le p q = true) :
    order ps = dedup ps := by
  rw [order, List.mergeSort_of_pairwise h]

theorem map_components_order (h : ∀ c, c ∈ ps.map Path.components ↔ c ∈ qs.map Path.components) :
    (order ps).map Path.components = (order qs).map Path.components := by
  have hstrict : ∀ ps : List Text, ((order ps).map Path.components).Pairwise
      fun c d => Path.compareComponents c d = .lt :=
    fun ps => List.pairwise_map.2 (pairwise_order ps)
  refine (hstrict ps).eq_of_mem_iff (hstrict qs) fun c => ?_
  rw [mem_map_components_order, mem_map_components_order]
  exact h c

end Order

section Patterns

variable (tree : FileTree)

theorem exists_expandAll_iff (ps : List Text) :
    (∃ files, (expandAll tree ps).2 = .ok files) ↔
      ∀ p ∈ ps, ∃ files, expand tree p = .ok files := by
  induction ps with
  | nil => simp [expandAll]
  | cons p ps ih =>
    rw [List.forall_mem_cons, ← ih]
    cases he : expand tree p with
    | error e => simp [expandAll, he]
    | ok files => simp [expandAll, he, map_eq_ok_iff]

variable {tree}

theorem mem_of_expandAll {path : Text} (h : (expandAll tree ps).2 = .ok fs) :
    path ∈ fs ↔ ∃ p ∈ ps, ∃ files, expand tree p = .ok files ∧ path ∈ files := by
  induction ps generalizing fs with
  | nil =>
    obtain rfl := Except.ok.inj h
    simp
  | cons p ps ih =>
    cases he : expand tree p with
    | error e => simp [expandAll, he] at h
    | ok files =>
      simp only [expandAll, he, map_eq_ok_iff] at h
      obtain ⟨rest, hrest, rfl⟩ := h
      rw [List.mem_append, ih hrest]
      simp [he]

/-- Lists of the same patterns, in whatever order and however often they are given, select the same
paths: as many, with the same components one by one, and in strictly increasing order. -/
theorem expandAll_order_of_same_patterns (tree : FileTree) {ps qs fs : List Text}
    (hsame : ∀ p, p ∈ ps ↔ p ∈ qs) (h : (expandAll tree ps).2 = .ok fs) :
    ∃ gs, (expandAll tree qs).2 = .ok gs ∧
      (order fs).length = (order gs).length ∧
      List.Forall₂ (fun p q => Path.components p = Path.components q) (order fs) (order gs) ∧
      (order fs).Pairwise Path.Before ∧ (order gs).Pairwise Path.Before := by
  have hexpand := (exists_expandAll_iff tree ps).1 ⟨fs, h⟩
  obtain ⟨gs, hgs⟩ := (exists_expandAll_iff tree qs).2 fun q hq => hexpand q ((hsame q).2 hq)
  have hmem : ∀ path, path ∈ fs ↔ path ∈ gs := by
    intro path
    rw [mem_of_expandAll h, mem_of_expandAll hgs]
    simp only [hsame]
  have heq : (order fs).map Path.components = (order gs).map Path.components :=
    map_components_order fun c => by simp only [List.mem_map, hmem]
  refine ⟨gs, hgs, ?_, ?_, pairwise_order fs, pairwise_order gs⟩
  · simpa using congrArg List.length heq
  · have hforall : List.Forall₂ Eq ((order fs).map Path.components)
        ((order gs).map Path.components) := by
      rw [heq, List.forall₂_eq_eq_eq]
    exact List.forall₂_map_right_iff.1 (List.forall₂_map_left_iff.1 hforall)

/-- A file and the directory in which it is, in both orders and with the file once more in another
spelling; the path that comes first stays. -/
theorem expandAll_order_of_same_patterns_of_spellings :
    let tree := FileTree.empty.graft ["d".toList, "a.py".toList] (.file .empty)
    let ps := ["d".toList, "d//a.py".toList]
    let qs := ["d//a.py".toList, "d".toList, "d//a.py".toList]
    (∀ p, p ∈ ps ↔ p ∈ qs) ∧
      ∃ fs gs, (expandAll tree ps).2 = .ok fs ∧ (expandAll tree qs).2 = .ok gs ∧
        order fs = ["d/a.py".toList] ∧ order gs = ["d//a.py".toList] ∧
        List.Forall₂ (fun p q => Path.components p = Path.components q) (order fs) (order gs) := by
  intro tree ps qs
  have hsame : ∀ p, p ∈ ps ↔ p ∈ qs := by
    intro p
    simp only [ps, qs, List.mem_cons, List.not_mem_nil]
    tauto
  have hchildren : tree.children ["d".toList] = ["a.py".toList] :=
    List.mergeSort_singleton "a.py".toList
  have hpaths : Glob.paths tree "d".toList (.below "d".toList) = ["d/a.py".toList] := calc
    _ = Glob.search tree false [.anyDirectories, .wild [.anySequence]] "d".toList ["d".toList] :=
      Glob.search_plain _ (by decide) rfl
    _ = (tree.children ["d".toList]).map (Glob.entryPath "d".toList) :=
      Glob.search_below (by rw [hchildren]; decide +kernel)
    _ = ["d/a.py".toList] := by
      rw [hchildren]
      rfl
  have hdirectory : expand tree "d".toList = .ok ["d/a.py".toList] := by
    rw [expand, if_neg (by decide +kernel), if_pos (by decide +kernel), hpaths]
    rfl
  have hfile : expand tree "d//a.py".toList = .ok ["d//a.py".toList] := by
    decide +kernel
  have hps : (expandAll tree ps).2 = .ok ["d/a.py".toList, "d//a.py".toList] := by
    simp only [expandAll, ps, hdirectory, hfile]
    rfl
  have hqs : (expandAll tree qs).2 =
      .ok ["d//a.py".toList, "d/a.py".toList, "d//a.py".toList] := by
    simp only [expandAll, qs, hdirectory, hfile]
    rfl
  obtain ⟨gs, hgs, -, hforall, -⟩ := expandAll_order_of_same_patterns tree hsame hps
  obtain rfl := Except.ok.inj (hqs.symm.trans hgs)
  have hspellings : Path.same "d/a.py".toList "d//a.py".toList = true ∧
      Path.same "d//a.py".toList "d/a.py".toList = true ∧
      Path.same "d//a.py".toList "d//a.py".toList = true := by
    decide +kernel
  refine ⟨hsame, _, _, hps, hqs, (order_of_pairwise (by decide +kernel)).trans ?_,
    (order_of_pairwise (by decide +kernel)).trans ?_, hforall⟩
  · simp only [dedup, hspellings, if_true]
  · simp only [dedup, hspellings, if_true]

end Patterns

end Selection

end ApiNotes
