import Mathlib.Logic.Relation
import ApiNotes.Proofs.Policies

/-! # The graph of references

The body of a block and the definitions form a graph with an edge for each reference that has a
name. Inlining finds recursion from the names that are open and does not look at the graph. Still
its notices say exactly what can be reached from the body: names without a definition, cycles, and
references without a name.
-/

namespace ApiNotes

namespace Reference

variable {table : Definitions} {active : List Text} {name : Option Text}

theorem target_eq_ok_iff {definition : Definition} :
    target table active name = .ok definition ↔
      name = some definition.name ∧ definition.name ∉ active ∧ definition ∈ table.entries := by
  constructor
  · intro h
    obtain ⟨hd, ha⟩ := target_eq_ok h
    refine ⟨?_, ha, hd⟩
    cases name with
    | none => cases h
    | some name =>
      simp only [target] at h
      split at h
      · cases h
      · split at h
        · cases h
        · next hg =>
          obtain rfl := Except.ok.inj h
          rw [Keyed.key_of_get? _ hg]
  · rintro ⟨rfl, ha, hd⟩
    have hg : table.get? definition.name = some definition :=
      Keyed.get?_of_mem table.distinct hd
    simp [target, ha, hg]

theorem target_eq_undefined_iff {n : Text} :
    target table active name = .error (.undefinedReference n) ↔
      name = some n ∧ n ∉ active ∧ table.get? n = none := by
  cases name with
  | none => simp [target]
  | some name =>
    simp only [target, List.contains_iff_mem, Option.some.injEq]
    split
    · next ha =>
      simp only [Except.error.injEq, reduceCtorEq, false_iff, not_and]
      rintro rfl hn
      exact (hn ha).elim
    · next ha =>
      split
      · next hg =>
        simp only [Except.error.injEq, Notice.undefinedReference.injEq]
        constructor
        · rintro rfl
          exact ⟨rfl, ha, hg⟩
        · exact fun h => h.1
      · next hg =>
        simp only [reduceCtorEq, false_iff, not_and]
        rintro rfl - hn
        cases hg.symm.trans hn

theorem target_eq_recursive_iff {n : Text} :
    target table active name = .error (.recursiveReference n) ↔ name = some n ∧ n ∈ active := by
  cases name with
  | none => simp [target]
  | some name =>
    simp only [target, List.contains_iff_mem, Option.some.injEq]
    split
    · next ha =>
      simp only [Except.error.injEq, Notice.recursiveReference.injEq]
      constructor
      · rintro rfl
        exact ⟨rfl, ha⟩
      · exact fun h => h.1
    · next ha =>
      split <;> simp only [Except.error.injEq, reduceCtorEq, false_iff, not_and] <;>
        (rintro rfl; exact ha)

theorem target_eq_missingName_iff :
    target table active name = .error .missingName ↔ name = none := by
  cases name with
  | none => simp [target]
  | some name =>
    simp only [target, reduceCtorEq, iff_false]
    split
    · simp
    · split <;> simp

end Reference

/-- The lines of a body, and the table that they refer to. -/
structure UseGraph where
  table : Definitions
  lines : List Text

namespace UseGraph

/-- The body, or a name that may have a definition. -/
inductive Node where
  | body
  | name (name : Text)
  deriving DecidableEq, Repr

variable (g : UseGraph)

def linesOf : Node → List Text
  | .body => g.lines
  | .name n => ((g.table.get? n).map Definition.lines).getD []

/-- A line at the node is a reference with this name, or without a name. -/
def Refers (a : Node) (name : Option Text) : Prop :=
  ∃ line ∈ g.linesOf a, TagLine.reference? line = some name

inductive Edge : Node → Node → Prop where
  | use {a : Node} {n : Text} : g.Refers a (some n) → Edge a (.name n)

def Reachable (a : Node) : Prop := Relation.ReflTransGen g.Edge .body a

/-- The nodes whose lines inlining comes to, each with the names that are active there. -/
inductive Visits : Node → List Text → Prop where
  | body : Visits .body []
  | use {a : Node} {active : List Text} {definition : Definition} : Visits a active →
      g.Refers a (some definition.name) → definition.name ∉ active →
      definition ∈ g.table.entries →
      Visits (.name definition.name) (definition.name :: active)

/-- Inlining passes a reference over and leaves this notice. -/
def Notes (notice : Notice) : Prop :=
  ∃ a active name, g.Visits a active ∧ g.Refers a name ∧
    Reference.target g.table active name = .error notice

variable {g} {a b : Node} {active : List Text} {n : Text} {definition : Definition}

theorem get?_of_mem_entries (h : definition ∈ g.table.entries) :
    g.table.get? definition.name = some definition :=
  Keyed.get?_of_mem g.table.distinct h

theorem linesOf_name (h : definition ∈ g.table.entries) :
    g.linesOf (.name definition.name) = definition.lines := by
  simp [linesOf, get?_of_mem_entries h]

theorem exists_definition_of_get? (h : g.table.get? n ≠ none) :
    ∃ definition ∈ g.table.entries, definition.name = n := by
  obtain ⟨definition, hd⟩ := Option.ne_none_iff_exists'.1 h
  exact ⟨definition, Keyed.mem_of_get? _ hd, Keyed.key_of_get? _ hd⟩

theorem Refers.get?_ne_none {name : Option Text} (h : g.Refers (.name n) name) :
    g.table.get? n ≠ none := by
  obtain ⟨line, hl, -⟩ := h
  intro hn
  simp [linesOf, hn] at hl

section Inlining

theorem inline_eq_flatMap (table : Definitions) (active lines : List Text) :
    inline table active lines = lines.flatMap fun line => inline table active [line] := by
  induction lines with
  | nil => exact inline_nil
  | cons line lines ih => rw [inline_cons, ih, List.flatMap_cons]

theorem mem_inline_linesOf {name : Option Text} {item : Item} (h : g.Refers a name)
    (hi : ∀ line, TagLine.reference? line = some name → item ∈ inline g.table active [line]) :
    item ∈ inline g.table active (g.linesOf a) := by
  obtain ⟨line, hl, hr⟩ := h
  rw [inline_eq_flatMap]
  exact List.mem_flatMap.2 ⟨line, hl, hi line hr⟩

theorem Visits.inline_subset (h : g.Visits a active) :
    inline g.table active (g.linesOf a) ⊆ inline g.table [] g.lines := by
  induction h with
  | body => exact fun _ hi => hi
  | use _ hr ha hd ih =>
    intro item hi
    rw [linesOf_name hd] at hi
    refine ih (mem_inline_linesOf hr fun line hl => ?_)
    rw [inline_definition hl (Reference.target_eq_ok_iff.2 ⟨rfl, ha, hd⟩), inline_nil,
      List.append_nil]
    exact hi

theorem notes_of_mem_inline {notice : Notice} {lines : List Text} (hv : g.Visits a active)
    (hs : lines ⊆ g.linesOf a) (h : .notice notice ∈ inline g.table active lines) :
    g.Notes notice := by
  -- The visited node changes only where a definition is entered.
  generalize ht : g.table = table at h
  fun_induction inline table active lines generalizing a with
  | case1 => cases h
  | case2 active line lines _ hr ih =>
    rcases List.mem_cons.1 h with h | h
    · cases h
    · exact ih hv (List.cons_subset.1 hs).2 h
  | case3 active line lines _ name hr notice' htarget ih =>
    rcases List.mem_cons.1 h with h | h
    · obtain rfl := Item.notice.inj h
      exact ⟨a, active, name, hv, ⟨line, (List.cons_subset.1 hs).1, hr⟩, ht ▸ htarget⟩
    · exact ih hv (List.cons_subset.1 hs).2 h
  | case4 active line lines _ name hr definition htarget _ ih ih' =>
    rcases List.mem_append.1 h with h | h
    · obtain ⟨rfl, ha, hd⟩ := Reference.target_eq_ok_iff.1 htarget
      rw [← ht] at hd
      refine ih (.use hv ⟨line, (List.cons_subset.1 hs).1, hr⟩ ha hd) ?_ h
      rw [linesOf_name hd]
      exact List.Subset.refl _
    · exact ih' hv (List.cons_subset.1 hs).2 h

theorem mem_inline_iff_notes {notice : Notice} :
    .notice notice ∈ inline g.table [] g.lines ↔ g.Notes notice := by
  constructor
  · exact notes_of_mem_inline .body (List.Subset.refl _)
  · rintro ⟨a, active, name, hv, hr, ht⟩
    refine hv.inline_subset (mem_inline_linesOf hr fun line hl => ?_)
    rw [inline_notice hl ht]
    exact List.mem_cons_self

end Inlining

section Reachability

open Relation

theorem Visits.reachable (h : g.Visits a active) : g.Reachable a := by
  induction h with
  | body => exact .refl
  | use _ hr _ _ ih => exact ih.tail (.use hr)

/-- An active name is visited before the node at which it is active, and leads to it. -/
theorem Visits.of_mem_active (h : g.Visits a active) (hn : n ∈ active) :
    (∃ active', g.Visits (.name n) active') ∧ ReflTransGen g.Edge (.name n) a := by
  induction h with
  | body => cases hn
  | use hv hr ha hd ih =>
    rcases List.mem_cons.1 hn with rfl | hn
    · exact ⟨⟨_, hv.use hr ha hd⟩, .refl⟩
    · exact ⟨(ih hn).1, (ih hn).2.tail (.use hr)⟩

theorem Visits.self_mem (h : g.Visits (.name n) active) : n ∈ active := by
  cases h with
  | use => exact List.mem_cons_self

theorem Visits.get?_ne_none (h : g.Visits (.name n) active) : g.table.get? n ≠ none := by
  cases h with
  | use _ _ _ hd => simp [get?_of_mem_entries hd]

theorem Visits.reference_cases (h : g.Visits a active) (hr : g.Refers a (some n)) :
    n ∈ active ∨ g.Visits (.name n) (n :: active) ∨ g.table.get? n = none := by
  by_cases ha : n ∈ active
  · exact Or.inl ha
  · by_cases hn : g.table.get? n = none
    · exact Or.inr (Or.inr hn)
    · obtain ⟨definition, hd, rfl⟩ := exists_definition_of_get? hn
      exact Or.inr (Or.inl (h.use hr ha hd))

/-- Every node that can be reached is visited, unless it is a name without a definition. -/
theorem Reachable.visits (h : g.Reachable a) :
    (∃ active, g.Visits a active) ∨ ∃ n, a = .name n ∧ g.table.get? n = none := by
  induction h with
  | refl => exact Or.inl ⟨[], .body⟩
  | tail _ he ih =>
    cases he with
    | use hr =>
      rcases ih with ⟨active, hv⟩ | ⟨n, rfl, hn⟩
      · rcases hv.reference_cases hr with ha | hv' | hn
        · exact Or.inl (hv.of_mem_active ha).1
        · exact Or.inl ⟨_, hv'⟩
        · exact Or.inr ⟨_, rfl, hn⟩
      · exact (hr.get?_ne_none hn).elim

theorem Reachable.visits_of_refers {name : Option Text} (h : g.Reachable a)
    (hr : g.Refers a name) : ∃ active, g.Visits a active := by
  rcases h.visits with hv | ⟨n, rfl, hn⟩
  · exact hv
  · exact (hr.get?_ne_none hn).elim

/-- The way on from a visited node is visited with more and more names active, until it comes to
one that is active already or to a name without a definition. -/
theorem Visits.along (hv : g.Visits a active) (h : ReflTransGen g.Edge a b) :
    (∃ n, g.Notes (.recursiveReference n)) ∨ (∃ active', active ⊆ active' ∧ g.Visits b active') ∨
      ∃ n, b = .name n ∧ g.table.get? n = none := by
  induction h with
  | refl => exact Or.inr (Or.inl ⟨active, List.Subset.refl _, hv⟩)
  | tail _ he ih =>
    cases he with
    | use hr =>
      rcases ih with hrec | ⟨active', hs, hv'⟩ | ⟨n, rfl, hn⟩
      · exact Or.inl hrec
      · rcases hv'.reference_cases hr with ha | hv'' | hn
        · exact Or.inl ⟨_, _, _, _, hv', hr, Reference.target_eq_recursive_iff.2 ⟨rfl, ha⟩⟩
        · exact Or.inr (Or.inl ⟨_, List.Subset.trans hs (List.subset_cons_self _ _), hv''⟩)
        · exact Or.inr (Or.inr ⟨_, rfl, hn⟩)
      · exact (hr.get?_ne_none hn).elim

theorem notes_undefined_iff :
    g.Notes (.undefinedReference n) ↔ g.table.get? n = none ∧ g.Reachable (.name n) := by
  constructor
  · rintro ⟨a, active, name, hv, hr, ht⟩
    obtain ⟨rfl, -, hn⟩ := Reference.target_eq_undefined_iff.1 ht
    exact ⟨hn, hv.reachable.tail (.use hr)⟩
  · rintro ⟨hn, h⟩
    obtain ⟨b, hb, ⟨hr⟩⟩ : ∃ b, g.Reachable b ∧ g.Edge b (.name n) := by
      cases h with
      | tail hb he => exact ⟨_, hb, he⟩
    obtain ⟨active, hv⟩ := hb.visits_of_refers hr
    refine ⟨b, active, some n, hv, hr, Reference.target_eq_undefined_iff.2 ⟨rfl, ?_, hn⟩⟩
    intro ha
    obtain ⟨⟨active', hv'⟩, -⟩ := hv.of_mem_active ha
    exact hv'.get?_ne_none hn

theorem notes_missingName_iff :
    g.Notes .missingName ↔ ∃ a, g.Reachable a ∧ g.Refers a none := by
  constructor
  · rintro ⟨a, active, name, hv, hr, ht⟩
    obtain rfl := Reference.target_eq_missingName_iff.1 ht
    exact ⟨a, hv.reachable, hr⟩
  · rintro ⟨a, h, hr⟩
    obtain ⟨active, hv⟩ := h.visits_of_refers hr
    exact ⟨a, active, none, hv, hr, Reference.target_eq_missingName_iff.2 rfl⟩

/-- A name that is active leads to the node at which it is active, so a reference back to it
closes a cycle. -/
theorem exists_cycle_of_notes_recursive (h : g.Notes (.recursiveReference n)) :
    ∃ a, g.Reachable a ∧ TransGen g.Edge a a := by
  obtain ⟨a, active, name, hv, hr, ht⟩ := h
  obtain ⟨rfl, ha⟩ := Reference.target_eq_recursive_iff.1 ht
  exact ⟨a, hv.reachable, .head' (.use hr) (hv.of_mem_active ha).2⟩

theorem notes_recursive_of_cycle (h : g.Reachable a) (hc : TransGen g.Edge a a) :
    ∃ n, g.Notes (.recursiveReference n) := by
  obtain ⟨c, ⟨hr⟩, -⟩ := TransGen.head'_iff.1 hc
  obtain ⟨active, hv⟩ := h.visits_of_refers hr
  -- The name of `a` is still active where the last edge of the cycle leads back to it.
  obtain ⟨p, hp, he⟩ := TransGen.tail'_iff.1 hc
  cases he with
  | use hr' =>
    rcases hv.along hp with hrec | ⟨active', hs, hv'⟩ | ⟨m, rfl, hm⟩
    · exact hrec
    · exact ⟨_, p, active', _, hv', hr',
        Reference.target_eq_recursive_iff.2 ⟨rfl, hs hv.self_mem⟩⟩
    · exact (hr'.get?_ne_none hm).elim

end Reachability

end UseGraph

namespace Item

theorem mem_of_mem_noticesMet {items : List Item} {notice : Notice}
    (h : notice ∈ noticesMet items) : .notice notice ∈ items := by
  obtain ⟨item, hi, hn⟩ := List.mem_filterMap.1 h
  cases item with
  | line l => cases hn
  | notice n =>
    obtain rfl := Option.some.inj hn
    exact (List.takeWhile_sublist _).subset hi

theorem mem_noticesMet_of_play_eq_ok {policy : Policy} {items : List Item} {draft draft' : Draft}
    {notices : List Notice} {notice : Notice}
    (h : (play policy items draft notices).outcome = .ok draft') (hn : .notice notice ∈ items) :
    notice ∈ noticesMet items := by
  induction items generalizing draft notices with
  | nil => cases hn
  | cons item items ih =>
    cases item with
    | line l =>
      cases he : Entry.ofLine l with
      | error fault => simp [play, he] at h
      | ok entry =>
        simp only [play, he] at h
        rw [noticesMet_of_ok he]
        refine ih h ?_
        simpa using hn
    | notice n =>
      rw [noticesMet_notice]
      rcases List.mem_cons.1 hn with hn | hn
      · obtain rfl := Item.notice.inj hn
        exact List.mem_cons_self
      · cases policy with
        | strict => cases h
        | lenient => exact List.mem_cons_of_mem _ (ih h hn)

end Item

theorem mem_notices_iff_notes {table : Definitions} {body : Text} {resource : Option Resource}
    (hroute : (TagLine.ofBody body).head?.map TagLine.keyword = some Tag.route.keyword)
    (hok : (readBlock table .lenient body).outcome = .ok resource) {notice : Notice} :
    notice ∈ (readBlock table .lenient body).notices ↔
      UseGraph.Notes ⟨table, TagLine.ofBody body⟩ notice := by
  rw [readBlock_of_route hroute] at hok ⊢
  rw [← UseGraph.mem_inline_iff_notes, play_lenient_notices, List.nil_append]
  obtain ⟨r, hb, -⟩ := map_eq_ok_iff.1 hok
  obtain ⟨draft, hp, -⟩ := bind_eq_ok_iff.1 hb
  exact ⟨Item.mem_of_mem_noticesMet, Item.mem_noticesMet_of_play_eq_ok hp⟩

theorem notes_of_mem_notices {table : Definitions} {body : Text} {notice : Notice}
    (h : notice ∈ (readBlock table .lenient body).notices) :
    UseGraph.Notes ⟨table, TagLine.ofBody body⟩ notice := by
  by_cases hroute : (TagLine.ofBody body).head?.map TagLine.keyword = some Tag.route.keyword
  · rw [readBlock_of_route hroute, play_lenient_notices, List.nil_append] at h
    exact UseGraph.mem_inline_iff_notes.1 (Item.mem_of_mem_noticesMet h)
  · simp [readBlock, hroute] at h

theorem missing_of_readBlock_lenient_eq_error {table : Definitions} {body : Text} {fault : Fault}
    (h : (readBlock table .lenient body).outcome = .error fault) :
    ∃ keyword piece, fault = .missing keyword piece := by
  rcases readBlock_eq_error_cases h with h | ⟨hp, -⟩
  · exact h
  · cases hp

theorem mem_notices_of_strict_eq_recursive {table : Definitions} {body n : Text}
    (h : (readBlock table .strict body).outcome = .error (.recursiveReference n)) :
    .recursiveReference n ∈ (readBlock table .lenient body).notices := by
  simp only [readBlock_strict, Reading.strictly] at h
  split at h
  · obtain ⟨keyword, piece, hf⟩ := missing_of_readBlock_lenient_eq_error h
    cases hf
  · next notice rest hn =>
    rw [hn]
    cases notice <;> cases h
    exact List.mem_cons_self

/-- The notices of a block that can be read say what the graph of references has within reach of
the body. Without a cycle in reach no policy finds recursion, however often a definition is
shared. -/
theorem readBlock_notices_useGraph (table : Definitions) (body : Text)
    (hroute : (TagLine.ofBody body).head?.map TagLine.keyword = some Tag.route.keyword) :
    let g : UseGraph := ⟨table, TagLine.ofBody body⟩
    let lenient := readBlock table .lenient body
    (∀ resource, lenient.outcome = .ok resource →
      (∀ n, .undefinedReference n ∈ lenient.notices ↔
          table.get? n = none ∧ g.Reachable (.name n)) ∧
        ((∃ n, .recursiveReference n ∈ lenient.notices) ↔
          ∃ a, g.Reachable a ∧ Relation.TransGen g.Edge a a) ∧
        (.missingName ∈ lenient.notices ↔ ∃ a, g.Reachable a ∧ g.Refers a none)) ∧
      ((∀ a, g.Reachable a → ¬ Relation.TransGen g.Edge a a) → ∀ policy n,
        .recursiveReference n ∉ (readBlock table policy body).notices ∧
          (readBlock table policy body).outcome ≠ .error (.recursiveReference n)) := by
  intro g lenient
  constructor
  · intro resource hok
    refine ⟨fun n => ?_, ?_, ?_⟩
    · exact (mem_notices_iff_notes hroute hok).trans UseGraph.notes_undefined_iff
    · simp only [lenient, mem_notices_iff_notes hroute hok]
      constructor
      · rintro ⟨n, h⟩
        exact UseGraph.exists_cycle_of_notes_recursive h
      · rintro ⟨a, ha, hc⟩
        exact UseGraph.notes_recursive_of_cycle ha hc
    · exact (mem_notices_iff_notes hroute hok).trans UseGraph.notes_missingName_iff
  · intro hacyclic policy n
    have hn : .recursiveReference n ∉ lenient.notices := by
      intro h
      obtain ⟨a, ha, hc⟩ := UseGraph.exists_cycle_of_notes_recursive (notes_of_mem_notices h)
      exact hacyclic a ha hc
    cases policy with
    | strict =>
      refine ⟨?_, fun h => hn (mem_notices_of_strict_eq_recursive h)⟩
      simp [readBlock_strict]
    | lenient =>
      refine ⟨hn, fun h => ?_⟩
      obtain ⟨keyword, piece, hf⟩ := missing_of_readBlock_lenient_eq_error h
      cases hf

/-- A cycle through `A` and `B` with a name that is not defined and a reference without a name,
and a definition `D` that is shared without a cycle. -/
theorem readBlock_notices_useGraph_of_cycle_and_sharing :
    let cyclic := Definitions.ofBodies
      ["@apiDefine A\n@apiUse B\n@apiGroup G".toList, "@apiDefine B\n@apiUse A\n@apiUse".toList]
    let shared := Definitions.ofBodies
      ["@apiDefine A\n@apiUse D\n@apiUse D".toList, "@apiDefine B\n@apiUse D".toList,
        "@apiDefine D\n@apiParam x".toList]
    let body := "@api \x7bget\x7d /x X\n@apiUse A\n@apiUse C\n@apiUse B".toList
    let g : UseGraph := ⟨cyclic, TagLine.ofBody body⟩
    (cyclic.get? ['C'] = none ∧ g.Reachable (.name ['C'])) ∧
      (∃ a, g.Reachable a ∧ Relation.TransGen g.Edge a a) ∧
      (∃ a, g.Reachable a ∧ g.Refers a none) ∧
      ∀ n, (readBlock shared .strict body).outcome ≠ .error (.recursiveReference n) := by
  intro cyclic shared body g
  have hroute : (TagLine.ofBody body).head?.map TagLine.keyword = some Tag.route.keyword := by
    decide +kernel
  have hcyclic : (readBlock cyclic .lenient body).notices =
      [.recursiveReference ['A'], .missingName, .undefinedReference ['C'],
        .recursiveReference ['B'], .missingName] := by
    decide +kernel
  have hshared : (readBlock shared .lenient body).notices = [.undefinedReference ['C']] := by
    decide +kernel
  obtain ⟨r, hr⟩ : ∃ r, (readBlock cyclic .lenient body).outcome = .ok r :=
    exists_eq_ok_of_isOk (by decide +kernel)
  obtain ⟨r', hr'⟩ : ∃ r, (readBlock shared .lenient body).outcome = .ok r :=
    exists_eq_ok_of_isOk (by decide +kernel)
  obtain ⟨hundefined, hrecursive, hmissing⟩ :=
    (readBlock_notices_useGraph cyclic body hroute).1 r hr
  have h := readBlock_notices_useGraph shared body hroute
  refine ⟨(hundefined _).1 (by simp [hcyclic]), hrecursive.1 ⟨['A'], by simp [hcyclic]⟩,
    hmissing.1 (by simp [hcyclic]), fun n => (h.2 ?_ .strict n).2⟩
  intro a ha hc
  obtain ⟨n, hn⟩ := (h.1 r' hr').2.1.2 ⟨a, ha, hc⟩
  simp [hshared] at hn

end ApiNotes
