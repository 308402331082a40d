import Mathlib.Data.List.Nodup
import Mathlib.Data.List.Pairwise
import ApiNotes.Proofs.LeftmostTokens

/-! # Parts of parameter lines

The text of a parameter tag is a type in braces, a group in parentheses and a name, in any order and
apart from each other, and a description after them. The type and the group may be left out. A
character that is not blank stands in one of the parts or in the description, and a name with a
bracket in it takes the reserved span.
-/

namespace ApiNotes

namespace ParamLine

open Fields Text

inductive Part where
  | type (inner : Text)
  | group (inner : Text)
  | name (name : Text)
  deriving DecidableEq, Repr

def Part.text : Part → Text
  | .type inner => '\x7b' :: (inner ++ ['\x7d'])
  | .group inner => '(' :: (inner ++ [')'])
  | .name s => s

/-- Parts in their order, each after the text in front of it. -/
def layout (parts : List (Text × Part)) : Text := parts.flatMap fun part => part.1 ++ part.2.text

/-- The parts with the spans that they take in a text, from a position on. -/
def placed (position : Nat) : List (Text × Part) → List (Part × Span)
  | [] => []
  | (gap, part) :: parts =>
    let start := position + gap.length
    (part, ⟨start, start + part.text.length⟩) :: placed (start + part.text.length) parts

section Layout

variable {parts : List (Text × Part)} {x : Part × Span} {position i : Nat} {c : Char}

@[simp] theorem layout_cons (gap : Text) (part : Part) (parts : List (Text × Part)) :
    layout ((gap, part) :: parts) = gap ++ (part.text ++ layout parts) := by
  simp [layout]

@[simp] theorem layout_append (front back : List (Text × Part)) :
    layout (front ++ back) = layout front ++ layout back := by
  simp [layout]

theorem map_fst_placed (position : Nat) (parts : List (Text × Part)) :
    (placed position parts).map Prod.fst = parts.map Prod.snd := by
  induction parts generalizing position with
  | nil => rfl
  | cons part parts ih => simp [placed, ih]

theorem exists_of_mem_placed (h : x ∈ placed position parts) :
    ∃ front gap back, parts = front ++ (gap, x.1) :: back ∧
      x.2 = ⟨position + (layout front ++ gap).length,
        position + (layout front ++ gap).length + x.1.text.length⟩ := by
  induction parts generalizing position with
  | nil => cases h
  | cons part parts ih =>
    obtain ⟨gap, part⟩ := part
    rcases List.mem_cons.1 h with rfl | h
    · exact ⟨[], gap, parts, rfl, rfl⟩
    · obtain ⟨front, gap', back, rfl, hspan⟩ := ih h
      refine ⟨(gap, part) :: front, gap', back, rfl, ?_⟩
      rw [hspan]
      simp only [layout_cons, List.length_append, Span.mk.injEq]
      omega

theorem start_le_of_mem_placed (h : x ∈ placed position parts) :
    position ≤ x.2.start ∧ x.2.start ≤ x.2.stop := by
  obtain ⟨front, gap, back, -, hspan⟩ := exists_of_mem_placed h
  rw [hspan]
  dsimp only
  omega

theorem stop_le_of_mem_placed (h : x ∈ placed position parts) :
    x.2.stop ≤ position + (layout parts).length := by
  obtain ⟨front, gap, back, rfl, hspan⟩ := exists_of_mem_placed h
  rw [hspan]
  simp only [layout_append, layout_cons, List.length_append]
  omega

theorem pairwise_placed (position : Nat) (parts : List (Text × Part)) :
    (placed position parts).Pairwise fun x y => x.2.stop ≤ y.2.start := by
  induction parts generalizing position with
  | nil => exact List.Pairwise.nil
  | cons part parts ih =>
    exact List.pairwise_cons.2 ⟨fun y hy => (start_le_of_mem_placed hy).1, ih _⟩

theorem exists_stop_eq (position : Nat) (hne : parts ≠ []) :
    ∃ x ∈ placed position parts, x.2.stop = position + (layout parts).length := by
  induction parts generalizing position with
  | nil => exact absurd rfl hne
  | cons part parts ih =>
    obtain ⟨gap, part⟩ := part
    cases parts with
    | nil =>
      refine ⟨_, List.mem_cons_self, ?_⟩
      simp only [layout, List.flatMap_cons, List.flatMap_nil, List.append_nil, List.length_append]
      omega
    | cons part' parts =>
      obtain ⟨x, hx, hstop⟩ := ih (position + gap.length + part.text.length)
        (List.cons_ne_nil _ _)
      refine ⟨x, List.mem_cons_of_mem _ hx, ?_⟩
      rw [hstop, layout_cons gap part, List.length_append, List.length_append]
      omega

theorem exists_part_of_getElem? (position : Nat)
    (hblank : ∀ part ∈ parts, ∀ c ∈ part.1, isBlank c = true) (hc : isBlank c = false)
    (h : (layout parts)[i]? = some c) :
    ∃ x ∈ placed position parts, x.2.start ≤ position + i ∧ position + i < x.2.stop ∧
      x.1.text[position + i - x.2.start]? = some c := by
  induction parts generalizing position i with
  | nil => cases h
  | cons part parts ih =>
    obtain ⟨gap, part⟩ := part
    rw [List.forall_mem_cons] at hblank
    rw [layout_cons] at h
    rcases Nat.lt_or_ge i gap.length with hlt | hge
    · rw [List.getElem?_append_left hlt] at h
      rw [hblank.1 c (List.mem_of_getElem? h)] at hc
      cases hc
    · rw [List.getElem?_append_right hge] at h
      rcases Nat.lt_or_ge (i - gap.length) part.text.length with hlt | hge'
      · rw [List.getElem?_append_left hlt] at h
        refine ⟨_, List.mem_cons_self, ?_, ?_, ?_⟩
        · dsimp only
          omega
        · dsimp only
          omega
        · rwa [show position + i - (position + gap.length) = i - gap.length by omega]
      · rw [List.getElem?_append_right hge'] at h
        obtain ⟨x, hx, hle, hlt, hget⟩ :=
          ih (position + gap.length + part.text.length) hblank.2 h
        have heq : position + gap.length + part.text.length +
            (i - gap.length - part.text.length) = position + i := by
          omega
        rw [heq] at hle hlt hget
        exact ⟨x, List.mem_cons_of_mem _ hx, hle, hlt, hget⟩

end Layout

def Plain (s : Text) : Prop := ∀ c ∈ s, isBracket c = false ∧ c ≠ '\n'

theorem Plain.not_mem {s : Text} {c : Char} (h : Plain s) (hb : isBracket c = true) : c ∉ s := by
  intro hc
  rw [(h c hc).1] at hb
  cases hb

theorem isBlank_of_isBracket {c : Char} (h : isBracket c = true) : isBlank c = false := by
  have hmem : c ∈ ['\x7b', '\x7d', '(', ')', '[', ']'] := List.contains_iff_mem.1 h
  have hall : ∀ d ∈ ['\x7b', '\x7d', '(', ')', '[', ']'], isBlank d = false := by
    simp [isBlank]
  exact hall c hmem

def given (type group : Option Text) (name : Text) : List Part :=
  type.toList.map .type ++ group.toList.map .group ++ [.name name]

/-- The parts of a line in some order and apart from each other, and a description after them. -/
structure Arranged (type group : Option Text) (name : Text) (parts : List (Text × Part))
    (gap description : Text) : Prop where
  perm : (parts.map Prod.snd).Perm (given type group name)
  blank : ∀ part ∈ parts, ∀ c ∈ part.1, isBlank c = true
  apart : ∀ part ∈ parts.tail, part.1 ≠ []
  type_plain : ∀ t ∈ type, Plain t
  group_plain : ∀ g ∈ group, Plain g
  isName : IsName name
  gap_blank : ∀ c ∈ gap, isBlank c = true
  gap_apart : gap = [] → description = []
  type_left_out : type = none → '\x7b' ∉ description
  group_left_out : group = none → '(' ∉ description

def text (parts : List (Text × Part)) (gap description : Text) : Text :=
  layout parts ++ (gap ++ description)

namespace Arranged

variable {type group : Option Text} {name gap description : Text} {parts : List (Text × Part)}
  {part part' : Part} {span span' o : Span} {i : Nat} {c : Char}

theorem mem_given_iff : part ∈ given type group name ↔
    (∃ t ∈ type, part = .type t) ∨ (∃ g ∈ group, part = .group g) ∨ part = .name name := by
  simp [given, eq_comm]

theorem nodup_given : (given type group name).Nodup := by
  cases type <;> cases group <;> simp [given]

variable (h : Arranged type group name parts gap description)

include h

theorem exists_mem_placed (hp : part ∈ given type group name) :
    ∃ span, (part, span) ∈ placed 0 parts := by
  rw [← h.perm.mem_iff, ← map_fst_placed 0] at hp
  obtain ⟨⟨_, span⟩, hx, rfl⟩ := List.mem_map.1 hp
  exact ⟨span, hx⟩

theorem mem_given (hm : (part, span) ∈ placed 0 parts) : part ∈ given type group name := by
  rw [← h.perm.mem_iff, ← map_fst_placed 0]
  exact List.mem_map_of_mem hm

theorem span_unique (hm : (part, span) ∈ placed 0 parts) (hm' : (part, span') ∈ placed 0 parts) :
    span = span' := by
  have hnodup : ((placed 0 parts).map Prod.fst).Nodup := by
    rw [map_fst_placed, h.perm.nodup_iff]
    exact nodup_given
  exact congrArg Prod.snd (List.inj_on_of_nodup_map hnodup hm hm' rfl)

omit h in
theorem disjoint (hm : (part, span) ∈ placed 0 parts) (hm' : (part', span') ∈ placed 0 parts)
    (hne : part ≠ part') : span.stop ≤ span'.start ∨ span'.stop ≤ span.start := by
  have hpairs : (placed 0 parts).Pairwise fun x y => x.2.stop ≤ y.2.start ∨ y.2.stop ≤ x.2.start :=
    (pairwise_placed 0 parts).imp Or.inl
  have : Std.Symm fun x y : Part × Span => x.2.stop ≤ y.2.start ∨ y.2.stop ≤ x.2.start :=
    ⟨fun _ _ => Or.symm⟩
  exact hpairs.forall hm hm' fun heq => hne (congrArg Prod.fst heq)

theorem place (hm : (part, span) ∈ placed 0 parts) :
    ∃ before after, text parts gap description = before ++ (part.text ++ after) ∧
      span = ⟨before.length, before.length + part.text.length⟩ ∧
      EndsBlank before ∧ ∀ c, after.head? = some c → isBlank c = true := by
  obtain ⟨front, gap', back, rfl, hspan⟩ := exists_of_mem_placed hm
  have hgap : ∀ c ∈ gap', isBlank c = true := h.blank (gap', part) (by simp)
  refine ⟨layout front ++ gap', layout back ++ (gap ++ description), ?_, ?_, ?_, ?_⟩
  · simp [text]
  · simpa using hspan
  · intro c hc
    by_cases hne : gap' = []
    · -- Only the first part may have nothing in front of it.
      subst hne
      cases front with
      | nil => cases hc
      | cons first front => exact absurd rfl (h.apart ([], part) (by simp))
    · rw [List.getLast?_append_of_ne_nil _ hne] at hc
      exact hgap c (List.mem_of_getLast? hc)
  · intro c hc
    cases back with
    | nil =>
      cases gap with
      | nil =>
        rw [h.gap_apart rfl] at hc
        cases hc
      | cons d gap =>
        obtain rfl := Option.some.inj hc
        exact h.gap_blank d List.mem_cons_self
    | cons next back =>
      obtain ⟨gap'', next⟩ := next
      have hne : gap'' ≠ [] := h.apart (gap'', next) (by
        cases front <;> simp)
      obtain ⟨d, rest, rfl⟩ := List.exists_cons_of_ne_nil hne
      rw [layout_cons] at hc
      obtain rfl := Option.some.inj hc
      exact h.blank (d :: rest, next) (by simp) d List.mem_cons_self

theorem part_or_description (hc : isBlank c = false)
    (hi : (text parts gap description)[i]? = some c) :
    (∃ part span, (part, span) ∈ placed 0 parts ∧ span.start ≤ i ∧ i < span.stop ∧
        part.text[i - span.start]? = some c) ∨
      (layout parts).length ≤ i ∧ c ∈ description := by
  rcases Nat.lt_or_ge i (layout parts).length with hlt | hge
  · rw [text, List.getElem?_append_left hlt] at hi
    obtain ⟨⟨part, span⟩, hm, hle, hlt, hget⟩ := exists_part_of_getElem? 0 h.blank hc hi
    rw [Nat.zero_add] at hle hlt hget
    exact Or.inl ⟨part, span, hm, hle, hlt, hget⟩
  · rw [text, List.getElem?_append_right hge] at hi
    rcases List.mem_append.1 (List.mem_of_getElem? hi) with hg | hd
    · rw [h.gap_blank c hg] at hc
      cases hc
    · exact Or.inr ⟨hge, hd⟩

theorem bracket_cases (hm : (.name name, span) ∈ placed 0 parts)
    (hi : (text parts gap description)[i]? = some '[') :
    (span.start ≤ i ∧ '[' ∈ name) ∨ (layout parts).length ≤ i := by
  rcases h.part_or_description (by decide) hi with ⟨part, span', hm', hle, -, hget⟩ | ⟨hge, -⟩
  · have hmem := List.mem_of_getElem? hget
    rcases mem_given_iff.1 (h.mem_given hm') with ⟨t, ht, rfl⟩ | ⟨g, hg, rfl⟩ | rfl
    · have hc : '[' ∉ t := (h.type_plain t ht).not_mem (by decide)
      simp [Part.text, hc] at hmem
    · have hc : '[' ∉ g := (h.group_plain g hg).not_mem (by decide)
      simp [Part.text, hc] at hmem
    · exact Or.inl ⟨h.span_unique hm hm' ▸ hle, hmem⟩
  · exact Or.inr hge

theorem isReserved_of_bracket (hm : (.name name, span) ∈ placed 0 parts) (hc : c ∈ name)
    (hb : isBracket c = true) : IsReserved .word (text parts gap description) span := by
  obtain ⟨before, after, htext, hspan, hbefore, -⟩ := h.place hm
  have hname := h.isName
  cases hname with
  | bare _ hword =>
    have hw := hword c hc
    simp [isWordChar, hb] at hw
  | @bracketed inner hfree =>
    have hchunk : Chunk '[' ']' [']', '\n'] (text parts gap description) span inner := by
      refine ⟨⟨before, after, ?_, ?_⟩, hfree⟩
      · simpa [Part.text] using htext
      · simpa [Part.text] using hspan
    have hfresh : EndsBlank ((text parts gap description).take span.start) := by
      rw [htext, hspan, List.take_left]
      exact hbefore
    refine ⟨rfl, ⟨⟨inner, hchunk⟩, hfresh⟩, Nat.zero_le _, ?_⟩
    rintro span' ⟨⟨inner', hchunk'⟩, -⟩ -
    have hstop := stop_le_of_mem_placed hm
    have hlt := hchunk.lt
    rcases h.bracket_cases hm hchunk'.getElem?_start with ⟨hle, -⟩ | hge
    · exact hle
    · dsimp only at hstop
      omega

theorem reserved_cases (hm : (.name name, span) ∈ placed 0 parts)
    (ho : IsReserved .word (text parts gap description) o) :
    o = span ∨ (layout parts).length ≤ o.start := by
  obtain ⟨inner, hchunk⟩ := ho.2.holds.chunk
  rcases h.bracket_cases hm hchunk.getElem?_start with ⟨-, hmem⟩ | hge
  · have hreserved := h.isReserved_of_bracket hm hmem (by decide)
    exact Or.inl (ho.2.unique distinct_isOptional hreserved.2)
  · exact Or.inr hge

theorem overlaps_reserved_eq_false (hm : (part, span) ∈ placed 0 parts) (hne : part ≠ .name name)
    (ho : IsReserved .word (text parts gap description) o) : span.overlaps o = false := by
  obtain ⟨nameSpan, hname⟩ := h.exists_mem_placed (mem_given_iff.2 (Or.inr (Or.inr rfl)))
  rw [overlaps_eq_false_iff]
  rcases h.reserved_cases hname ho with rfl | hge
  · exact (disjoint hm hname hne).symm
  · have hstop := stop_le_of_mem_placed hm
    dsimp only at hstop
    omega

end Arranged

end ParamLine

end ApiNotes
