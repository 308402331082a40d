import ApiNotes.Proofs.LeftmostTokens
import ApiNotes.Resource.Reader

/-! # Overlapping tokens

The type and the group of a tag line are searched independently, so one may reach into the other.
It does so exactly if it opens between the delimiters of the other. Then no group stands before the
type, or no type before the group.
-/

namespace ApiNotes

/-- The position is one between the first and the last of a span. -/
def Span.Surrounds (span : Span) (i : Nat) : Prop := span.start < i ∧ i + 1 < span.stop

namespace Fields

variable {s inner inner' : Text} {span span' : Span} {l r l' r' : Char} {stops stops' : List Char}

theorem Chunk.getElem?_last (h : Chunk l r stops s span inner) :
    s[span.stop - 1]? = some r := by
  obtain ⟨⟨before, after, rfl, rfl⟩, -⟩ := h
  have hlast : before.length + (inner.length + 2) - 1 = before.length + (inner.length + 1) := by
    omega
  simp [hlast]

theorem Chunk.add_two_le (h : Chunk l r stops s span inner) : span.start + 2 ≤ span.stop := by
  obtain ⟨⟨before, after, -, rfl⟩, -⟩ := h
  show before.length + 2 ≤ before.length + (inner.length + 2)
  omega

theorem Chunk.surrounds (h : Chunk l r stops s span inner) (h' : Chunk l' r' stops' s span' inner')
    (hr : l' ≠ r) (hlt : span.start < span'.start) (hstop : span'.start < span.stop) :
    span.Surrounds span'.start := by
  refine ⟨hlt, ?_⟩
  by_contra hge
  have hlast := h.getElem?_last
  rw [show span.stop - 1 = span'.start by omega, h'.getElem?_start] at hlast
  exact hr (Option.some.inj hlast)

theorem Chunk.overlaps_iff (h : Chunk l r stops s span inner)
    (h' : Chunk l' r' stops' s span' inner') (hl : l ≠ l') (hr : l ≠ r') (hr' : l' ≠ r) :
    span.overlaps span' = true ↔ span.Surrounds span'.start ∨ span'.Surrounds span.start := by
  have hlen := h.add_two_le
  have hlen' := h'.add_two_le
  rw [overlaps_eq_true_iff]
  constructor
  · rintro ⟨hstop', hstop⟩
    rcases Nat.lt_trichotomy span.start span'.start with hlt | heq | hgt
    · exact Or.inl (h.surrounds h' hr' hlt hstop)
    · have hstart := h.getElem?_start
      rw [heq, h'.getElem?_start] at hstart
      exact absurd (Option.some.inj hstart) hl.symm
    · exact Or.inr (h'.surrounds h hr hgt hstop')
  · unfold Span.Surrounds
    omega

theorem mem_slice {c : Char} {i : Nat} (hc : s[i]? = some c) (hi : span.start ≤ i)
    (hstop : i < span.stop) : c ∈ span.slice s := by
  refine List.mem_of_getElem? (i := i - span.start) ?_
  rw [Span.slice, List.getElem?_take_of_lt (by omega), List.getElem?_drop,
    show span.start + (i - span.start) = i by omega, hc]

theorem Chunk.mem_slice_of_surrounds (h : Chunk l r stops s span inner)
    (hs : span'.Surrounds span.start) : l ∈ span'.slice s := by
  obtain ⟨hlt, hstop⟩ := hs
  exact mem_slice h.getElem?_start (by omega) (by omega)

/-- The type and the group of a text overlap exactly if one opens between the delimiters of the
other. So they are apart if the type has no opening parenthesis and the group no opening brace, and
a chunk inside the other token is taken only if there is none before that token. -/
theorem ofText_type_overlaps_group (shape : NameShape) (s : Text) {t g : Token}
    (ht : (ofText shape s).type = some t) (hg : (ofText shape s).group = some g) :
    (t.span.overlaps g.span = true ↔
        t.span.Surrounds g.span.start ∨ g.span.Surrounds t.span.start) ∧
      ('(' ∉ t.span.slice s → '\x7b' ∉ g.span.slice s → t.span.overlaps g.span = false) ∧
      (t.span.Surrounds g.span.start →
        ∀ g', IsDelimited '(' ')' shape s g' → t.span.start < g'.span.start) ∧
      (g.span.Surrounds t.span.start →
        ∀ t', IsDelimited '\x7b' '\x7d' shape s t' → g.span.start < t'.span.start) := by
  have htokens := tokenized_ofText shape s
  have htype := htokens.type
  have hgroup := htokens.group
  rw [ht] at htype
  rw [hg] at hgroup
  obtain ⟨⟨inner, hct, -⟩, -⟩ := htype.1
  obtain ⟨⟨inner', hcg, -⟩, -⟩ := hgroup.1
  have hiff := hct.overlaps_iff hcg (by decide) (by decide) (by decide)
  refine ⟨hiff, fun hparen hbrace => ?_, fun hs g' hg' => ?_, fun hs t' ht' => ?_⟩
  · rw [← Bool.not_eq_true, hiff]
    rintro (hs | hs)
    · exact hparen (hcg.mem_slice_of_surrounds hs)
    · exact hbrace (hct.mem_slice_of_surrounds hs)
  · rcases hgroup.2 g' hg' with rfl | hlt
    · exact hs.1
    · exact hs.1.trans hlt
  · rcases htype.2 t' ht' with rfl | hlt
    · exact hs.1
    · exact hs.1.trans hlt

/-- A group before a type with parentheses, which are no group then, and one inside a type, which
is taken since none comes before. -/
theorem ofText_type_overlaps_group_of_both :
    let early := "(Errors) \x7bE(404)\x7d code".toList
    let inside := "\x7bE(404)\x7d code (Errors)".toList
    ((ofText .word early).type = some ⟨"E(404)".toList, ⟨9, 17⟩⟩ ∧
      (ofText .word early).group = some ⟨"Errors".toList, ⟨0, 8⟩⟩ ∧
      (Span.mk 9 17).overlaps ⟨0, 8⟩ = false) ∧
    (ofText .word inside).type = some ⟨"E(404)".toList, ⟨0, 8⟩⟩ ∧
      (ofText .word inside).group = some ⟨"404".toList, ⟨2, 7⟩⟩ ∧
      (Span.mk 0 8).overlaps ⟨2, 7⟩ = true := by
  intro early inside
  have ht : (ofText .word early).type = some ⟨"E(404)".toList, ⟨9, 17⟩⟩ := by decide
  have hg : (ofText .word early).group = some ⟨"Errors".toList, ⟨0, 8⟩⟩ := by decide
  have ht' : (ofText .word inside).type = some ⟨"E(404)".toList, ⟨0, 8⟩⟩ := by decide
  have hg' : (ofText .word inside).group = some ⟨"404".toList, ⟨2, 7⟩⟩ := by decide
  obtain ⟨hiff, -⟩ := ofText_type_overlaps_group .word early ht hg
  obtain ⟨hiff', -⟩ := ofText_type_overlaps_group .word inside ht' hg'
  refine ⟨⟨ht, hg, ?_⟩, ht', hg', hiff'.2 (Or.inl ⟨by decide, by decide⟩)⟩
  rw [← Bool.not_eq_true, hiff]
  simp [Span.Surrounds]

/-- Parentheses inside a type are taken as the group and so as the status of an error, and braces
inside a group as the type and so as the method of a route. Neither token need lie in the other. -/
theorem ofText_type_overlaps_group_of_nested :
    let overlap := fun (shape : NameShape) (s : String) =>
      ((ofText shape s.toList).type.bind fun t =>
        (ofText shape s.toList).group.map fun g => t.span.overlaps g.span)
    let read := fun body : String => (readBlock .empty .strict body.toList).outcome
    overlap .word "\x7bString(404)\x7d name Text" = some true ∧
      overlap .path "(\x7bget\x7d all) /x Title" = some true ∧
      overlap .word "\x7ba(b\x7dc) name" = some true ∧
      read "@api (\x7bget\x7d all) /x Title\n@apiError \x7bString(404)\x7d name Text" =
        .ok (some
          { path := "/x".toList, method := "get".toList, version := none, tags := []
            displayName := "Title".toList, description := none, deprecated := false
            deprecatedDescription := none, roles := [], params := []
            responses := [⟨200, "ok".toList, []⟩, ⟨404, "Text".toList,
              [⟨"name".toList, some "String(404)".toList, none, none⟩]⟩] }) := by
  decide +kernel

end Fields

end ApiNotes
