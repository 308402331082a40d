import Mathlib.Data.List.Basic
import ApiNotes.Annotation.Block
import ApiNotes.Annotation.Fields

/-! # Blocks as extents of a text

The blocks of a text are the extents that a search from left to right finds: the next one opens at
the earliest delimiter that occurs again after it, and closes where it first does. Positions count
characters; a delimiter takes three of them, as it takes three bytes.
-/

namespace ApiNotes

namespace Text

theorem after?_eq_some_iff {lead s rest : Text} : after? lead s = some rest ↔ s = lead ++ rest := by
  induction lead generalizing s with
  | nil => simp [after?]
  | cons c lead ih =>
    cases s with
    | nil => simp [after?]
    | cons d s =>
      by_cases h : c = d
      · simp [after?, h, ih]
      · simp [after?, h, Ne.symm h]

theorem after?_eq_none_iff {lead s : Text} : after? lead s = none ↔ ¬ lead <+: s := by
  rw [Option.eq_none_iff_forall_ne_some]
  constructor
  · rintro h ⟨rest, hr⟩
    exact h rest (after?_eq_some_iff.2 hr.symm)
  · intro h rest hr
    exact h ⟨rest, (after?_eq_some_iff.1 hr).symm⟩

end Text

namespace Block

def quotes : List Char := ['"', '\'']

/-- The delimiter of `q` stands at a position of the text. -/
def OccursAt (text : Text) (q : Char) (i : Nat) : Prop := delimiter q <+: text.drop i

/-- A delimiter stands here that occurs again behind itself. -/
def Closable (text : Text) (i : Nat) : Prop :=
  ∃ q ∈ quotes, OccursAt text q i ∧ ∃ j, i + 3 ≤ j ∧ OccursAt text q j

/-- The place of a block: its quote and where its two delimiters stand. -/
structure Extent where
  quote : Char
  opening : Nat
  closing : Nat
  deriving DecidableEq, Repr

namespace Extent

def stop (e : Extent) : Nat := e.closing + 3

def body (e : Extent) (text : Text) : Text := (Span.mk (e.opening + 3) e.closing).slice text

/-- The extent that a search from a position finds: it opens at the earliest delimiter that can be
closed and closes at the first delimiter that can close it. -/
structure IsNext (text : Text) (start : Nat) (e : Extent) : Prop where
  quote_mem : e.quote ∈ quotes
  start_le : start ≤ e.opening
  opens : OccursAt text e.quote e.opening
  earliest : ∀ i, start ≤ i → i < e.opening → ¬ Closable text i
  apart : e.opening + 3 ≤ e.closing
  closes : OccursAt text e.quote e.closing
  first : ∀ j, e.opening + 3 ≤ j → j < e.closing → ¬ OccursAt text e.quote j

end Extent

/-- The extents that a search finds one after the other, until no delimiter can be closed. -/
inductive Segmented (text : Text) : Nat → List Extent → Prop where
  | done {start : Nat} : (∀ i, start ≤ i → ¬ Closable text i) → Segmented text start []
  | next {start : Nat} {e : Extent} {es : List Extent} : e.IsNext text start →
      Segmented text e.stop es → Segmented text start (e :: es)

section Occurrences

variable {text : Text} {q : Char} {i : Nat}

theorem OccursAt.quote_eq {q' : Char} (h : OccursAt text q i) (h' : OccursAt text q' i) :
    q = q' := by
  obtain ⟨t, ht⟩ := h
  obtain ⟨t', ht'⟩ := h'
  exact (List.cons.inj (ht.trans ht'.symm)).1

theorem OccursAt.add_three_le (h : OccursAt text q i) : i + 3 ≤ text.length := by
  have := h.length_le
  simp only [delimiter, List.length_cons, List.length_nil, List.length_drop] at this
  omega

theorem drop_of_occursAt (h : OccursAt text q i) :
    text.drop i = delimiter q ++ text.drop (i + 3) := by
  obtain ⟨t, ht⟩ := h
  rw [← List.drop_drop, ← ht, List.drop_left' (by rfl)]

theorem after?_delimiter_drop_iff {rest : Text} :
    Text.after? (delimiter q) (text.drop i) = some rest ↔
      OccursAt text q i ∧ rest = text.drop (i + 3) := by
  rw [Text.after?_eq_some_iff]
  constructor
  · intro h
    have ho : OccursAt text q i := ⟨rest, h.symm⟩
    exact ⟨ho, List.append_cancel_left (h.symm.trans (drop_of_occursAt ho))⟩
  · rintro ⟨ho, rfl⟩
    exact drop_of_occursAt ho

end Occurrences

section Scan

variable {text s body rest : Text} {q : Char} {i : Nat}

theorem close?_eq_none_iff : close? q s = none ↔ ∀ k, ¬ delimiter q <+: s.drop k := by
  induction s with
  | nil => simp [close?, delimiter]
  | cons c s ih =>
    simp only [close?]
    split
    · next r hr =>
      rw [Text.after?_eq_some_iff] at hr
      simp only [reduceCtorEq, false_iff, not_forall, not_not]
      exact ⟨0, r, hr.symm⟩
    · next hn =>
      rw [Text.after?_eq_none_iff] at hn
      rw [Option.map_eq_none_iff, ih]
      constructor
      · rintro h (_ | k)
        · exact hn
        · exact h k
      · exact fun h k => h (k + 1)

theorem close?_eq_some (h : close? q s = some (body, rest)) :
    s = body ++ (delimiter q ++ rest) ∧ ∀ k < body.length, ¬ delimiter q <+: s.drop k := by
  induction s generalizing body with
  | nil => cases h
  | cons c s ih =>
    simp only [close?] at h
    split at h
    · next r hr =>
      obtain ⟨rfl, rfl⟩ := Prod.mk.inj (Option.some.inj h)
      rw [Text.after?_eq_some_iff] at hr
      exact ⟨hr, fun k hk => absurd hk (Nat.not_lt_zero k)⟩
    · next hn =>
      obtain ⟨⟨b, r⟩, hb, hp⟩ := Option.map_eq_some_iff.1 h
      obtain ⟨rfl, rfl⟩ := Prod.mk.inj hp
      obtain ⟨hs, hk⟩ := ih hb
      refine ⟨congrArg (c :: ·) hs, ?_⟩
      rintro (_ | k) hlt
      · exact Text.after?_eq_none_iff.1 hn
      · exact hk k (Nat.lt_of_succ_lt_succ hlt)

theorem close?_drop_eq_none_iff :
    close? q (text.drop i) = none ↔ ∀ j, i ≤ j → ¬ OccursAt text q j := by
  simp only [close?_eq_none_iff, List.drop_drop, OccursAt]
  constructor
  · intro h j hj
    obtain ⟨k, rfl⟩ := Nat.exists_eq_add_of_le hj
    exact h k
  · exact fun h k => h (i + k) (Nat.le_add_right i k)

theorem close?_drop_eq_some (h : close? q (text.drop i) = some (body, rest)) :
    ∃ j, i ≤ j ∧ OccursAt text q j ∧ (∀ k, i ≤ k → k < j → ¬ OccursAt text q k) ∧
      body = (Span.mk i j).slice text ∧ rest = text.drop (j + 3) := by
  obtain ⟨hs, hk⟩ := close?_eq_some h
  have hdrop : text.drop (i + body.length) = delimiter q ++ rest := by
    rw [← List.drop_drop, hs, List.drop_left]
  refine ⟨i + body.length, Nat.le_add_right _ _, ⟨rest, hdrop.symm⟩, ?_, ?_, ?_⟩
  · intro k hik hlt
    obtain ⟨m, rfl⟩ := Nat.exists_eq_add_of_le hik
    rw [OccursAt, ← List.drop_drop]
    exact hk m (by omega)
  · rw [Span.slice, hs, Nat.add_sub_cancel_left, List.take_left]
  · rw [← List.drop_drop, hdrop, List.drop_left' (by rfl)]

theorem here?_drop_eq_none_iff :
    here? q (text.drop i) = none ↔
      (OccursAt text q i → ∀ j, i + 3 ≤ j → ¬ OccursAt text q j) := by
  rw [here?, Option.bind_eq_none_iff]
  constructor
  · intro h ho
    exact close?_drop_eq_none_iff.1 (h _ (after?_delimiter_drop_iff.2 ⟨ho, rfl⟩))
  · intro h r hr
    obtain ⟨ho, rfl⟩ := after?_delimiter_drop_iff.1 hr
    exact close?_drop_eq_none_iff.2 (h ho)

theorem at?_drop_eq_none_iff : at? (text.drop i) = none ↔ ¬ Closable text i := by
  simp only [at?, Option.or_eq_none_iff, here?_drop_eq_none_iff, Closable, quotes, List.mem_cons,
    List.not_mem_nil, or_false, exists_eq_or_imp, exists_eq_left, not_or, not_and, not_exists]

theorem here?_drop_eq_some (hq : q ∈ quotes) (h : here? q (text.drop i) = some (body, rest)) :
    ∃ e : Extent, e.IsNext text i ∧ body = e.body text ∧ rest = text.drop e.stop := by
  obtain ⟨r, hr, hc⟩ := Option.bind_eq_some_iff.1 h
  obtain ⟨ho, rfl⟩ := after?_delimiter_drop_iff.1 hr
  obtain ⟨j, hij, hj, hfirst, hbody, hrest⟩ := close?_drop_eq_some hc
  refine ⟨⟨q, i, j⟩, ⟨hq, Nat.le_refl i, ho, ?_, hij, hj, hfirst⟩, hbody, hrest⟩
  exact fun k hk hlt => absurd hlt (Nat.not_lt_of_ge hk)

theorem at?_drop_eq_some (h : at? (text.drop i) = some (body, rest)) :
    ∃ e : Extent, e.IsNext text i ∧ body = e.body text ∧ rest = text.drop e.stop := by
  rcases Option.or_eq_some_iff.1 h with h | ⟨-, h⟩
  · exact here?_drop_eq_some (by decide) h
  · exact here?_drop_eq_some (by decide) h

theorem Segmented.earlier {es : List Extent} (hi : ¬ Closable text i)
    (h : Segmented text (i + 1) es) : Segmented text i es := by
  have hstart : ∀ k, i ≤ k → k = i ∨ i + 1 ≤ k := fun k hk => by omega
  cases h with
  | done h =>
    refine .done fun k hk => ?_
    rcases hstart k hk with rfl | hk
    · exact hi
    · exact h k hk
  | next he hes =>
    refine .next { he with start_le := Nat.le_of_succ_le he.start_le, earliest := ?_ } hes
    intro k hk hlt
    rcases hstart k hk with rfl | hk
    · exact hi
    · exact he.earliest k hk hlt

theorem exists_segmented_rawBodies (hs : text.drop i = s) :
    ∃ es, Segmented text i es ∧ rawBodies s = es.map (Extent.body · text) := by
  fun_induction rawBodies s generalizing i with
  | case1 =>
    refine ⟨[], .done fun k hk => ?_, rfl⟩
    have hdrop : text.drop k = [] := by
      obtain ⟨m, rfl⟩ := Nat.exists_eq_add_of_le hk
      rw [← List.drop_drop, hs, List.drop_nil]
    rintro ⟨q, -, ho, -⟩
    rw [OccursAt, hdrop] at ho
    exact List.cons_ne_nil _ _ (List.prefix_nil.1 ho)
  | case2 c s body rest hat _ ih =>
    obtain ⟨e, he, rfl, hrest⟩ := at?_drop_eq_some (hs ▸ hat)
    obtain ⟨es, hes, hmap⟩ := ih hrest.symm
    exact ⟨e :: es, .next he hes, by rw [hmap, List.map_cons]⟩
  | case3 c s hat ih =>
    have hi : ¬ Closable text i := at?_drop_eq_none_iff.1 (hs ▸ hat)
    have hdrop : text.drop (i + 1) = s := by
      rw [← List.drop_drop, hs, List.drop_one, List.tail_cons]
    obtain ⟨es, hes, hmap⟩ := ih hdrop
    exact ⟨es, hes.earlier hi, hmap⟩

end Scan

section Extents

variable {text : Text} {start : Nat} {e e' : Extent} {es es' : List Extent}

theorem Extent.IsNext.closable (h : e.IsNext text start) : Closable text e.opening :=
  ⟨e.quote, h.quote_mem, h.opens, e.closing, h.apart, h.closes⟩

theorem Extent.IsNext.unique (h : e.IsNext text start) (h' : e'.IsNext text start) : e = e' := by
  have ho : e.opening = e'.opening := by
    rcases Nat.lt_trichotomy e.opening e'.opening with hlt | heq | hlt
    · exact absurd h.closable (h'.earliest _ h.start_le hlt)
    · exact heq
    · exact absurd h'.closable (h.earliest _ h'.start_le hlt)
  have hq : e.quote = e'.quote := h.opens.quote_eq (ho ▸ h'.opens)
  have hc : e.closing = e'.closing := by
    rcases Nat.lt_trichotomy e.closing e'.closing with hlt | heq | hlt
    · exact absurd (hq ▸ h.closes) (h'.first _ (ho ▸ h.apart) hlt)
    · exact heq
    · exact absurd (hq ▸ h'.closes) (h.first _ (ho ▸ h'.apart) hlt)
  cases e
  cases e'
  simp_all

theorem Segmented.unique (h : Segmented text start es) (h' : Segmented text start es') :
    es = es' := by
  induction h generalizing es' with
  | done hn =>
    cases h' with
    | done => rfl
    | next he => exact absurd he.closable (hn _ he.start_le)
  | next he _ ih =>
    cases h' with
    | done hn => exact absurd he.closable (hn _ he.start_le)
    | next he' hes' =>
      obtain rfl := he.unique he'
      rw [ih hes']

theorem Segmented.start_le_opening (h : Segmented text start es) (he : e ∈ es) :
    start ≤ e.opening := by
  induction h with
  | done => cases he
  | next hn _ ih =>
    rcases List.mem_cons.1 he with rfl | he
    · exact hn.start_le
    · have hstop := ih he
      have hle := hn.start_le
      have hap := hn.apart
      simp only [Extent.stop] at hstop
      omega

theorem Segmented.pairwise (h : Segmented text start es) :
    es.Pairwise fun a b => a.stop ≤ b.opening := by
  induction h with
  | done => exact List.Pairwise.nil
  | next _ hes ih => exact List.pairwise_cons.2 ⟨fun _ hb => hes.start_le_opening hb, ih⟩

theorem Segmented.exists_isNext (h : Segmented text start es) (he : e ∈ es) :
    ∃ start', e.IsNext text start' := by
  induction h with
  | done => cases he
  | next hn _ ih =>
    rcases List.mem_cons.1 he with rfl | he
    · exact ⟨_, hn⟩
    · exact ih he

/-- Extents in order do not nest: none opens inside another. -/
theorem not_opening_inside (h : es.Pairwise fun a b => a.stop ≤ b.opening)
    (hap : ∀ e ∈ es, e.opening ≤ e.stop) (he : e ∈ es) (he' : e' ∈ es) :
    ¬ (e.opening < e'.opening ∧ e'.opening < e.stop) := by
  induction es with
  | nil => cases he
  | cons a es ih =>
    rw [List.pairwise_cons] at h
    rw [List.forall_mem_cons] at hap
    rcases List.mem_cons.1 he with rfl | hm
    · rcases List.mem_cons.1 he' with rfl | hm'
      · omega
      · have := h.1 _ hm'
        omega
    · rcases List.mem_cons.1 he' with rfl | hm'
      · have := h.1 _ hm
        omega
      · exact ih h.2 hap.2 hm hm'

/-- A delimiter that can be closed opens an extent or lies within one. -/
theorem Segmented.covers {i : Nat} (h : Segmented text start es) (hi : start ≤ i)
    (hc : Closable text i) :
    ∃ e ∈ es, e.opening ≤ i ∧ i < e.stop := by
  induction h with
  | done hn => exact absurd hc (hn i hi)
  | @next start e es he _ ih =>
    by_cases hlt : i < e.opening
    · exact absurd hc (he.earliest i hi hlt)
    · by_cases hstop : i < e.stop
      · exact ⟨e, List.mem_cons_self, Nat.not_lt.1 hlt, hstop⟩
      · obtain ⟨e', he', hb⟩ := ih (Nat.not_lt.1 hstop)
        exact ⟨e', List.mem_cons_of_mem _ he', hb⟩

theorem Segmented.length_bound (h : Segmented text start es) (hs : start ≤ text.length) :
    start + 6 * es.length ≤ text.length := by
  induction h with
  | done => simpa using hs
  | next he _ ih =>
    have hle := he.start_le
    have hap := he.apart
    have hend := he.closes.add_three_le
    have := ih hend
    simp only [Extent.stop, List.length_cons] at this ⊢
    omega

theorem Extent.IsNext.not_infix_body (h : e.IsNext text start) :
    ¬ delimiter e.quote <:+: e.body text := by
  rintro ⟨before, after, hb⟩
  have hlen := congrArg List.length hb
  simp only [Extent.body, Span.slice, List.length_append, List.length_take, delimiter,
    List.length_cons, List.length_nil] at hlen
  refine h.first (e.opening + 3 + before.length) (Nat.le_add_right _ _) (by omega) ?_
  have hprefix : before ++ delimiter e.quote <+: text.drop (e.opening + 3) :=
    (List.prefix_append _ after).trans (hb ▸ List.take_prefix _ _)
  obtain ⟨t, ht⟩ := hprefix
  rw [OccursAt, ← List.drop_drop, ← ht, List.append_assoc, List.drop_left]
  exact List.prefix_append _ t

end Extents

/-- The bodies of a text are those of the one list of extents that a search from left to right
finds. The extents stand apart and in order, and each delimiter that can be closed is part of
one. -/
theorem bodies_segmentation (text : Text) :
    ∃ es, (Segmented text 0 es ∧ ∀ es', Segmented text 0 es' → es' = es) ∧
      bodies text = es.map (fun e => (Text.dedent (e.body text)).trim) ∧
      (∀ e ∈ es, ¬ delimiter e.quote <:+: e.body text) ∧
      es.Pairwise (fun a b => a.stop ≤ b.opening) ∧
      (∀ e ∈ es, ∀ e' ∈ es, ¬ (e.opening < e'.opening ∧ e'.opening < e.stop)) ∧
      (∀ e ∈ es, Closable text e.opening) ∧
      (∀ i, Closable text i → ∃ e ∈ es, e.opening ≤ i ∧ i < e.stop) ∧
      6 * es.length ≤ text.length := by
  obtain ⟨es, hes, hmap⟩ := exists_segmented_rawBodies (List.drop_zero : text.drop 0 = text)
  refine ⟨es, ⟨hes, fun es' h => h.unique hes⟩, ?_, ?_, hes.pairwise, ?_, ?_, ?_, ?_⟩
  · rw [bodies, hmap, List.map_map]
    rfl
  · intro e he
    obtain ⟨start, hn⟩ := hes.exists_isNext he
    exact hn.not_infix_body
  · intro e he e' he'
    refine not_opening_inside hes.pairwise (fun a ha => ?_) he he'
    obtain ⟨start, hn⟩ := hes.exists_isNext ha
    have := hn.apart
    simp only [Extent.stop]
    omega
  · intro e he
    obtain ⟨start, hn⟩ := hes.exists_isNext he
    exact hn.closable
  · exact fun i hc => hes.covers (Nat.zero_le i) hc
  · have := hes.length_bound (Nat.zero_le _)
    omega

example : bodies "\"\"\" '''a\"\"b''''".toList = ["a\"\"b".toList] := by decide +kernel

end Block

end ApiNotes
