import Mathlib.Data.List.TakeWhile
import ApiNotes.Annotation.Fields
import ApiNotes.Proofs.Lines

/-! # What tokens are made of

A span that is recognized stands somewhere in the text, with what recognized it. So the value of a
type is what stands between two braces, a name is a bracketed chunk or a bare word, and a path is a
word that begins with a slash.
-/

namespace ApiNotes

namespace Fields

variable {s before after inner : Text} {span : Span}

theorem overlaps_eq_true_iff {a b : Span} :
    a.overlaps b = true ↔ a.start < b.stop ∧ b.start < a.stop := by
  simp [Span.overlaps]

theorem overlaps_eq_false_iff {a b : Span} :
    a.overlaps b = false ↔ b.stop ≤ a.start ∨ a.stop ≤ b.start := by
  rw [Bool.eq_false_iff, ne_eq, overlaps_eq_true_iff]
  omega

theorem slice_append (before after : Text) (n : Nat) :
    (Span.mk before.length (before.length + n)).slice (before ++ after) = after.take n := by
  rw [Span.slice, List.drop_left, Nat.add_sub_cancel_left]

theorem take_length_takeWhile (p : Char → Bool) (s : Text) :
    s.take (s.takeWhile p).length = s.takeWhile p :=
  (List.prefix_iff_eq_take.1 (List.takeWhile_prefix p)).symm

theorem mem_occurrences {length? : Text → Option Nat} {position skip : Nat}
    (h : span ∈ occurrences length? position skip s) :
    ∃ before after n, s = before ++ after ∧ length? after = some n ∧
      span = ⟨position + before.length, position + before.length + n⟩ := by
  induction s generalizing position skip with
  | nil => cases h
  | cons c s ih =>
    -- A span found further on stands behind `c` as well.
    have later : ∀ {skip}, span ∈ occurrences length? (position + 1) skip s →
        ∃ before after n, c :: s = before ++ after ∧ length? after = some n ∧
          span = ⟨position + before.length, position + before.length + n⟩ := by
      intro skip h
      obtain ⟨before, after, n, rfl, hn, rfl⟩ := ih h
      refine ⟨c :: before, after, n, rfl, hn, ?_⟩
      simp only [List.length_cons, Span.mk.injEq]
      omega
    cases skip with
    | succ skip => exact later h
    | zero =>
      simp only [occurrences] at h
      split at h
      · next n hn =>
        rcases List.mem_cons.1 h with rfl | h
        · exact ⟨[], c :: s, n, rfl, hn, rfl⟩
        · exact later h
      · exact later h

theorem enclosed?_eq_some {l r : Char} {stops : List Char}
    (h : enclosed? l r stops s = some inner) :
    ∃ after, s = l :: (inner ++ r :: after) ∧ ∀ c ∈ inner, c ∉ stops := by
  cases s with
  | nil => cases h
  | cons c s =>
    simp only [enclosed?] at h
    split at h
    · next hc =>
      obtain rfl := Option.some.inj h
      obtain ⟨rfl, hr⟩ := hc
      obtain ⟨after, ha⟩ := List.head?_eq_some_iff.1 hr
      refine ⟨after, ?_, fun d hd => by simpa using List.mem_takeWhile_imp hd⟩
      rw [← ha]
      conv_lhs => rw [← List.take_append_drop (s.takeWhile fun d => !stops.contains d).length s]
      rw [take_length_takeWhile]
    · cases h

/-- The text has `inner` between the brackets `l` and `r` at a span. -/
structure Chunk (l r : Char) (stops : List Char) (s : Text) (span : Span) (inner : Text) :
    Prop where
  place : ∃ before after, s = before ++ l :: (inner ++ r :: after) ∧
    span = ⟨before.length, before.length + (inner.length + 2)⟩
  free : ∀ c ∈ inner, c ∉ stops

variable {l r : Char} {stops : List Char}

theorem chunk_of_mem_occurrences
    (h : span ∈ occurrences (chunkLength? (enclosed? l r stops)) 0 0 s) :
    ∃ inner, Chunk l r stops s span inner := by
  obtain ⟨before, rest, n, rfl, hn, rfl⟩ := mem_occurrences h
  obtain ⟨inner, hi, rfl⟩ := Option.map_eq_some_iff.1 hn
  obtain ⟨after, rfl, hfree⟩ := enclosed?_eq_some hi
  refine ⟨inner, ⟨before, after, rfl, ?_⟩, hfree⟩
  simp only [Nat.zero_add]

theorem Chunk.chunkToken_value (h : Chunk l r stops s span inner) :
    (chunkToken s span).value = inner.trim := by
  obtain ⟨before, after, rfl, rfl⟩ := h.place
  have hslice := slice_append (before ++ [l]) (inner ++ r :: after) inner.length
  simp only [List.append_assoc, List.singleton_append, List.length_append, List.length_cons,
    List.length_nil, List.take_left, Nat.zero_add] at hslice
  simp only [chunkToken]
  rw [show before.length + (inner.length + 2) - 1 = before.length + 1 + inner.length by omega,
    hslice]

theorem isLine_of_mem_occurrences (hn : '\n' ∈ stops)
    (h : span ∈ occurrences (chunkLength? (enclosed? l r stops)) 0 0 s) :
    Text.IsLine (chunkToken s span).value := by
  obtain ⟨inner, hc⟩ := chunk_of_mem_occurrences h
  rw [hc.chunkToken_value]
  exact Text.isLine_trim fun hm => hc.free _ hm hn

theorem mem_of_firstFree {taken spans : List Span} (h : firstFree taken spans = some span) :
    span ∈ spans :=
  List.mem_of_find?_eq_some h

theorem isLine_type {shape : NameShape} {token : Token} (h : (ofText shape s).type = some token) :
    Text.IsLine token.value := by
  obtain ⟨span, hs, rfl⟩ := Option.map_eq_some_iff.1 h
  exact isLine_of_mem_occurrences (by decide) (mem_of_firstFree hs)

/-- A bracketed chunk, or word characters. -/
inductive IsName : Text → Prop where
  | bracketed {inner : Text} : (∀ c ∈ inner, c ∉ [']', '\n']) → IsName ('[' :: (inner ++ [']']))
  | bare {word : Text} : word ≠ [] → (∀ c ∈ word, isWordChar c = true) → IsName word

theorem IsName.ne_nil {name : Text} (h : IsName name) : name ≠ [] := by
  cases h with
  | bracketed => exact List.cons_ne_nil _ _
  | bare hne => exact hne

theorem isName_take_of_wordLength? {n : Nat} (h : wordLength? s = some n) :
    IsName (s.take n) := by
  rcases Option.or_eq_some_iff.1 h with h | ⟨-, h⟩
  · obtain ⟨inner, hi, rfl⟩ := Option.map_eq_some_iff.1 h
    obtain ⟨after, rfl, hfree⟩ := enclosed?_eq_some hi
    have htake : ('[' :: (inner ++ ']' :: after)).take (inner.length + 2) =
        '[' :: (inner ++ [']']) := by
      rw [List.take_succ_cons, List.take_length_add_append]
      rfl
    rw [htake]
    exact .bracketed hfree
  · split at h
    · cases h
    · next m hm =>
      obtain rfl := Option.some.inj h
      rw [show m + 1 = (s.takeWhile isWordChar).length from hm.symm, take_length_takeWhile]
      refine .bare ?_ fun c hc => List.mem_takeWhile_imp hc
      intro hnil
      simp [hnil] at hm

theorem isName_of_name {token : Token} (h : (ofText .word s).name = some token) :
    IsName token.value := by
  obtain ⟨span, hs, rfl⟩ := Option.map_eq_some_iff.1 h
  obtain ⟨before, after, n, rfl, hn, rfl⟩ := mem_occurrences (mem_of_firstFree hs)
  simp only [nameToken, Nat.zero_add, slice_append]
  exact isName_take_of_wordLength? hn

theorem mem_paths {fresh : Bool} {position : Nat} (h : span ∈ paths fresh position s) :
    ∃ before after, s = before ++ '/' :: after ∧
      span = ⟨position + before.length,
        position + before.length + (('/' :: after).takeWhile fun d => !isBlank d).length⟩ := by
  induction s generalizing fresh position with
  | nil => cases h
  | cons c s ih =>
    have later : span ∈ paths (isBlank c) (position + 1) s →
        ∃ before after, c :: s = before ++ '/' :: after ∧
          span = ⟨position + before.length, position + before.length +
            (('/' :: after).takeWhile fun d => !isBlank d).length⟩ := by
      intro h
      obtain ⟨before, after, rfl, rfl⟩ := ih h
      refine ⟨c :: before, after, rfl, ?_⟩
      simp only [List.length_cons, Span.mk.injEq]
      omega
    simp only [paths] at h
    split at h
    · next hc =>
      obtain ⟨-, hc⟩ := Bool.and_eq_true_iff.1 hc
      obtain rfl := beq_iff_eq.1 hc
      rcases List.mem_cons.1 h with rfl | h
      · exact ⟨[], s, rfl, rfl⟩
      · exact later h
    · exact later h

theorem path_of_name {token : Token} (h : (ofText .path s).name = some token) :
    token.value.head? = some '/' ∧ ∀ c ∈ token.value, isBlank c = false := by
  obtain ⟨span, hs, rfl⟩ := Option.map_eq_some_iff.1 h
  obtain ⟨before, after, rfl, rfl⟩ := mem_paths (mem_of_firstFree hs)
  simp only [nameToken, Nat.zero_add, slice_append, take_length_takeWhile]
  refine ⟨by simp [isBlank], fun c hc => ?_⟩
  simpa using List.mem_takeWhile_imp hc

section First

structure FirstChunk (l r : Char) (stops : List Char) (s : Text) (span : Span) : Prop where
  chunk : ∃ inner, Chunk l r stops s span inner
  first : ∀ span' inner, Chunk l r stops s span' inner → span.start ≤ span'.start

theorem enclosed?_append (hr : r ∈ stops) (hfree : ∀ c ∈ inner, c ∉ stops) (after : Text) :
    enclosed? l r stops (l :: (inner ++ r :: after)) = some inner := by
  have htake : (inner ++ r :: after).takeWhile (fun d => !stops.contains d) = inner := by
    rw [List.takeWhile_append_of_pos (by simpa using hfree), List.takeWhile_cons_of_neg (by simpa),
      List.append_nil]
  simp only [enclosed?, htake, List.drop_left, List.head?_cons, and_self, ↓reduceIte]

theorem chunk_iff (hr : r ∈ stops) :
    Chunk l r stops s span inner ↔
      enclosed? l r stops (s.drop span.start) = some inner ∧
        span.stop = span.start + (inner.length + 2) := by
  constructor
  · rintro ⟨⟨before, after, rfl, rfl⟩, hfree⟩
    rw [List.drop_left]
    exact ⟨enclosed?_append hr hfree after, rfl⟩
  · rintro ⟨h, hstop⟩
    obtain ⟨after, hdrop, hfree⟩ := enclosed?_eq_some h
    have hlen : span.start ≤ s.length := by
      by_contra hlt
      rw [List.drop_eq_nil_of_le (by omega)] at hdrop
      cases hdrop
    refine ⟨⟨s.take span.start, after, ?_, ?_⟩, hfree⟩
    · rw [← hdrop, List.take_append_drop]
    · rw [List.length_take, Nat.min_eq_left hlen, ← hstop]

theorem head?_occurrences {length? : Text → Option Nat} (hnil : length? [] = none)
    (position : Nat) (s : Text) :
    (∀ i, length? (s.drop i) = none) ∧ occurrences length? position 0 s = [] ∨
      ∃ i n, length? (s.drop i) = some n ∧ (∀ j < i, length? (s.drop j) = none) ∧
        (occurrences length? position 0 s).head? = some ⟨position + i, position + i + n⟩ := by
  induction s generalizing position with
  | nil => exact Or.inl ⟨by simp [hnil], rfl⟩
  | cons c s ih =>
    cases hc : length? (c :: s) with
    | some n => exact Or.inr ⟨0, n, hc, by simp, by simp [occurrences, hc]⟩
    | none =>
      simp only [occurrences, hc]
      rcases ih (position + 1) with ⟨hnone, hempty⟩ | ⟨i, n, hn, hearlier, hhead⟩
      · refine Or.inl ⟨fun i => ?_, hempty⟩
        cases i with
        | zero => exact hc
        | succ i => exact hnone i
      · refine Or.inr ⟨i + 1, n, hn, fun j hj => ?_, ?_⟩
        · cases j with
          | zero => exact hc
          | succ j => exact hearlier j (by omega)
        · rw [hhead]
          simp only [Option.some.injEq, Span.mk.injEq]
          omega

theorem head?_occurrences_iff (hr : r ∈ stops) :
    (occurrences (chunkLength? (enclosed? l r stops)) 0 0 s).head? = some span ↔
      FirstChunk l r stops s span := by
  have hnil : chunkLength? (enclosed? l r stops) [] = none := rfl
  rcases head?_occurrences hnil 0 s with ⟨hnone, hempty⟩ | ⟨i, n, hn, hearlier, hhead⟩
  · rw [hempty]
    constructor
    · rintro ⟨⟩
    · rintro ⟨⟨inner, hc⟩, -⟩
      have hstart := hnone span.start
      rw [chunkLength?, ((chunk_iff hr).1 hc).1] at hstart
      cases hstart
  · obtain ⟨inner, hi, rfl⟩ := Option.map_eq_some_iff.1 hn
    rw [hhead, Option.some.injEq]
    simp only [Nat.zero_add]
    have hchunk : Chunk l r stops s ⟨i, i + (inner.length + 2)⟩ inner :=
      (chunk_iff hr).2 ⟨hi, rfl⟩
    have hfirst : ∀ span' inner', Chunk l r stops s span' inner' → i ≤ span'.start := by
      intro span' inner' hc
      by_contra hlt
      have hstart := hearlier span'.start (by omega)
      rw [chunkLength?, ((chunk_iff hr).1 hc).1] at hstart
      cases hstart
    constructor
    · rintro rfl
      exact ⟨⟨inner, hchunk⟩, hfirst⟩
    · rintro ⟨⟨inner', hc⟩, hleast⟩
      have hstart : span.start = i :=
        Nat.le_antisymm (hleast _ inner hchunk) (hfirst span inner' hc)
      obtain ⟨he, hstop⟩ := (chunk_iff hr).1 hc
      rw [hstart, hi, Option.some.injEq] at he
      rw [Span.mk.injEq]
      exact ⟨hstart.symm, by rw [hstop, hstart, he]⟩

theorem chunk_append_iff {t : Text}
    (ht : r ∉ t) : Chunk l r stops (s ++ t) span inner ↔ Chunk l r stops s span inner := by
  constructor
  · rintro ⟨⟨before, after, heq, hspan⟩, hfree⟩
    have heq' : s ++ t = (before ++ l :: (inner ++ [r])) ++ after := by simp [heq]
    rcases List.append_eq_append_iff.1 heq' with ⟨rest, hs, rfl⟩ | ⟨rest, hs, ht'⟩
    · -- The text ends inside the chunk only if the closing bracket is in what was appended.
      rcases List.eq_nil_or_concat rest with rfl | ⟨init, c, rfl⟩
      · exact ⟨⟨before, [], by simpa using hs.symm, hspan⟩, hfree⟩
      · have hlast : r = c := by
          simpa [List.getLast?_cons] using congrArg List.getLast? hs
        exact absurd (by simp [hlast]) ht
    · exact ⟨⟨before, rest, by simpa using hs, hspan⟩, hfree⟩
  · rintro ⟨⟨before, after, rfl, hspan⟩, hfree⟩
    exact ⟨⟨before, after ++ t, by simp, hspan⟩, hfree⟩

theorem firstChunk_append_iff {t : Text}
    (ht : r ∉ t) : FirstChunk l r stops (s ++ t) span ↔ FirstChunk l r stops s span := by
  constructor
  · rintro ⟨⟨inner, hc⟩, hfirst⟩
    exact ⟨⟨inner, (chunk_append_iff ht).1 hc⟩,
      fun span' inner' hc' => hfirst span' inner' ((chunk_append_iff ht).2 hc')⟩
  · rintro ⟨⟨inner, hc⟩, hfirst⟩
    exact ⟨⟨inner, (chunk_append_iff ht).2 hc⟩,
      fun span' inner' hc' => hfirst span' inner' ((chunk_append_iff ht).1 hc')⟩

theorem FirstChunk.start_le_stop (h : FirstChunk l r stops s span) : span.start ≤ span.stop := by
  obtain ⟨inner, ⟨before, after, rfl, rfl⟩, -⟩ := h.chunk
  exact Nat.le_add_right _ _

theorem FirstChunk.stop_le (h : FirstChunk l r stops s span) : span.stop ≤ s.length := by
  obtain ⟨inner, ⟨before, after, rfl, rfl⟩, -⟩ := h.chunk
  simp only [List.length_append, List.length_cons]
  omega

end First

end Fields

end ApiNotes
