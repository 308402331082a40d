import ApiNotes.Proofs.Tokens

/-! # Scans of a text

A scan goes through a text from left to right and takes the spans of some kind, each the first that
begins after the last one has ended. A kind whose spans are determined by where they begin has one
scan. The occurrences of delimited chunks and those of words are such scans, and since chunks do not
reach into each other, all of them are found.
-/

namespace ApiNotes.Fields

/-- A maximal run of characters that satisfy `p`. -/
structure Run (p : Char → Bool) (s : Text) (span : Span) (word : Text) : Prop where
  place : ∃ before after, s = before ++ (word ++ after) ∧
    span = ⟨before.length, before.length + word.length⟩ ∧
    (∀ c, before.getLast? = some c → p c = false) ∧ ∀ c, after.head? = some c → p c = false
  ne_nil : word ≠ []
  holds : ∀ c ∈ word, p c = true

/-- A bracketed chunk, or a maximal run of word characters. -/
def WordAt (s : Text) (span : Span) : Prop :=
  (∃ inner, Chunk '[' ']' [']', '\n'] s span inner) ∨ ∃ word, Run isWordChar s span word

/-- The first span of a kind from a position on. -/
structure IsFirst (At : Span → Prop) (start : Nat) (span : Span) : Prop where
  holds : At span
  start_le : start ≤ span.start
  first : ∀ span', At span' → start ≤ span'.start → span.start ≤ span'.start

/-- The spans of a kind from left to right, each the first one after the end of the last. -/
inductive Scan (At : Span → Prop) : Nat → List Span → Prop where
  | done {start : Nat} : (∀ span, At span → span.start < start) → Scan At start []
  | next {start : Nat} {span : Span} {spans : List Span} : IsFirst At start span →
      Scan At span.stop spans → Scan At start (span :: spans)

variable {s : Text} {span span' : Span} {At : Span → Prop} {start : Nat} {spans : List Span}

section Search

theorem isFirst_succ_iff (h : ∀ span, At span → span.start ≠ start) :
    IsFirst At start span ↔ IsFirst At (start + 1) span := by
  constructor
  · rintro ⟨hat, hle, hfirst⟩
    have := h span hat
    exact ⟨hat, by omega, fun span' hat' hle' => hfirst span' hat' (by omega)⟩
  · rintro ⟨hat, hle, hfirst⟩
    refine ⟨hat, by omega, fun span' hat' hle' => hfirst span' hat' ?_⟩
    have := h span' hat'
    omega

theorem Scan.earlier (h : ∀ span, At span → span.start ≠ start) (hs : Scan At (start + 1) spans) :
    Scan At start spans := by
  cases hs with
  | done hn =>
    refine .done fun span hat => ?_
    have := hn span hat
    have := h span hat
    omega
  | next hf hs => exact .next ((isFirst_succ_iff h).2 hf) hs

theorem Scan.holds (hs : Scan At start spans) (h : span ∈ spans) : At span := by
  induction hs with
  | done => cases h
  | next hf _ ih =>
    rcases List.mem_cons.1 h with rfl | h
    · exact hf.holds
    · exact ih h

/-- A kind whose spans are determined by where they begin, and are not empty. -/
structure Distinct (At : Span → Prop) : Prop where
  eq : ∀ {a b}, At a → At b → a.start = b.start → a = b
  lt : ∀ {a}, At a → a.start < a.stop

theorem IsFirst.unique (hd : Distinct At) (h : IsFirst At start span)
    (h' : IsFirst At start span') : span = span' :=
  hd.eq h.holds h'.holds <|
    Nat.le_antisymm (h.first _ h'.holds h'.start_le) (h'.first _ h.holds h.start_le)

theorem Scan.start_le (hd : Distinct At) (hs : Scan At start spans) (h : span ∈ spans) :
    start ≤ span.start := by
  induction hs with
  | done => cases h
  | next hf _ ih =>
    have hle := hf.start_le
    rcases List.mem_cons.1 h with rfl | h
    · exact hle
    · have := ih h
      have := hd.lt hf.holds
      omega

theorem Scan.pairwise (hd : Distinct At) (hs : Scan At start spans) :
    spans.Pairwise fun a b => a.start < b.start := by
  induction hs with
  | done => exact List.Pairwise.nil
  | next hf hs ih =>
    refine List.pairwise_cons.2 ⟨fun b hb => ?_, ih⟩
    exact Nat.lt_of_lt_of_le (hd.lt hf.holds) (hs.start_le hd hb)

theorem Scan.unique (hd : Distinct At) {spans' : List Span} (hs : Scan At start spans)
    (hs' : Scan At start spans') : spans = spans' := by
  induction hs generalizing spans' with
  | done hn =>
    cases hs' with
    | done => rfl
    | next hf => exact absurd (hn _ hf.holds) (Nat.not_lt.2 hf.start_le)
  | next hf _ ih =>
    cases hs' with
    | done hn => exact absurd (hn _ hf.holds) (Nat.not_lt.2 hf.start_le)
    | next hf' hs' =>
      obtain rfl := hf.unique hd hf'
      rw [ih hs']

/-- A scan finds every span that no earlier one reaches into. -/
theorem Scan.mem_of_uncrossed (hd : Distinct At) (hs : Scan At start spans) (hat : At span)
    (hle : start ≤ span.start)
    (hun : ∀ span', At span' → span'.start < span.start → span'.stop ≤ span.start) :
    span ∈ spans := by
  induction hs with
  | done hn => exact absurd (hn span hat) (Nat.not_lt.2 hle)
  | @next start first spans hf _ ih =>
    rcases Nat.lt_or_eq_of_le (hf.first span hat hle) with hlt | heq
    · exact List.mem_cons_of_mem _ (ih (hun first hf.holds hlt))
    · exact hd.eq hf.holds hat heq ▸ List.mem_cons_self

def Recognized (length? : Text → Option Nat) (s : Text) (span : Span) : Prop :=
  ∃ n, length? (s.drop span.start) = some n ∧ span.stop = span.start + n

theorem scan_occurrences_append {length? : Text → Option Nat} (hnil : length? [] = none)
    (hpos : ∀ t n, length? t = some n → 0 < n) (before rest : Text) (skip : Nat) :
    Scan (Recognized length? (before ++ rest)) (before.length + skip)
      (occurrences length? before.length skip rest) := by
  induction rest generalizing before skip with
  | nil =>
    refine .done ?_
    rintro span ⟨n, hn, -⟩
    by_contra hlt
    rw [List.append_nil, List.drop_eq_nil_of_le (by omega), hnil] at hn
    cases hn
  | cons c rest ih =>
    have happ : before ++ c :: rest = (before ++ [c]) ++ rest := by simp
    have hlater := ih (before ++ [c])
    rw [← happ, List.length_append, List.length_singleton] at hlater
    cases skip with
    | succ skip =>
      have := hlater skip
      rwa [show before.length + 1 + skip = before.length + (skip + 1) by omega] at this
    | zero =>
      simp only [occurrences]
      split
      · next n hn =>
        have hrest := hlater (n - 1)
        have := hpos _ _ hn
        rw [show before.length + 1 + (n - 1) = before.length + n by omega] at hrest
        refine .next ⟨⟨n, ?_, rfl⟩, Nat.le_refl _, fun _ _ hle => hle⟩ hrest
        rw [List.drop_left, hn]
      · next hn =>
        refine Scan.earlier ?_ (hlater 0)
        rintro span ⟨n, hr, -⟩ hstart
        rw [hstart, Nat.add_zero, List.drop_left, hn] at hr
        cases hr

theorem scan_occurrences {length? : Text → Option Nat} (hnil : length? [] = none)
    (hpos : ∀ t n, length? t = some n → 0 < n) (s : Text) :
    Scan (Recognized length? s) 0 (occurrences length? 0 0 s) :=
  scan_occurrences_append hnil hpos [] s 0

end Search

section Chunks

variable {l r : Char} {stops : List Char} {inner inner' : Text}

theorem Chunk.lt (h : Chunk l r stops s span inner) : span.start < span.stop := by
  obtain ⟨⟨before, after, -, rfl⟩, -⟩ := h
  show before.length < before.length + (inner.length + 2)
  omega

theorem Chunk.getElem?_start (h : Chunk l r stops s span inner) : s[span.start]? = some l := by
  obtain ⟨⟨before, after, rfl, rfl⟩, -⟩ := h
  simp

theorem Chunk.unique (hr : r ∈ stops) (h : Chunk l r stops s span inner)
    (h' : Chunk l r stops s span' inner') (hstart : span.start = span'.start) :
    span = span' ∧ inner = inner' := by
  obtain ⟨he, hstop⟩ := (chunk_iff hr).1 h
  obtain ⟨he', hstop'⟩ := (chunk_iff hr).1 h'
  rw [hstart, he', Option.some.injEq] at he
  refine ⟨?_, he.symm⟩
  cases span
  cases span'
  simp_all

theorem distinct_chunk (hr : r ∈ stops) :
    Distinct fun span => ∃ inner, Chunk l r stops s span inner where
  eq := by
    rintro a b ⟨_, ha⟩ ⟨_, hb⟩ hstart
    exact (ha.unique hr hb hstart).1
  lt := by
    rintro a ⟨_, ha⟩
    exact ha.lt

theorem recognized_chunk_iff (hr : r ∈ stops) :
    Recognized (chunkLength? (enclosed? l r stops)) s span ↔
      ∃ inner, Chunk l r stops s span inner := by
  constructor
  · rintro ⟨n, hn, hstop⟩
    obtain ⟨inner, hi, rfl⟩ := Option.map_eq_some_iff.1 hn
    exact ⟨inner, (chunk_iff hr).2 ⟨hi, hstop⟩⟩
  · rintro ⟨inner, hc⟩
    obtain ⟨hi, hstop⟩ := (chunk_iff hr).1 hc
    exact ⟨_, Option.map_eq_some_iff.2 ⟨inner, hi, rfl⟩, hstop⟩

theorem scan_chunks (hr : r ∈ stops) (s : Text) :
    Scan (fun span => ∃ inner, Chunk l r stops s span inner) 0
      (occurrences (chunkLength? (enclosed? l r stops)) 0 0 s) := by
  have hpos : ∀ t n, chunkLength? (enclosed? l r stops) t = some n → 0 < n := by
    intro t n hn
    obtain ⟨inner, -, rfl⟩ := Option.map_eq_some_iff.1 hn
    omega
  have hscan := scan_occurrences rfl hpos s
  rwa [show Recognized (chunkLength? (enclosed? l r stops)) s =
    fun span => ∃ inner, Chunk l r stops s span inner from
      funext fun span => propext (recognized_chunk_iff hr)] at hscan

/-- Chunks do not reach into each other, since no opening bracket stands inside. -/
theorem Chunk.stop_le (h : Chunk l r (l :: stops) s span inner)
    (h' : Chunk l r (l :: stops) s span' inner') (hlt : span.start < span'.start) (hlr : l ≠ r) :
    span.stop ≤ span'.start := by
  obtain ⟨⟨before, after, rfl, rfl⟩, hfree⟩ := h
  have hl := h'.getElem?_start
  by_contra hgt
  simp only [Nat.not_le] at hlt hgt
  obtain ⟨k, hk⟩ := Nat.exists_eq_add_of_lt hlt
  rw [hk, Nat.add_assoc, List.getElem?_append_right (Nat.le_add_right _ _),
    Nat.add_sub_cancel_left, List.getElem?_cons_succ] at hl
  rcases Nat.lt_or_ge k inner.length with hin | hin
  · rw [List.getElem?_append_left hin] at hl
    exact hfree l (List.mem_of_getElem? hl) List.mem_cons_self
  · obtain rfl : k = inner.length := by omega
    simp [hlr.symm] at hl

theorem mem_occurrences_chunk_iff (hr : r ∈ stops) (hlr : l ≠ r) :
    span ∈ occurrences (chunkLength? (enclosed? l r (l :: stops))) 0 0 s ↔
      ∃ inner, Chunk l r (l :: stops) s span inner := by
  have hr' : r ∈ l :: stops := List.mem_cons_of_mem l hr
  have hscan := scan_chunks (l := l) hr' s
  constructor
  · exact hscan.holds
  · rintro ⟨inner, hc⟩
    refine hscan.mem_of_uncrossed (distinct_chunk hr') ⟨inner, hc⟩ (Nat.zero_le _) ?_
    rintro span' ⟨inner', hc'⟩ hlt
    exact hc'.stop_le hc hlt hlr

end Chunks

section Words

variable {p : Char → Bool} {word word' : Text}

theorem takeWhile_append_of_head {t after : Text} (ht : ∀ c ∈ t, p c = true)
    (ha : ∀ c, after.head? = some c → p c = false) : (t ++ after).takeWhile p = t := by
  rw [List.takeWhile_append_of_pos ht]
  cases after with
  | nil => simp
  | cons c after => simp [ha c rfl]

theorem run_iff : Run p s span word ↔
    word = (s.drop span.start).takeWhile p ∧ word ≠ [] ∧ span.stop = span.start + word.length ∧
      ∀ c, (s.take span.start).getLast? = some c → p c = false := by
  constructor
  · rintro ⟨⟨before, after, rfl, rfl, hb, ha⟩, hne, hp⟩
    refine ⟨?_, hne, rfl, ?_⟩
    · rw [List.drop_left, takeWhile_append_of_head hp ha]
    · rwa [List.take_left]
  · rintro ⟨hword, hne, hstop, hb⟩
    have hlen : span.start ≤ s.length := by
      by_contra hlt
      rw [List.drop_eq_nil_of_le (by omega)] at hword
      exact hne hword
    refine ⟨⟨s.take span.start, (s.drop span.start).dropWhile p, ?_, ?_, hb, ?_⟩, hne, ?_⟩
    · rw [hword, List.takeWhile_append_dropWhile, List.take_append_drop]
    · rw [List.length_take, Nat.min_eq_left hlen, ← hstop]
    · intro c hc
      have hnot := List.head?_dropWhile_not p (s.drop span.start)
      rw [hc] at hnot
      exact hnot
    · intro c hc
      rw [hword] at hc
      exact List.mem_takeWhile_imp hc

theorem Run.unique (h : Run p s span word) (h' : Run p s span' word')
    (hstart : span.start = span'.start) : span = span' := by
  obtain ⟨hw, -, hstop, -⟩ := run_iff.1 h
  obtain ⟨hw', -, hstop', -⟩ := run_iff.1 h'
  cases span
  cases span'
  simp_all

theorem Run.getElem? (h : Run p s span word) {i : Nat} (hi : span.start ≤ i) (hs : i < span.stop) :
    ∃ c, s[i]? = some c ∧ p c = true := by
  obtain ⟨⟨before, after, rfl, rfl, -, -⟩, -, hp⟩ := h
  dsimp only at hi hs
  obtain ⟨k, rfl⟩ := Nat.exists_eq_add_of_le hi
  have hk : k < word.length := by omega
  refine ⟨word[k], ?_, hp _ (List.getElem_mem hk)⟩
  rw [List.getElem?_append_right (Nat.le_add_right _ _), Nat.add_sub_cancel_left,
    List.getElem?_append_left hk, List.getElem?_eq_getElem hk]

theorem Run.lt (h : Run p s span word) : span.start < span.stop := by
  obtain ⟨-, hne, hstop, -⟩ := run_iff.1 h
  have := List.length_pos_iff.2 hne
  omega

theorem WordAt.lt (h : WordAt s span) : span.start < span.stop := by
  rcases h with ⟨_, h⟩ | ⟨_, h⟩
  · exact h.lt
  · exact h.lt

theorem WordAt.getElem?_start (h : WordAt s span) :
    ∃ c, s[span.start]? = some c ∧ (c = '[' ∨ isWordChar c = true) := by
  rcases h with ⟨_, h⟩ | ⟨_, h⟩
  · exact ⟨_, h.getElem?_start, Or.inl rfl⟩
  · obtain ⟨c, hc, hp⟩ := h.getElem? (Nat.le_refl _) h.lt
    exact ⟨c, hc, Or.inr hp⟩

theorem not_chunk_of_run {l r : Char} {stops : List Char} {inner : Text} (hl : p l = false)
    (h : Run p s span word) (h' : Chunk l r stops s span' inner) : span.start ≠ span'.start := by
  intro hstart
  obtain ⟨c, hc, hp⟩ := h.getElem? (Nat.le_refl _) h.lt
  rw [hstart, h'.getElem?_start, Option.some.injEq] at hc
  subst hc
  simp [hl] at hp

theorem distinct_wordAt : Distinct (WordAt s) where
  eq := by
    rintro a b (⟨_, ha⟩ | ⟨_, ha⟩) (⟨_, hb⟩ | ⟨_, hb⟩) hstart
    · exact (ha.unique (by decide) hb hstart).1
    · exact absurd hstart.symm (not_chunk_of_run (by decide) hb ha)
    · exact absurd hstart (not_chunk_of_run (by decide) ha hb)
    · exact ha.unique hb hstart
  lt := WordAt.lt

theorem wordLength?_eq_some_iff {t : Text} {n : Nat} : wordLength? t = some n ↔
    chunkLength? bracketed? t = some n ∨
      t.takeWhile isWordChar ≠ [] ∧ n = (t.takeWhile isWordChar).length := by
  rw [wordLength?, Option.or_eq_some_iff]
  constructor
  · rintro (hn | ⟨-, hn⟩)
    · exact Or.inl hn
    · split at hn
      · cases hn
      · next m hm =>
        obtain rfl := Option.some.inj hn
        refine Or.inr ⟨fun hnil => ?_, hm.symm⟩
        simp [hnil] at hm
  · rintro (hn | ⟨hne, rfl⟩)
    · exact Or.inl hn
    · refine Or.inr ⟨?_, ?_⟩
      · -- The text begins with a word character, and brackets are none.
        cases t with
        | nil => rfl
        | cons c t =>
          have hc : c ≠ '[' := by
            rintro rfl
            exact hne rfl
          simp [chunkLength?, bracketed?, enclosed?, hc]
      · have hpos := List.length_pos_iff.2 hne
        split
        · omega
        · next m hm => exact congrArg some hm.symm

theorem recognized_word_iff : Recognized wordLength? s span ↔
    (∃ inner, Chunk '[' ']' [']', '\n'] s span inner) ∨
      (s.drop span.start).takeWhile isWordChar ≠ [] ∧
        span.stop = span.start + ((s.drop span.start).takeWhile isWordChar).length := by
  rw [← recognized_chunk_iff (by decide)]
  constructor
  · rintro ⟨n, hn, hstop⟩
    rcases wordLength?_eq_some_iff.1 hn with hn | ⟨hne, rfl⟩
    · exact Or.inl ⟨n, hn, hstop⟩
    · exact Or.inr ⟨hne, hstop⟩
  · rintro (⟨n, hn, hstop⟩ | ⟨hne, hstop⟩)
    · exact ⟨n, wordLength?_eq_some_iff.2 (Or.inl hn), hstop⟩
    · exact ⟨_, wordLength?_eq_some_iff.2 (Or.inr ⟨hne, rfl⟩), hstop⟩

theorem WordAt.recognized (h : WordAt s span) : Recognized wordLength? s span := by
  rw [recognized_word_iff]
  rcases h with h | ⟨word, h⟩
  · exact Or.inl h
  · obtain ⟨rfl, hne, hstop, -⟩ := run_iff.1 h
    exact Or.inr ⟨hne, hstop⟩

/-- No run of word characters goes on across a position. -/
def Breaks (s : Text) (i : Nat) : Prop :=
  ∀ c d, (s.take i).getLast? = some c → (s.drop i).head? = some d →
    isWordChar c = true → isWordChar d = false

theorem WordAt.breaks_stop (h : WordAt s span) : Breaks s span.stop := by
  rcases h with ⟨inner, ⟨before, after, rfl, rfl⟩, -⟩ | ⟨word, ⟨before, after, rfl, rfl, -, ha⟩, -⟩
  · intro c d hc hd hword
    have htake : (before ++ '[' :: (inner ++ ']' :: after)).take
        (before.length + (inner.length + 2)) = (before ++ '[' :: inner) ++ [']'] := by
      rw [show before ++ '[' :: (inner ++ ']' :: after) =
        ((before ++ '[' :: inner) ++ [']']) ++ after by simp]
      exact List.take_left' (by simp)
    rw [htake, List.getLast?_append, List.getLast?_singleton, Option.some_or,
      Option.some.injEq] at hc
    subst hc
    exact absurd hword (by decide)
  · intro c d _ hd _
    rw [← List.append_assoc, List.drop_left' (by simp)] at hd
    exact ha d hd

/-- What is first recognized after a break begins a run, if it is no chunk. -/
theorem wordAt_of_isFirst_recognized (hb : Breaks s start)
    (h : IsFirst (Recognized wordLength? s) start span) : WordAt s span := by
  rcases recognized_word_iff.1 h.holds with hc | ⟨hne, hstop⟩
  · exact Or.inl hc
  · refine Or.inr ⟨_, run_iff.2 ⟨rfl, hne, hstop, fun c hc => ?_⟩⟩
    rw [← Bool.not_eq_true]
    intro hword
    obtain ⟨before, hbefore⟩ := List.getLast?_eq_some_iff.1 hc
    have hs : s = before ++ c :: s.drop span.start := by
      rw [← List.singleton_append, ← List.append_assoc, ← hbefore, List.take_append_drop]
    have hlen : span.start ≤ s.length := by
      by_contra hlt
      rw [List.drop_eq_nil_of_le (by omega)] at hne
      exact hne rfl
    have hstart : span.start = before.length + 1 := by
      have := congrArg List.length hbefore
      simp only [List.length_take, List.length_append, List.length_singleton] at this
      omega
    rcases Nat.lt_or_ge before.length start with hlt | hge
    · -- The scan starts right here, so that the run would go on across a break.
      obtain rfl : span.start = start := by
        have := h.start_le
        omega
      obtain ⟨d, t, hd⟩ := List.exists_cons_of_ne_nil hne
      have hhead : (s.drop span.start).head? = some d := by
        obtain ⟨t', ht'⟩ := List.takeWhile_prefix (l := s.drop span.start) isWordChar
        rw [← ht', hd]
        rfl
      have hd' : isWordChar d = true := List.mem_takeWhile_imp (hd ▸ List.mem_cons_self)
      rw [hb c d hc hhead hword] at hd'
      cases hd'
    · have hdrop : s.drop before.length = c :: s.drop span.start := by
        conv_lhs => rw [hs]
        exact List.drop_left
      have hat : Recognized wordLength? s ⟨before.length, before.length +
          ((s.drop before.length).takeWhile isWordChar).length⟩ := by
        refine recognized_word_iff.2 (Or.inr ⟨?_, rfl⟩)
        simp [hdrop, hword]
      have := h.first _ hat hge
      dsimp only at this
      omega

theorem scan_words_of_breaks (hb : Breaks s start)
    (hs : Scan (Recognized wordLength? s) start spans) : Scan (WordAt s) start spans := by
  induction hs with
  | done hn => exact .done fun span hat => hn span hat.recognized
  | next hf _ ih =>
    have hat := wordAt_of_isFirst_recognized hb hf
    exact .next ⟨hat, hf.start_le, fun span' h => hf.first span' h.recognized⟩ (ih hat.breaks_stop)

theorem scan_words (s : Text) : Scan (WordAt s) 0 (occurrences wordLength? 0 0 s) := by
  have hpos : ∀ t n, wordLength? t = some n → 0 < n := by
    intro t n hn
    rcases wordLength?_eq_some_iff.1 hn with hn | ⟨hne, rfl⟩
    · obtain ⟨inner, -, rfl⟩ := Option.map_eq_some_iff.1 hn
      omega
    · exact List.length_pos_iff.2 hne
  exact scan_words_of_breaks (by simp [Breaks]) (scan_occurrences rfl hpos s)

end Words

end ApiNotes.Fields
