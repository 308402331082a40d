import ApiNotes.Proofs.Scans

/-! # Leftmost tokens

Every token of a tag line is the leftmost of its kind, and it is absent only if there is none. A
type or a group is a delimited chunk outside the chunk that an optional name takes. A path is a word
between blanks, and the other names are found by a scan for words. So the fields of a text are
determined without the way in which they are searched.
-/

namespace ApiNotes

/-- The span is cut out of the bytes of a text at the ends of characters. -/
structure Span.Cuts (span : Span) (s : Text) : Prop where
  start_valid : String.Pos.Raw.IsValid (String.ofList s) ⟨(span.bytes s).start⟩
  stop_valid : String.Pos.Raw.IsValid (String.ofList s) ⟨(span.bytes s).stop⟩
  extract : s.toBytes.extract (span.bytes s).start (span.bytes s).stop = (span.slice s).toBytes

namespace Fields

/-- No character, or a blank one, comes last. -/
def EndsBlank (before : Text) : Prop := ∀ c, before.getLast? = some c → isBlank c = true

/-- A bracketed chunk at the start of the text or right after a blank. -/
structure IsOptional (s : Text) (span : Span) : Prop where
  chunk : ∃ inner, Chunk '[' ']' [']', '\n'] s span inner
  fresh : EndsBlank (s.take span.start)

/-- The first of these, of which no type and no group takes a part where names are words. -/
def IsReserved (shape : NameShape) (s : Text) (span : Span) : Prop :=
  shape = .word ∧ IsFirst (IsOptional s) 0 span

/-- The token of a chunk between `l` and `r`, outside the reserved span. -/
structure IsDelimited (l r : Char) (shape : NameShape) (s : Text) (t : Token) : Prop where
  chunk : ∃ inner, Chunk l r [l, r, '\n'] s t.span inner ∧ t.value = inner.trim
  outside : ∀ o, IsReserved shape s o → t.span.overlaps o = false

def NameAt : NameShape → Text → Span → Prop
  | .word, s, span => ∃ spans, Scan (WordAt s) 0 spans ∧ span ∈ spans
  | .path, s, span => ∃ word, Run (fun c => !isBlank c) s span word ∧ word.head? = some '/'

/-- The token of a name that overlaps none of the tokens `taken`. -/
structure IsFreeName (shape : NameShape) (s : Text) (taken : List Token) (t : Token) : Prop where
  name : NameAt shape s t.span
  value : t.value = t.span.slice s
  free : ∀ t' ∈ taken, t.span.overlaps t'.span = false

/-- The token of a kind that begins before all others; there is none only if the kind has none. -/
def IsLeftmost (P : Token → Prop) : Option Token → Prop
  | none => ∀ t, ¬ P t
  | some t => P t ∧ ∀ t', P t' → t' = t ∨ t.span.start < t'.span.start

/-- The tokens that are there. -/
def tokens (f : Fields) : List Token := f.type.toList ++ f.group.toList ++ f.name.toList

/-- The fields of a text, by what its tokens are and where they stand. -/
structure Tokenized (shape : NameShape) (s : Text) (f : Fields) : Prop where
  cuts : ∀ t ∈ f.tokens, t.span.Cuts s
  type : IsLeftmost (IsDelimited '\x7b' '\x7d' shape s) f.type
  group : IsLeftmost (IsDelimited '(' ')' shape s) f.group
  name : IsLeftmost (IsFreeName shape s (f.type.toList ++ f.group.toList)) f.name
  description : f.description = Text.trim (s.drop ((f.tokens.map (·.span.stop)).max?.getD 0))

variable {s : Text} {span : Span}

section Blanks

theorem endsBlank_append_singleton {before : Text} {c : Char} :
    EndsBlank (before ++ [c]) ↔ isBlank c = true := by
  simp [EndsBlank]

variable {before rest : Text} {fresh : Bool}

theorem mem_paths_cons_iff {c : Char} {position : Nat} :
    span ∈ paths fresh position (c :: rest) ↔
      (fresh = true ∧ c = '/' ∧
        span = ⟨position, position + ((c :: rest).takeWhile fun d => !isBlank d).length⟩) ∨
      span ∈ paths (isBlank c) (position + 1) rest := by
  simp only [paths]
  split
  · next h =>
    obtain ⟨hf, hc⟩ := Bool.and_eq_true_iff.1 h
    rw [List.mem_cons, hf, beq_iff_eq.1 hc]
    simp
  · next h =>
    rw [Bool.not_eq_true, Bool.and_eq_false_iff] at h
    constructor
    · exact Or.inr
    · rintro (⟨hf, hc, -⟩ | hs)
      · simp [hf, hc] at h
      · exact hs

theorem run_path_iff {c : Char} (hf : fresh = true ↔ EndsBlank before)
    (hstart : span.start = before.length) :
    (∃ word, Run (fun d => !isBlank d) (before ++ c :: rest) span word ∧
        word.head? = some '/') ↔
      fresh = true ∧ c = '/' ∧
        span = ⟨before.length,
          before.length + ((c :: rest).takeWhile fun d => !isBlank d).length⟩ := by
  have hbefore : EndsBlank before ↔ ∀ d, before.getLast? = some d → (!isBlank d) = false := by
    simp [EndsBlank]
  have hslash : ((c :: rest).takeWhile fun d => !isBlank d).head? = some '/' ↔ c = '/' := by
    by_cases hc : isBlank c = true
    · have : c ≠ '/' := by
        rintro rfl
        cases hc
      simp [hc, this]
    · simp [hc]
  obtain ⟨_, stop⟩ := span
  obtain rfl := hstart
  simp only [run_iff, List.drop_left, List.take_left, hf, hbefore, Span.mk.injEq, true_and]
  constructor
  · rintro ⟨_, ⟨rfl, -, hstop, hb⟩, hs⟩
    exact ⟨hb, hslash.1 hs, hstop⟩
  · rintro ⟨hb, hc, hstop⟩
    refine ⟨_, ⟨rfl, ?_, hstop, hb⟩, hslash.2 hc⟩
    intro hnil
    have := hslash.2 hc
    rw [hnil] at this
    cases this

theorem mem_paths_append_iff (hf : fresh = true ↔ EndsBlank before) :
    span ∈ paths fresh before.length rest ↔ before.length ≤ span.start ∧
      ∃ word, Run (fun c => !isBlank c) (before ++ rest) span word ∧ word.head? = some '/' := by
  induction rest generalizing before fresh with
  | nil =>
    simp only [paths, List.not_mem_nil, false_iff, not_and, not_exists]
    intro hle word hr
    obtain ⟨hword, hne, -⟩ := run_iff.1 hr
    rw [List.append_nil, List.drop_eq_nil_of_le hle] at hword
    exact absurd hword hne
  | cons c rest ih =>
    have hfresh : isBlank c = true ↔ EndsBlank (before ++ [c]) := endsBlank_append_singleton.symm
    have hlater := ih hfresh
    rw [List.length_append, List.length_singleton, List.append_assoc,
      List.singleton_append] at hlater
    rw [mem_paths_cons_iff, hlater]
    constructor
    · rintro (⟨hfresh, hc, rfl⟩ | ⟨hle, hr⟩)
      · exact ⟨Nat.le_refl _, (run_path_iff hf rfl).2 ⟨hfresh, hc, rfl⟩⟩
      · exact ⟨by omega, hr⟩
    · rintro ⟨hle, hr⟩
      rcases Nat.lt_or_eq_of_le hle with hlt | heq
      · exact Or.inr ⟨hlt, hr⟩
      · exact Or.inl ((run_path_iff hf heq.symm).1 hr)

theorem pairwise_paths (fresh : Bool) (position : Nat) (s : Text) :
    (paths fresh position s).Pairwise fun a b => a.start < b.start := by
  induction s generalizing fresh position with
  | nil => exact List.Pairwise.nil
  | cons c s ih =>
    have hlater := ih (isBlank c) (position + 1)
    simp only [paths]
    split
    · refine List.pairwise_cons.2 ⟨fun b hb => ?_, hlater⟩
      obtain ⟨_, _, -, rfl⟩ := mem_paths hb
      dsimp only
      omega
    · exact hlater

theorem optional?_append_eq_some_iff (hf : fresh = true ↔ EndsBlank before) :
    optional? fresh before.length rest = some span ↔
      IsFirst (IsOptional (before ++ rest)) before.length span := by
  induction rest generalizing before fresh with
  | nil =>
    simp only [optional?, reduceCtorEq, false_iff]
    rintro ⟨⟨⟨inner, hc⟩, -⟩, hle, -⟩
    have hl := hc.getElem?_start
    rw [List.append_nil, List.getElem?_eq_none hle] at hl
    cases hl
  | cons c rest ih =>
    have hfresh : isBlank c = true ↔ EndsBlank (before ++ [c]) := endsBlank_append_singleton.symm
    have hlater := ih hfresh
    rw [List.length_append, List.length_singleton, List.append_assoc,
      List.singleton_append] at hlater
    -- What stands right here is a chunk at a fresh place.
    have hhere : ∀ span, span.start = before.length →
        (IsOptional (before ++ c :: rest) span ↔
          ∃ n, (if fresh then chunkLength? bracketed? (c :: rest) else none) = some n ∧
            span.stop = span.start + n) := by
      intro span hstart
      have hrec : (∃ inner, Chunk '[' ']' [']', '\n'] (before ++ c :: rest) span inner) ↔
          ∃ n, chunkLength? bracketed? (c :: rest) = some n ∧ span.stop = span.start + n := by
        rw [← recognized_chunk_iff (by decide), Recognized, hstart, List.drop_left]
        rfl
      have hends : EndsBlank ((before ++ c :: rest).take span.start) ↔ fresh = true := by
        rw [hstart, List.take_left, hf]
      constructor
      · rintro ⟨hc, hb⟩
        rw [hends.1 hb, if_pos rfl]
        exact hrec.1 hc
      · rintro ⟨n, hn, hstop⟩
        split at hn
        · next hfresh => exact ⟨hrec.2 ⟨n, hn, hstop⟩, hends.2 hfresh⟩
        · cases hn
    simp only [optional?]
    split
    · next n hn =>
      have hopt := (hhere ⟨before.length, before.length + n⟩ rfl).2 ⟨n, hn, rfl⟩
      rw [Option.some.injEq]
      constructor
      · rintro rfl
        exact ⟨hopt, Nat.le_refl _, fun _ _ hle => hle⟩
      · rintro ⟨hopt', hle, hfirst⟩
        have hstart := Nat.le_antisymm (hfirst _ hopt (Nat.le_refl _)) hle
        obtain ⟨n', hn', hstop⟩ := (hhere span hstart).1 hopt'
        obtain rfl := Option.some.inj (hn.symm.trans hn')
        rw [Span.mk.injEq]
        exact ⟨hstart.symm, by rw [hstop, hstart]⟩
    · next hn =>
      rw [hlater]
      refine (isFirst_succ_iff fun span hopt hstart => ?_).symm
      obtain ⟨n, hn', -⟩ := (hhere span hstart).1 hopt
      rw [hn] at hn'
      cases hn'

end Blanks

section Leftmost

variable {P Q : Token → Prop} {t t' : Token} {o o' : Option Token} {shape : NameShape}

theorem IsLeftmost.congr (h : ∀ t, P t ↔ Q t) (ho : IsLeftmost P o) : IsLeftmost Q o := by
  obtain rfl : P = Q := funext fun t => propext (h t)
  exact ho

theorem IsLeftmost.unique (h : IsLeftmost P o) (h' : IsLeftmost P o') : o = o' := by
  cases o with
  | none =>
    cases o' with
    | none => rfl
    | some t' => exact absurd h'.1 (h t')
  | some t =>
    cases o' with
    | none => exact absurd h.1 (h' t)
    | some t' =>
      rcases h.2 t' h'.1 with rfl | hlt
      · rfl
      · rcases h'.2 t h.1 with rfl | hlt'
        · rfl
        · omega

theorem IsLeftmost.holds (h : IsLeftmost P o) (ht : t ∈ o.toList) : P t := by
  obtain rfl := Option.mem_toList.1 ht
  exact h.1

theorem isLeftmost_firstFree {taken spans : List Span} {make : Span → Token}
    (hmake : ∀ span, (make span).span = span)
    (hs : spans.Pairwise fun a b => a.start < b.start) :
    IsLeftmost (fun t => t.span ∈ spans ∧ t = make t.span ∧
      ∀ span ∈ taken, t.span.overlaps span = false) ((firstFree taken spans).map make) := by
  have hfree : ∀ span : Span, (!taken.any span.overlaps) = true ↔
      ∀ span' ∈ taken, span.overlaps span' = false := by
    simp
  cases h : firstFree taken spans with
  | none =>
    rintro t ⟨hm, -, hf⟩
    exact List.find?_eq_none.1 h t.span hm ((hfree _).2 hf)
  | some span =>
    obtain ⟨hf, before, after, rfl, hb⟩ := List.find?_eq_some_iff_append.1 h
    simp only [Option.map_some, IsLeftmost, hmake]
    refine ⟨⟨by simp, trivial, (hfree _).1 hf⟩, ?_⟩
    rintro t ⟨hm, ht, hf'⟩
    rcases List.mem_append.1 hm with hm | hm
    · have := hb _ hm
      rw [(hfree _).2 hf'] at this
      cases this
    · rcases List.mem_cons.1 hm with heq | hm
      · exact Or.inl (heq ▸ ht)
      · exact Or.inr ((List.pairwise_cons.1 (List.pairwise_append.1 hs).2.1).1 _ hm)

theorem distinct_isOptional : Distinct (IsOptional s) where
  eq ha hb hstart := (distinct_chunk (by decide)).eq ha.chunk hb.chunk hstart
  lt ha := (distinct_chunk (by decide)).lt ha.chunk

theorem mem_reserved_iff : span ∈ reserved shape s ↔ IsReserved shape s span := by
  cases shape with
  | word =>
    have hf : (true = true) ↔ EndsBlank [] := by simp [EndsBlank]
    simp only [reserved, Option.mem_toList, IsReserved, true_and]
    exact optional?_append_eq_some_iff hf
  | path => simp [reserved, IsReserved]

theorem isLeftmost_delimited {l r : Char} (hlr : l ≠ r) :
    IsLeftmost (IsDelimited l r shape s)
      ((firstFree (reserved shape s)
        (occurrences (chunkLength? (enclosed? l r [l, r, '\n'])) 0 0 s)).map (chunkToken s)) := by
  have hr : r ∈ [l, r, '\n'] := by simp
  refine (isLeftmost_firstFree (fun _ => rfl)
    ((scan_chunks hr s).pairwise (distinct_chunk hr))).congr fun t => ?_
  rw [mem_occurrences_chunk_iff (by simp) hlr]
  constructor
  · rintro ⟨⟨inner, hc⟩, ht, hf⟩
    refine ⟨⟨inner, hc, ?_⟩, fun o ho => hf o (mem_reserved_iff.2 ho)⟩
    rw [ht]
    exact hc.chunkToken_value
  · rintro ⟨⟨inner, hc, hv⟩, hf⟩
    refine ⟨⟨inner, hc⟩, ?_, fun o ho => hf o (mem_reserved_iff.1 ho)⟩
    have hvalue := hc.chunkToken_value
    rw [← hv] at hvalue
    cases t
    exact congrArg (Token.mk · _) hvalue.symm

theorem mem_names_iff : span ∈ names shape s ↔ NameAt shape s span := by
  cases shape with
  | word =>
    constructor
    · exact fun h => ⟨_, scan_words s, h⟩
    · rintro ⟨spans, hs, hm⟩
      obtain rfl := hs.unique distinct_wordAt (scan_words s)
      exact hm
  | path =>
    have hf : (true = true) ↔ EndsBlank [] := by simp [EndsBlank]
    have h : span ∈ paths true 0 s ↔ _ := mem_paths_append_iff hf
    simp only [List.length_nil, Nat.zero_le, true_and, List.nil_append] at h
    exact h

theorem pairwise_names (shape : NameShape) (s : Text) :
    (names shape s).Pairwise fun a b => a.start < b.start := by
  cases shape with
  | word => exact (scan_words s).pairwise distinct_wordAt
  | path => exact pairwise_paths true 0 s

theorem isLeftmost_name (taken : List Token) :
    IsLeftmost (IsFreeName shape s taken)
      ((firstFree (taken.map Token.span) (names shape s)).map (nameToken s)) := by
  refine (isLeftmost_firstFree (fun _ => rfl) (pairwise_names shape s)).congr fun t => ?_
  simp only [mem_names_iff, List.forall_mem_map]
  constructor
  · rintro ⟨hn, ht, hf⟩
    exact ⟨hn, congrArg Token.value ht, hf⟩
  · rintro ⟨hn, hv, hf⟩
    refine ⟨hn, ?_, hf⟩
    cases t
    exact congrArg (Token.mk · _) hv

end Leftmost

section Bytes

theorem byteOffset_eq_utf8ByteSize (s : Text) (n : Nat) :
    s.byteOffset n = (String.ofList (s.take n)).utf8ByteSize := by
  unfold Text.byteOffset
  induction s.take n with
  | nil => simp
  | cons c t ih => simp [String.ofList_cons, ih]

theorem extract_append (a b c : String) :
    (a ++ (b ++ c)).toByteArray.extract a.utf8ByteSize (a ++ b).utf8ByteSize = b.toByteArray := by
  have h := ByteArray.extract_append_size_add (a := a.toByteArray)
    (b := b.toByteArray ++ c.toByteArray) (i := 0) (j := b.toByteArray.size)
  rw [ByteArray.extract_append_eq_left rfl, Nat.add_zero, String.size_toByteArray,
    String.size_toByteArray] at h
  rw [String.toByteArray_append, String.toByteArray_append, String.utf8ByteSize_append, h]

theorem cuts_append (before text after : Text) :
    (Span.mk before.length (before.length + text.length)).Cuts (before ++ (text ++ after)) := by
  have hstart : ((Span.mk before.length (before.length + text.length)).bytes
      (before ++ (text ++ after))).start = (String.ofList before).utf8ByteSize := by
    simp only [Span.bytes, byteOffset_eq_utf8ByteSize, List.take_left]
  have hstop : ((Span.mk before.length (before.length + text.length)).bytes
      (before ++ (text ++ after))).stop =
        (String.ofList before ++ String.ofList text).utf8ByteSize := by
    simp only [Span.bytes, byteOffset_eq_utf8ByteSize]
    rw [← List.append_assoc, List.take_left' (by simp), String.ofList_append]
  constructor
  · rw [hstart, String.Pos.Raw.isValid_iff_exists_append]
    exact ⟨String.ofList before, String.ofList (text ++ after), String.ofList_append, rfl⟩
  · rw [hstop, String.Pos.Raw.isValid_iff_exists_append]
    refine ⟨String.ofList before ++ String.ofList text, String.ofList after, ?_, rfl⟩
    simp only [String.ofList_append, String.append_assoc]
  · rw [hstart, hstop, slice_append, List.take_left]
    unfold Text.toBytes
    rw [String.ofList_append, String.ofList_append]
    exact extract_append _ _ _

theorem Chunk.cuts {l r : Char} {stops : List Char} {inner : Text}
    (h : Chunk l r stops s span inner) : span.Cuts s := by
  obtain ⟨⟨before, after, rfl, rfl⟩, -⟩ := h
  have hcuts := cuts_append before (l :: (inner ++ [r])) after
  simpa using hcuts

theorem Run.cuts {p : Char → Bool} {word : Text} (h : Run p s span word) : span.Cuts s := by
  obtain ⟨⟨before, after, rfl, rfl, -, -⟩, -⟩ := h
  exact cuts_append before word after

theorem NameAt.cuts {shape : NameShape} (h : NameAt shape s span) : span.Cuts s := by
  cases shape with
  | word =>
    obtain ⟨spans, hs, hm⟩ := h
    rcases hs.holds hm with ⟨_, hc⟩ | ⟨_, hr⟩
    · exact hc.cuts
    · exact hr.cuts
  | path =>
    obtain ⟨word, hr, -⟩ := h
    exact hr.cuts

end Bytes

section Fields

variable {shape : NameShape} {f f' : Fields}

theorem foldl_max_eq_max? (l : List Nat) : l.foldl max 0 = l.max?.getD 0 := by
  cases l with
  | nil => rfl
  | cons n l => rw [List.max?_cons', List.foldl_cons, Nat.zero_max, Option.getD_some]

theorem tokenized_ofText (shape : NameShape) (s : Text) : Tokenized shape s (ofText shape s) := by
  have htype : IsLeftmost (IsDelimited '\x7b' '\x7d' shape s) (ofText shape s).type :=
    isLeftmost_delimited (by decide)
  have hgroup : IsLeftmost (IsDelimited '(' ')' shape s) (ofText shape s).group :=
    isLeftmost_delimited (by decide)
  have hname : IsLeftmost (IsFreeName shape s
      ((ofText shape s).type.toList ++ (ofText shape s).group.toList)) (ofText shape s).name := by
    have h : IsLeftmost (IsFreeName shape s _) _ :=
      isLeftmost_name ((ofText shape s).type.toList ++ (ofText shape s).group.toList)
    simpa [ofText, Option.toList_map, Function.comp_def, chunkToken] using h
  refine ⟨?_, htype, hgroup, hname, ?_⟩
  · intro t ht
    simp only [tokens, List.mem_append] at ht
    rcases ht with (ht | ht) | ht
    · obtain ⟨⟨inner, hc, -⟩, -⟩ := htype.holds ht
      exact hc.cuts
    · obtain ⟨⟨inner, hc, -⟩, -⟩ := hgroup.holds ht
      exact hc.cuts
    · exact (hname.holds ht).name.cuts
  · rw [← foldl_max_eq_max?]
    simp [ofText, tokens, Option.toList_map, Function.comp_def, chunkToken, nameToken]

theorem Tokenized.unique (h : Tokenized shape s f) (h' : Tokenized shape s f') : f = f' := by
  have htype := h.type.unique h'.type
  have hgroup := h.group.unique h'.group
  have hname : f.name = f'.name := by
    have hn := h.name
    rw [htype, hgroup] at hn
    exact hn.unique h'.name
  have hdescription : f.description = f'.description := by
    rw [h.description, h'.description]
    simp only [tokens, htype, hgroup, hname]
  cases f
  cases f'
  simp_all

end Fields

/-- The tokens of a text are the leftmost ones of their kinds, and what follows the one that ends
last is the description. This determines the fields, since a text has one scan for words. -/
theorem ofText_eq_iff_tokenized (shape : NameShape) (s : Text) (fields : Fields) :
    (∃! spans, Scan (WordAt s) 0 spans) ∧
      (ofText shape s = fields ↔ Tokenized shape s fields) := by
  refine ⟨⟨_, scan_words s, fun spans hs => hs.unique distinct_wordAt (scan_words s)⟩, ?_⟩
  constructor
  · rintro rfl
    exact tokenized_ofText shape s
  · intro h
    exact (tokenized_ofText shape s).unique h

end Fields

end ApiNotes
