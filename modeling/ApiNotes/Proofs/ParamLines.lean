import ApiNotes.Proofs.Canonical
import ApiNotes.Proofs.ParamParts

/-! # Parameter lines

Whatever the order of its parts is, each part of a parameter line is read as it was written, also if
the default value of a bracketed name has braces and parentheses that pair with others on the line.
-/

namespace ApiNotes

namespace ParamLine

open Fields Text

/-- The brackets `l` and `r` are those of one kind of part, which has the text `inner?` if it is
there. -/
structure Encloses (type group : Option Text) (name description : Text) (l r : Char)
    (make : Text → Part) (inner? : Option Text) : Prop where
  ne : l ≠ r
  isBracket : isBracket l = true ∧ isBracket r = true
  text_make : ∀ t, (make t).text = l :: (t ++ [r])
  given : ∀ t ∈ inner?, make t ∈ given type group name
  plain : ∀ t ∈ inner?, Plain t
  make_ne : ∀ t, make t ≠ .name name
  others : ∀ part ∈ ParamLine.given type group name, l ∈ part.text →
    part = .name name ∨ ∃ t ∈ inner?, part = make t
  left_out : inner? = none → l ∉ description

namespace Arranged

variable {type group : Option Text} {name gap description : Text} {parts : List (Text × Part)}
  {part : Part} {span : Span} {i : Nat} {l r : Char} {make : Text → Part} {inner? : Option Text}

theorem encloses_type (h : Arranged type group name parts gap description) :
    Encloses type group name description '\x7b' '\x7d' .type type where
  ne := by decide
  isBracket := by decide
  text_make _ := rfl
  given t ht := mem_given_iff.2 (Or.inl ⟨t, ht, rfl⟩)
  plain := h.type_plain
  make_ne _ := nofun
  others := by
    intro part hp hmem
    rcases mem_given_iff.1 hp with ht | ⟨g, hg, rfl⟩ | rfl
    · exact Or.inr ht
    · have hc : '\x7b' ∉ g := (h.group_plain g hg).not_mem (by decide)
      simp [Part.text, hc] at hmem
    · exact Or.inl rfl
  left_out := h.type_left_out

theorem encloses_group (h : Arranged type group name parts gap description) :
    Encloses type group name description '(' ')' .group group where
  ne := by decide
  isBracket := by decide
  text_make _ := rfl
  given t ht := mem_given_iff.2 (Or.inr (Or.inl ⟨t, ht, rfl⟩))
  plain := h.group_plain
  make_ne _ := nofun
  others := by
    intro part hp hmem
    rcases mem_given_iff.1 hp with ⟨t, ht, rfl⟩ | hg | rfl
    · have hc : '(' ∉ t := (h.type_plain t ht).not_mem (by decide)
      simp [Part.text, hc] at hmem
    · exact Or.inr hg
    · exact Or.inl rfl
  left_out := h.group_left_out

end Arranged

def IsToken (parts : List (Text × Part)) (make : Text → Part) : Option Text → Option Token → Prop
  | none, token => token = none
  | some t, token => ∃ span, (make t, span) ∈ placed 0 parts ∧ token = some ⟨t.trim, span⟩

namespace Arranged

variable {type group : Option Text} {name gap description : Text} {parts : List (Text × Part)}
  {part : Part} {span : Span} {i : Nat} {l r : Char} {make : Text → Part} {inner? : Option Text}
  {token ftype fgroup : Option Token} {t : Token}

variable (h : Arranged type group name parts gap description)

include h

/-- The opening bracket of a kind of part stands in the reserved span, opens the part, or stands
behind all parts if this part is there. -/
theorem opening_cases (k : Encloses type group name description l r make inner?)
    (hi : (text parts gap description)[i]? = some l) :
    (∃ o, IsReserved .word (text parts gap description) o ∧ o.start ≤ i ∧ i < o.stop) ∨
      (∃ t ∈ inner?, ∃ span, (make t, span) ∈ placed 0 parts ∧ i = span.start) ∨
      ((layout parts).length ≤ i ∧ inner? ≠ none) := by
  rcases h.part_or_description (isBlank_of_isBracket k.isBracket.1) hi with
    ⟨part, span, hm, hle, hlt, hget⟩ | ⟨hge, hmem⟩
  · have hmem := List.mem_of_getElem? hget
    rcases k.others part (h.mem_given hm) hmem with rfl | ⟨t, ht, rfl⟩
    · exact Or.inl ⟨span, h.isReserved_of_bracket hm hmem k.isBracket.1, hle, hlt⟩
    · refine Or.inr (Or.inl ⟨t, ht, span, hm, ?_⟩)
      -- No other character of the part is its opening bracket.
      have hfree : l ∉ t ++ [r] := by
        simp [(k.plain t ht).not_mem k.isBracket.1, k.ne]
      rw [k.text_make] at hget
      cases hk : i - span.start with
      | zero => omega
      | succ n =>
        rw [hk, List.getElem?_cons_succ] at hget
        exact absurd (List.mem_of_getElem? hget) hfree
  · exact Or.inr (Or.inr ⟨hge, fun hnone => k.left_out hnone hmem⟩)

theorem chunk_of_placed (k : Encloses type group name description l r make inner?) {inner : Text}
    (ht : inner ∈ inner?) (hm : (make inner, span) ∈ placed 0 parts) :
    Chunk l r [l, r, '\n'] (text parts gap description) span inner := by
  obtain ⟨before, after, htext, hspan, -, -⟩ := h.place hm
  rw [k.text_make] at htext hspan
  refine ⟨⟨before, after, ?_, ?_⟩, fun c hc hstop => ?_⟩
  · simpa using htext
  · simpa using hspan
  · have hplain := k.plain inner ht
    rcases List.mem_cons.1 hstop with rfl | hstop
    · exact hplain.not_mem k.isBracket.1 hc
    · rcases List.mem_pair.1 hstop with rfl | rfl
      · exact hplain.not_mem k.isBracket.2 hc
      · exact (hplain '\n' hc).2 rfl

theorem delimited_cases (k : Encloses type group name description l r make inner?)
    (ht : IsDelimited l r .word (text parts gap description) t) :
    (∃ inner ∈ inner?, ∃ span, (make inner, span) ∈ placed 0 parts ∧ t = ⟨inner.trim, span⟩) ∨
      ((layout parts).length ≤ t.span.start ∧ inner? ≠ none) := by
  obtain ⟨⟨inner', hchunk, hvalue⟩, houtside⟩ := ht
  rcases h.opening_cases k hchunk.getElem?_start with
    ⟨o, ho, hle, hlt⟩ | ⟨inner, hinner, span, hm, hstart⟩ | hbehind
  · have hdisjoint := overlaps_eq_false_iff.1 (houtside o ho)
    have := hchunk.lt
    omega
  · obtain ⟨hspan, rfl⟩ := hchunk.unique (by simp) (h.chunk_of_placed k hinner hm) hstart
    refine Or.inl ⟨inner', hinner, span, hm, ?_⟩
    cases t
    exact congrArg₂ Token.mk hvalue hspan
  · exact Or.inr hbehind

theorem isToken_of_isLeftmost (k : Encloses type group name description l r make inner?)
    (hl : IsLeftmost (IsDelimited l r .word (text parts gap description)) token) :
    IsToken parts make inner? token := by
  cases hinner : inner? with
  | none =>
    subst hinner
    cases token with
    | none => rfl
    | some t =>
      rcases h.delimited_cases k hl.1 with ⟨_, ⟨⟩, _⟩ | ⟨-, hne⟩
      exact absurd rfl hne
  | some inner =>
    subst hinner
    obtain ⟨span, hm⟩ := h.exists_mem_placed (k.given inner rfl)
    refine ⟨span, hm, hl.unique ⟨⟨?_, ?_⟩, fun t ht => ?_⟩⟩
    · exact ⟨inner, h.chunk_of_placed k rfl hm, rfl⟩
    · exact fun o ho => h.overlaps_reserved_eq_false hm (k.make_ne inner) ho
    · rcases h.delimited_cases k ht with ⟨_, ⟨⟩, span', hm', rfl⟩ | ⟨hge, -⟩
      · exact Or.inl (by rw [h.span_unique hm hm'])
      · have hstop := stop_le_of_mem_placed hm
        have := (h.chunk_of_placed k rfl hm).lt
        dsimp only at hstop ⊢
        omega

theorem wordAt_name (hm : (.name name, span) ∈ placed 0 parts) :
    WordAt (text parts gap description) span := by
  obtain ⟨before, after, htext, hspan, hbefore, hafter⟩ := h.place hm
  have hname := h.isName
  cases hname with
  | @bracketed inner hfree =>
    refine Or.inl ⟨inner, ⟨before, after, ?_, ?_⟩, hfree⟩
    · simpa [Part.text] using htext
    · simpa [Part.text] using hspan
  | bare hne hword =>
    have hnot : ∀ c, isBlank c = true → isWordChar c = false := by
      intro c hc
      simp [isWordChar, hc]
    exact Or.inr ⟨name, ⟨before, after, htext, hspan, fun c hc => hnot c (hbefore c hc),
      fun c hc => hnot c (hafter c hc)⟩, hne, hword⟩

/-- A word that begins before the name ends before it, since no bracket opens there and the name
begins after a blank. -/
theorem wordAt_stop_le (hm : (.name name, span) ∈ placed 0 parts) {span' : Span}
    (hw : WordAt (text parts gap description) span') (hlt : span'.start < span.start) :
    span'.stop ≤ span.start := by
  have hstop := stop_le_of_mem_placed hm
  have hname := (h.wordAt_name hm).lt
  rcases hw with ⟨inner, hchunk⟩ | ⟨word, hrun⟩
  · rcases h.bracket_cases hm hchunk.getElem?_start with ⟨hle, -⟩ | hge
    · omega
    · dsimp only at hstop
      omega
  · by_contra hgt
    obtain ⟨before, after, htext, rfl, hbefore, -⟩ := h.place hm
    dsimp only at hlt hgt
    obtain ⟨c, hc, hword⟩ := hrun.getElem? (i := before.length - 1) (by omega) (by omega)
    rw [htext, List.getElem?_append_left (by omega), ← List.getLast?_eq_getElem?] at hc
    simp [isWordChar, hbefore c hc] at hword

theorem nameAt_name (hm : (.name name, span) ∈ placed 0 parts) :
    NameAt .word (text parts gap description) span :=
  ⟨_, scan_words _, (scan_words _).mem_of_uncrossed distinct_wordAt (h.wordAt_name hm)
    (Nat.zero_le _) fun _ hw hlt => h.wordAt_stop_le hm hw hlt⟩

theorem slice_name (hm : (.name name, span) ∈ placed 0 parts) :
    span.slice (text parts gap description) = name := by
  obtain ⟨before, after, htext, rfl, -, -⟩ := h.place hm
  rw [htext, slice_append]
  exact List.take_left

omit h in
theorem mem_placed_of_isToken (hk : IsToken parts make inner? token) (ht : t ∈ token) :
    ∃ inner ∈ inner?, (make inner, t.span) ∈ placed 0 parts := by
  cases inner? with
  | none =>
    obtain rfl : token = none := hk
    cases ht
  | some inner =>
    obtain ⟨span, hm, rfl⟩ := hk
    obtain rfl := Option.some.inj ht
    exact ⟨inner, rfl, hm⟩

theorem exists_token (hk : IsToken parts make inner? token) {inner : Text} (hi : inner ∈ inner?)
    (hm : (make inner, span) ∈ placed 0 parts) : ∃ t ∈ token, t.span = span := by
  obtain rfl : inner? = some inner := hi
  obtain ⟨span', hm', rfl⟩ := hk
  exact ⟨_, rfl, h.span_unique hm' hm⟩

theorem exists_taken (htype : IsToken parts .type type ftype)
    (hgroup : IsToken parts .group group fgroup) (hm : (part, span) ∈ placed 0 parts)
    (hne : part ≠ .name name) : ∃ t ∈ ftype.toList ++ fgroup.toList, t.span = span := by
  simp only [List.mem_append, Option.mem_toList]
  rcases mem_given_iff.1 (h.mem_given hm) with ⟨inner, hi, rfl⟩ | ⟨inner, hi, rfl⟩ | rfl
  · obtain ⟨t, ht, hspan⟩ := h.exists_token htype hi hm
    exact ⟨t, Or.inl ht, hspan⟩
  · obtain ⟨t, ht, hspan⟩ := h.exists_token hgroup hi hm
    exact ⟨t, Or.inr ht, hspan⟩
  · exact absurd rfl hne

omit h in
theorem mem_placed_of_taken (htype : IsToken parts .type type ftype)
    (hgroup : IsToken parts .group group fgroup) (ht : t ∈ ftype.toList ++ fgroup.toList) :
    ∃ part, (part, t.span) ∈ placed 0 parts ∧ ∀ name, part ≠ .name name := by
  rw [List.mem_append, Option.mem_toList, Option.mem_toList] at ht
  rcases ht with ht | ht
  · obtain ⟨inner, -, hm⟩ := mem_placed_of_isToken htype ht
    exact ⟨.type inner, hm, fun _ => nofun⟩
  · obtain ⟨inner, -, hm⟩ := mem_placed_of_isToken hgroup ht
    exact ⟨.group inner, hm, fun _ => nofun⟩

theorem exists_part_of_lt (hm : (.name name, span) ∈ placed 0 parts) {span' : Span}
    (hw : WordAt (text parts gap description) span') (hlt : span'.start < span.start) :
    ∃ part span'', (part, span'') ∈ placed 0 parts ∧ part ≠ .name name ∧
      span''.start ≤ span'.start ∧ span'.start < span''.stop := by
  obtain ⟨c, hc, hcase⟩ := hw.getElem?_start
  have hblank : isBlank c = false := by
    rcases hcase with rfl | hword
    · decide
    · simp only [isWordChar, Bool.and_eq_true, Bool.not_eq_true'] at hword
      exact hword.1
  rcases h.part_or_description hblank hc with ⟨part, span'', hm', hle, hlt', -⟩ | ⟨hge, -⟩
  · refine ⟨part, span'', hm', ?_, hle, hlt'⟩
    rintro rfl
    rw [h.span_unique hm hm'] at hlt
    omega
  · have hstop := stop_le_of_mem_placed hm
    have hname := (h.wordAt_name hm).lt
    dsimp only at hstop
    omega

theorem isToken_name (htype : IsToken parts .type type ftype)
    (hgroup : IsToken parts .group group fgroup)
    (hl : IsLeftmost (IsFreeName .word (text parts gap description)
      (ftype.toList ++ fgroup.toList)) token) :
    ∃ span, (.name name, span) ∈ placed 0 parts ∧ token = some ⟨name, span⟩ := by
  obtain ⟨span, hm⟩ := h.exists_mem_placed (mem_given_iff.2 (Or.inr (Or.inr rfl)))
  refine ⟨span, hm, hl.unique ⟨⟨h.nameAt_name hm, (h.slice_name hm).symm, ?_⟩, ?_⟩⟩
  · intro t ht
    obtain ⟨part, hm', hne⟩ := mem_placed_of_taken htype hgroup ht
    exact overlaps_eq_false_iff.2 (disjoint hm' hm (hne name))
  · rintro t ⟨⟨spans, hs, ht⟩, hvalue, hfree⟩
    have hword := hs.holds ht
    dsimp only
    rcases Nat.lt_trichotomy t.span.start span.start with hlt | heq | hgt
    · obtain ⟨part, span', hm', hne, hle, hlt'⟩ := h.exists_part_of_lt hm hword hlt
      -- This part is the type or the group, so that the word is not free.
      obtain ⟨t', ht', rfl⟩ := h.exists_taken htype hgroup hm' hne
      have hdisjoint := overlaps_eq_false_iff.1 (hfree t' ht')
      have := hword.lt
      omega
    · have hspan := distinct_wordAt.eq hword (h.wordAt_name hm) heq
      rw [hspan, h.slice_name hm] at hvalue
      cases t
      exact Or.inl (congrArg₂ Token.mk hvalue hspan)
    · exact Or.inr hgt

theorem max?_stops {f : Fields} (htype : IsToken parts .type type f.type)
    (hgroup : IsToken parts .group group f.group)
    (hname : ∃ span, (.name name, span) ∈ placed 0 parts ∧ f.name = some ⟨name, span⟩) :
    (f.tokens.map (·.span.stop)).max? = some (layout parts).length := by
  obtain ⟨span, hm, hname⟩ := hname
  rw [List.max?_eq_some_iff]
  simp only [tokens, hname, List.mem_map, Option.toList_some, List.mem_append (s := _ ++ _),
    List.mem_singleton, forall_exists_index, and_imp, forall_apply_eq_imp_iff₂]
  constructor
  · have hne : parts ≠ [] := by
      rintro rfl
      cases hm
    obtain ⟨⟨part, span'⟩, hm', hstop⟩ := exists_stop_eq 0 hne
    rw [Nat.zero_add] at hstop
    by_cases hpart : part = .name name
    · subst hpart
      obtain rfl := h.span_unique hm hm'
      exact ⟨_, Or.inr rfl, hstop⟩
    · obtain ⟨t, ht, rfl⟩ := h.exists_taken htype hgroup hm' hpart
      exact ⟨t, Or.inl ht, hstop⟩
  · have hplaced : ∀ {part span}, (part, span) ∈ placed 0 parts →
        span.stop ≤ (layout parts).length := by
      intro part span hm
      simpa using stop_le_of_mem_placed hm
    rintro t (ht | rfl)
    · obtain ⟨part, hm', -⟩ := mem_placed_of_taken htype hgroup ht
      exact hplaced hm'
    · exact hplaced hm

omit h in
theorem map_value_of_isToken (hk : IsToken parts make inner? token) :
    token.map Token.value = inner?.map trim := by
  cases inner? with
  | none =>
    obtain rfl : token = none := hk
    rfl
  | some inner =>
    obtain ⟨span, -, rfl⟩ := hk
    rfl

/-- The fields of a line are its parts, in whichever order these are. -/
theorem fields_text :
    (ofText .word (text parts gap description)).type.map Token.value = type.map trim ∧
      (ofText .word (text parts gap description)).group.map Token.value = group.map trim ∧
      (ofText .word (text parts gap description)).name.map Token.value = some name ∧
      (ofText .word (text parts gap description)).description = trim description := by
  have hread := tokenized_ofText .word (text parts gap description)
  have htype := h.isToken_of_isLeftmost h.encloses_type hread.type
  have hgroup := h.isToken_of_isLeftmost h.encloses_group hread.group
  have hname := h.isToken_name htype hgroup hread.name
  refine ⟨map_value_of_isToken htype, map_value_of_isToken hgroup, ?_, ?_⟩
  · obtain ⟨span, -, hname⟩ := hname
    rw [hname]
    rfl
  · rw [hread.description, h.max?_stops htype hgroup hname, Option.getD_some, text, List.drop_left,
      trim_blank_append h.gap_blank]

end Arranged

end ParamLine

section Params

open Text ParamLine

/-- A name with the default value that may follow it. -/
def ParamLine.assignment (name : Text) : Option Text → Text
  | none => name
  | some default => name ++ '=' :: default

/-- The token of a name and a default value, which stand in brackets if they are optional. -/
inductive ParamLine.IsParamName (name : Text) (default : Option Text) : Bool → Text → Prop where
  | bare : (∀ c ∈ assignment name default, Fields.isWordChar c = true) →
      IsParamName name default false (assignment name default)
  | bracketed : IsParamName name default true ('[' :: (assignment name default ++ [']']))

namespace Entry

variable {s name : Text} {default : Option Text}

theorem nameAndDefault_append_cons {a : Text} (h : '=' ∉ a) (b : Text) :
    nameAndDefault (a ++ '=' :: b) = (a.trim, b.trim.nonEmpty?) := by
  rw [nameAndDefault, splitOnce?_append_cons h]

theorem nameAndDefault_trim (h : '=' ∈ s) : nameAndDefault (trim s) = nameAndDefault s := by
  obtain ⟨before, after, hs, hbefore, hafter⟩ := exists_append_trim s
  have hblank : ∀ t : Text, (∀ c ∈ t, isBlank c = true) → '=' ∉ t :=
    fun t ht hc => absurd (ht '=' hc) (by decide)
  rw [hs] at h
  simp only [List.mem_append, hblank before hbefore, hblank after hafter, false_or,
    or_false] at h
  obtain ⟨a, b, htrim, ha⟩ := List.eq_append_cons_of_mem h
  have hfull : s = (before ++ a) ++ '=' :: (b ++ after) := by
    rw [hs, htrim]
    simp
  have hbefore' : '=' ∉ before ++ a := by simp [hblank before hbefore, ha]
  rw [htrim, hfull, nameAndDefault_append_cons ha, nameAndDefault_append_cons hbefore',
    trim_blank_append hbefore, trim_append_of_blank hafter]

theorem nameAndDefault_assignment (h : '=' ∉ name) :
    nameAndDefault (trim (assignment name default)) =
      (trim name, default.bind fun d => d.trim.nonEmpty?) := by
  cases default with
  | none =>
    have hs : splitOnce? '=' (trim name) = none :=
      splitOnce?_of_not_mem fun hm => h (mem_of_mem_trim hm)
    rw [assignment, nameAndDefault, hs]
    rfl
  | some d =>
    rw [nameAndDefault_trim (by simp [assignment])]
    exact nameAndDefault_append_cons h d

theorem unbracketed_of_isParamName {optional : Bool} {token : Text}
    (h : IsParamName name default optional token) :
    (insideBrackets? token).isNone = !optional ∧
      ((insideBrackets? token).map trim).getD token = trim (assignment name default) := by
  cases h with
  | bare hword =>
    rw [insideBrackets?_of_word hword]
    exact ⟨rfl, (trim_eq_self (trimmed_of_word hword)).symm⟩
  | bracketed =>
    rw [insideBrackets?_bracketed]
    exact ⟨rfl, rfl⟩

theorem readParam_of_name {kind : ParamKind} {content token : Text} {optional : Bool}
    (htoken : (Fields.ofText .word content).name.map Token.value = some token)
    (h : IsParamName name default optional token) (hname : trim name ≠ []) (heq : '=' ∉ name) :
    readParam kind content = .ok
      { kind
        name := trim name
        default := default.bind fun d => d.trim.nonEmpty?
        group := (Fields.ofText .word content).group.map Token.value
        type := filled? (Fields.ofText .word content).type
        description := singleLine (Fields.ofText .word content).description
        required := !optional } := by
  obtain ⟨hrequired, hinner⟩ := unbracketed_of_isParamName h
  have hfilled : (trim name).nonEmpty? = some (trim name) := nonEmpty?_eq_some_iff.2 ⟨rfl, hname⟩
  refine bind_eq_ok_iff.2 ⟨token, require_eq_ok_iff.2 htoken, ?_⟩
  dsimp only
  rw [hinner, nameAndDefault_assignment heq, hrequired]
  exact bind_eq_ok_iff.2 ⟨trim name, require_eq_ok_iff.2 hfilled, rfl⟩

end Entry

end Params

/-- The parts of a parameter line are read as they stand there, whatever their order is. So a line
adds the parameter that its name, its default value and its other parts describe. -/
theorem ParamLine.fields_and_param_of_arranged {type group : Option Text}
    {name gap description : Text} {parts : List (Text × Part)}
    (h : Arranged type group name parts gap description) :
    ((Fields.ofText .word (text parts gap description)).type.map Token.value =
        type.map Text.trim ∧
      (Fields.ofText .word (text parts gap description)).group.map Token.value =
        group.map Text.trim ∧
      (Fields.ofText .word (text parts gap description)).name.map Token.value = some name ∧
      (Fields.ofText .word (text parts gap description)).description = description.trim) ∧
    ∀ (kind : ParamKind) (draft : Draft) (n : Text) (default : Option Text) (optional : Bool),
      IsParamName n default optional name → n.trim ≠ [] → '=' ∉ n →
        draft.add <$> Entry.ofTag (.param kind) (text parts gap description) = .ok
          { draft with
            params := draft.params ++
              [{ kind
                 name := n.trim
                 default := default.bind fun d => d.trim.nonEmpty?
                 group := group.map Text.trim
                 type := type.bind fun t => t.trim.nonEmpty?
                 description := Text.singleLine description
                 required := !optional }] } := by
  obtain ⟨htype, hgroup, hname, hdescription⟩ := h.fields_text
  refine ⟨⟨htype, hgroup, hname, hdescription⟩, ?_⟩
  intro kind draft n default optional hparam hn heq
  have hfilled : Entry.filled? (Fields.ofText .word (text parts gap description)).type =
      type.bind fun t => t.trim.nonEmpty? := by
    have hbind := congrArg (Option.bind · Text.nonEmpty?) htype
    simp only [Option.bind_map] at hbind
    exact hbind
  rw [Entry.ofTag, Entry.readParam_of_name hname hparam hn heq, hgroup, hfilled, hdescription,
    Text.singleLine_trim]
  rfl

/-- A line whose default value and description have brackets of every kind, none of them closed
where it was opened. -/
theorem ParamLine.fields_and_param_of_arranged_of_brackets :
    let name := '[' :: (" n = (a \x7bb=c ".toList ++ [']'])
    let parts : List (Text × Part) :=
      [([], .name name), ([' '], .group " g ".toList), (['\t', ' '], .type " T".toList)]
    let description := "see ) \x7d [\x7bx\x7d] (y)\n more ".toList
    let line := "[ n = (a \x7bb=c ] ( g )\t \x7b T\x7d  see ) \x7d [\x7bx\x7d] (y)\n more ".toList
    text parts [' ', ' '] description = line ∧
      (Fields.ofText .word line).type.map Token.value = some ['T'] ∧
      Draft.add {} <$> Entry.ofTag (.param .query) line = .ok
        { params := [⟨.query, ['n'], some ['g'], some ['T'], some "(a \x7bb=c".toList,
            "see ) \x7d [\x7bx\x7d] (y) more".toList, false⟩] } := by
  intro name parts description line
  have htext : text parts [' ', ' '] description = line := by decide
  have harranged : Arranged (some " T".toList) (some " g ".toList) name parts [' ', ' ']
      description := by
    refine ⟨by decide, ?_, by decide, ?_, ?_, .bracketed ?_, ?_, nofun, nofun, nofun⟩
    · simp [parts, isBlank]
    · rintro _ ⟨⟩
      simp [Plain, Fields.isBracket]
    · rintro _ ⟨⟩
      simp [Plain, Fields.isBracket]
    · simp
    · simp [isBlank]
  obtain ⟨⟨htype, -⟩, hparam⟩ := fields_and_param_of_arranged harranged
  have hadd := hparam .query {} " n ".toList (some " (a \x7bb=c ".toList) true .bracketed
    (by decide) (by decide)
  rw [htext] at htype hadd
  refine ⟨htext, htype, hadd.trans ?_⟩
  decide +kernel

end ApiNotes
