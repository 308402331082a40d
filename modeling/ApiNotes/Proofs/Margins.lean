import Mathlib.Data.List.Forall2
import ApiNotes.Proofs.Lines

/-! # Margins

A blank text starts the margin of lines exactly if it starts each of them that is not blank. So
dedented lines share no blank start, there is nothing left to dedent in them, and blanks put before
all lines are taken away again.
-/

namespace ApiNotes.Text

variable {p s t w : Text} {ls : List Text}

section Prefixes

theorem isPrefix_commonPrefix_iff : p <+: commonPrefix s t ↔ p <+: s ∧ p <+: t := by
  induction s generalizing p t with
  | nil => simp +contextual [commonPrefix]
  | cons c s ih =>
    cases t with
    | nil => simp +contextual [commonPrefix]
    | cons d t =>
      cases p with
      | nil => simp
      | cons e p =>
        by_cases hcd : c = d
        · subst hcd
          simp only [commonPrefix, ↓reduceIte, List.cons_prefix_cons, ih]
          tauto
        · simp only [commonPrefix, if_neg hcd, List.prefix_nil, reduceCtorEq,
            List.cons_prefix_cons, false_iff]
          rintro ⟨⟨rfl, -⟩, rfl, -⟩
          exact hcd rfl

theorem isPrefix_foldl_commonPrefix_iff {is : List Text} :
    p <+: is.foldl commonPrefix s ↔ p <+: s ∧ ∀ i ∈ is, p <+: i := by
  induction is generalizing s with
  | nil => simp
  | cons i is ih =>
    rw [List.foldl_cons, ih, isPrefix_commonPrefix_iff, List.forall_mem_cons, and_assoc]

theorem isPrefix_indent_iff : p <+: indent s ↔ (∀ c ∈ p, isBlank c = true) ∧ p <+: s := by
  constructor
  · intro h
    exact ⟨fun c hc => List.mem_takeWhile_imp (h.subset hc), h.trans (List.takeWhile_prefix _)⟩
  · rintro ⟨hp, rest, rfl⟩
    rw [indent, List.takeWhile_append_of_pos hp]
    exact List.prefix_append p _

theorem commonPrefix_append (w s t : Text) :
    commonPrefix (w ++ s) (w ++ t) = w ++ commonPrefix s t := by
  induction w with
  | nil => rfl
  | cons c w ih => simp [commonPrefix, ih]

theorem foldl_commonPrefix_append (w i : Text) (is : List Text) :
    (is.map (w ++ ·)).foldl commonPrefix (w ++ i) = w ++ is.foldl commonPrefix i := by
  induction is generalizing i with
  | nil => rfl
  | cons j is ih => rw [List.map_cons, List.foldl_cons, List.foldl_cons, commonPrefix_append, ih]

end Prefixes

section Margin

def textLines (ls : List Text) : List Text := ls.filter fun l => !isBlankLine l

theorem mem_textLines {l : Text} : l ∈ textLines ls ↔ l ∈ ls ∧ isBlankLine l = false := by
  simp [textLines]

theorem margin_of_textLines_eq_nil (h : textLines ls = []) : margin ls = [] := by
  rw [textLines] at h
  rw [margin, h]
  rfl

/-- The margin is the longest blank text with which all lines start that are not blank. -/
theorem isPrefix_margin_iff (h : textLines ls ≠ []) :
    p <+: margin ls ↔ (∀ c ∈ p, isBlank c = true) ∧ ∀ l ∈ textLines ls, p <+: l := by
  obtain ⟨l, rest, hl⟩ := List.exists_cons_of_ne_nil h
  have hmargin : margin ls = (rest.map indent).foldl commonPrefix (indent l) := by
    rw [textLines] at hl
    rw [margin, hl]
    rfl
  rw [hmargin, isPrefix_foldl_commonPrefix_iff, hl]
  simp only [List.forall_mem_map, List.forall_mem_cons, isPrefix_indent_iff]
  constructor
  · rintro ⟨⟨hp, hl⟩, hrest⟩
    exact ⟨hp, hl, fun j hj => (hrest j hj).2⟩
  · rintro ⟨hp, hl, hrest⟩
    exact ⟨⟨hp, hl⟩, fun j hj => ⟨hp, hrest j hj⟩⟩

theorem isBlank_of_mem_margin (ls : List Text) : ∀ c ∈ margin ls, isBlank c = true := by
  by_cases h : textLines ls = []
  · simp [margin_of_textLines_eq_nil h]
  · exact ((isPrefix_margin_iff h).1 (List.prefix_refl _)).1

theorem margin_isPrefix {l : Text} (h : l ∈ textLines ls) : margin ls <+: l :=
  ((isPrefix_margin_iff (List.ne_nil_of_mem h)).1 (List.prefix_refl _)).2 l h

theorem isBlankLine_append (hw : ∀ c ∈ w, isBlank c = true) (l : Text) :
    isBlankLine (w ++ l) = isBlankLine l := by
  rw [isBlankLine, List.all_append, List.all_eq_true.2 hw]
  rfl

theorem textLines_append (hw : ∀ c ∈ w, isBlank c = true) (ls : List Text) :
    textLines (ls.map (w ++ ·)) = (textLines ls).map (w ++ ·) := by
  simp [textLines, List.filter_map, Function.comp_def, isBlankLine_append hw]

theorem margin_append (hw : ∀ c ∈ w, isBlank c = true) (h : textLines ls ≠ []) :
    margin (ls.map (w ++ ·)) = w ++ margin ls := by
  obtain ⟨l, rest, hl⟩ := List.exists_cons_of_ne_nil h
  have hindent : ∀ j : Text, indent (w ++ j) = w ++ indent j :=
    fun j => List.takeWhile_append_of_pos hw
  have hlines := textLines_append hw ls
  rw [hl] at hlines
  rw [textLines] at hl hlines
  rw [margin, margin, hl, hlines]
  simp only [List.map_cons, List.map_map, Function.comp_def, hindent]
  rw [← foldl_commonPrefix_append, List.map_map]
  rfl

end Margin

section Dedent

/-- A line without a margin of some length; a blank line becomes empty. -/
def outdent (n : Nat) (l : Text) : Text := if isBlankLine l then [] else l.drop n

theorem split_dedent (s : Text) :
    split '\n' (dedent s) =
      (split '\n' s).map (outdent (margin (split '\n' s)).length) := by
  refine split_join (by simp [split]) ?_
  rw [List.forall_mem_map]
  intro l hl
  have hnewline := sep_not_mem_of_mem_split hl
  split
  · exact List.not_mem_nil
  · exact fun h => hnewline (List.mem_of_mem_drop h)

theorem eq_margin_append_outdent {l : Text} (h : l ∈ textLines ls) :
    l = margin ls ++ outdent (margin ls).length l := by
  obtain ⟨rest, hrest⟩ := margin_isPrefix h
  rw [outdent, if_neg (by simp [(mem_textLines.1 h).2]), ← hrest, List.drop_left]

theorem isBlankLine_outdent {l : Text} (h : l ∈ ls) :
    isBlankLine (outdent (margin ls).length l) = isBlankLine l := by
  cases hl : isBlankLine l with
  | true =>
    rw [outdent, if_pos hl]
    rfl
  | false =>
    have heq := eq_margin_append_outdent (mem_textLines.2 ⟨h, hl⟩)
    rw [← isBlankLine_append (isBlank_of_mem_margin ls), ← heq, hl]

theorem textLines_outdent (ls : List Text) :
    textLines (ls.map (outdent (margin ls).length)) =
      (textLines ls).map (outdent (margin ls).length) := by
  rw [textLines, List.filter_map, textLines]
  congr 1
  refine List.filter_congr fun l hl => ?_
  rw [Function.comp_apply, isBlankLine_outdent hl]

theorem margin_outdent (ls : List Text) : margin (ls.map (outdent (margin ls).length)) = [] := by
  by_cases h : textLines ls = []
  · refine margin_of_textLines_eq_nil ?_
    rw [textLines_outdent, h, List.map_nil]
  · obtain ⟨hblank, hstarts⟩ := (isPrefix_margin_iff (by simpa [textLines_outdent] using h)).1
      (List.prefix_refl (margin (ls.map (outdent (margin ls).length))))
    rw [textLines_outdent, List.forall_mem_map] at hstarts
    -- Put behind the margin, a margin of what is left starts the lines too.
    have hlonger : margin ls ++ margin (ls.map (outdent (margin ls).length)) <+: margin ls := by
      refine (isPrefix_margin_iff h).2 ⟨fun c hc => ?_, fun l hl => ?_⟩
      · exact (List.mem_append.1 hc).elim (isBlank_of_mem_margin ls c) (hblank c)
      · rw [eq_margin_append_outdent hl, List.prefix_append_right_inj]
        simpa [← eq_margin_append_outdent hl] using hstarts l hl
    have hlength := hlonger.length_le
    rw [List.length_append] at hlength
    exact List.eq_nil_of_length_eq_zero (by omega)

def ClearedBlanks (ls : List Text) : Prop := ∀ l ∈ ls, isBlankLine l = true → l = []

theorem clearedBlanks_outdent (ls : List Text) :
    ClearedBlanks (ls.map (outdent (margin ls).length)) := by
  intro l hl hblank
  obtain ⟨j, hj, rfl⟩ := List.mem_map.1 hl
  rw [isBlankLine_outdent hj] at hblank
  exact if_pos hblank

theorem dedent_eq_self (hmargin : margin (split '\n' s) = [])
    (hcleared : ClearedBlanks (split '\n' s)) : dedent s = s := by
  have hlines : (split '\n' s).map (outdent 0) = split '\n' s := by
    conv_rhs => rw [← List.map_id (split '\n' s)]
    refine List.map_congr_left fun l hl => ?_
    unfold outdent
    split
    · next h => exact (hcleared l hl h).symm
    · rfl
  rw [← join_split '\n' (dedent s), split_dedent, hmargin, List.length_nil, hlines, join_split]

theorem dedent_dedent (s : Text) : dedent (dedent s) = dedent s := by
  refine dedent_eq_self ?_ ?_
  · rw [split_dedent, margin_outdent]
  · rw [split_dedent]
    exact clearedBlanks_outdent _

end Dedent

section Trim

theorem mem_split_append {sep : Char} {l : Text} (hl : sep ∉ l) (before after : Text) :
    l ∈ split sep (before ++ sep :: (l ++ sep :: after)) := by
  rw [split_append, split_append, split_of_not_mem hl]
  simp

theorem ClearedBlanks.trim (h : ClearedBlanks (split '\n' s)) :
    ClearedBlanks (split '\n' (trim s)) := by
  intro l hl hblank
  obtain ⟨before, after, heq, hbefore, hafter⟩ := exists_of_mem_split hl
  obtain ⟨b, a, hs, -, -⟩ := exists_append_trim s
  have hnewline := sep_not_mem_of_mem_split hl
  have hall := List.all_eq_true.1 hblank
  by_contra hne
  -- A blank line at an end would give the trimmed text a blank end; one between other lines is
  -- also a line of the text itself.
  rcases hbefore with rfl | ⟨before, rfl⟩
  · have hhead := (trimmed_trim s).head (l.head hne) (by simp [heq, List.head?_eq_some_head hne])
    rw [hall _ (List.head_mem hne)] at hhead
    cases hhead
  · rcases hafter with rfl | ⟨after, rfl⟩
    · have hlast := (trimmed_trim s).last (l.getLast hne) (by
        rw [heq, List.append_nil, List.getLast?_append, List.getLast?_eq_some_getLast hne]
        rfl)
      rw [hall _ (List.getLast_mem hne)] at hlast
      cases hlast
    · refine hne (h _ ?_ hblank)
      rw [hs, heq]
      have hmem := mem_split_append hnewline (b ++ before) (after ++ a)
      simpa using hmem

/-- Trimmed text has no margin, since its first line starts with a character that is not blank. -/
theorem margin_trim (s : Text) : margin (split '\n' (trim s)) = [] := by
  cases hs : trim s with
  | nil => rfl
  | cons c rest =>
    have hc : isBlank c = false := (trimmed_trim s).head c (by rw [hs]; rfl)
    have hnewline : c ≠ '\n' := by
      rintro rfl
      cases hc
    have hline : c :: (cut '\n' rest).1 ∈ textLines (split '\n' (c :: rest)) :=
      mem_textLines.2 ⟨by simp [split, cut, hnewline], by simp [isBlankLine, hc]⟩
    cases hm : margin (split '\n' (c :: rest)) with
    | nil => rfl
    | cons d m =>
      have hstart := margin_isPrefix hline
      rw [hm, List.cons_prefix_cons] at hstart
      have hd := isBlank_of_mem_margin (split '\n' (c :: rest)) d (by simp [hm])
      rw [hstart.1, hc] at hd
      cases hd

theorem dedent_trim_dedent (s : Text) : dedent (trim (dedent s)) = trim (dedent s) := by
  refine dedent_eq_self (margin_trim _) (ClearedBlanks.trim ?_)
  rw [split_dedent]
  exact clearedBlanks_outdent _

end Trim

theorem dedent_indented (hw : ∀ c ∈ w, isBlank c = true) (hnewline : '\n' ∉ w) (s : Text) :
    dedent (join ['\n'] ((split '\n' s).map (w ++ ·))) = dedent s := by
  have hsplit : split '\n' (join ['\n'] ((split '\n' s).map (w ++ ·))) =
      (split '\n' s).map (w ++ ·) := by
    refine split_join (by simp [split]) (List.forall_mem_map.2 fun l hl => ?_)
    simpa [hnewline] using sep_not_mem_of_mem_split hl
  have hlines : ∀ l ∈ split '\n' s,
      outdent (margin ((split '\n' s).map (w ++ ·))).length (w ++ l) =
        outdent (margin (split '\n' s)).length l := by
    intro l hl
    unfold outdent
    rw [isBlankLine_append hw]
    split
    · rfl
    · next hblank =>
      have hne : textLines (split '\n' s) ≠ [] :=
        List.ne_nil_of_mem (mem_textLines.2 ⟨hl, by simpa using hblank⟩)
      rw [margin_append hw hne, List.length_append, List.drop_append]
      simp
  rw [← join_split '\n' (dedent _), ← join_split '\n' (dedent s), split_dedent, split_dedent,
    hsplit, List.map_map]
  exact congrArg _ (List.map_congr_left hlines)

/-- Dedenting takes one blank text from all lines that are not blank and nothing is left for it to
take, so it changes nothing that it made and does not see what is put before all lines. -/
theorem dedent_removes_margin (s : Text) :
    (split '\n' (dedent s)).length = (split '\n' s).length ∧
      (∃ p : Text, (∀ c ∈ p, isBlank c = true) ∧
        List.Forall₂ (fun l l' => if isBlankLine l then l' = [] else l = p ++ l')
          (split '\n' s) (split '\n' (dedent s)) ∧
        ((∃ l' ∈ split '\n' (dedent s), isBlankLine l' = false) →
          ∀ c, isBlank c = true →
            ∃ l' ∈ split '\n' (dedent s), isBlankLine l' = false ∧ l'.head? ≠ some c)) ∧
      dedent (dedent s) = dedent s ∧
      trim (dedent (trim (dedent s))) = trim (dedent s) ∧
      ∀ w : Text, (∀ c ∈ w, isBlank c = true) → '\n' ∉ w →
        dedent (join ['\n'] ((split '\n' s).map (w ++ ·))) = dedent s := by
  refine ⟨by rw [split_dedent, List.length_map],
    ⟨margin (split '\n' s), isBlank_of_mem_margin _, ?_, ?_⟩, dedent_dedent s, ?_,
    fun w hw hnewline => dedent_indented hw hnewline s⟩
  · rw [split_dedent, List.forall₂_map_right_iff, List.forall₂_same]
    intro l hl
    split
    · next h => exact if_pos h
    · next h => exact eq_margin_append_outdent (mem_textLines.2 ⟨hl, by simpa using h⟩)
  · rintro ⟨l', hl', htext⟩ c hc
    by_contra hall
    push Not at hall
    have hlonger : [c] <+: margin (split '\n' (dedent s)) := by
      refine (isPrefix_margin_iff (List.ne_nil_of_mem (mem_textLines.2 ⟨hl', htext⟩))).2
        ⟨by simpa using hc, fun l hl => ?_⟩
      obtain ⟨hmem, hl⟩ := mem_textLines.1 hl
      obtain ⟨rest, rfl⟩ := List.head?_eq_some_iff.1 (hall l hmem hl)
      exact ⟨rest, rfl⟩
    rw [split_dedent, margin_outdent] at hlonger
    simp at hlonger
  · rw [dedent_trim_dedent, trim_eq_self (trimmed_trim _)]

end ApiNotes.Text
