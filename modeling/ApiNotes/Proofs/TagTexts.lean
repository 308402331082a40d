import ApiNotes.Proofs.Lines
import ApiNotes.Proofs.TagLines

/-! # The text of tag lines

The tag lines of a block, joined, are its text from the first tag line on, without the carriage
returns that end its lines. They are the only well-formed lines of which this holds, since a line
end followed by `@` always separates two of them.
-/

namespace ApiNotes

namespace TagLine

open Text

/-- The text starts with `@`. No line end is followed by `@`, and none comes after a carriage
return; neither does the end of the text. -/
structure IsTagText (line : Text) : Prop where
  starts : line.head? = some '@'
  newline_tag : ¬ ['\n', '@'] <:+: line
  return_newline : ¬ ['\r', '\n'] <:+: line
  return_last : line.getLast? ≠ some '\r'

/-- Lines that can be told apart in what they are joined to. -/
def WellFormed (lines : List Text) : Prop := ∀ line ∈ lines, IsTagText line

/-- The text from its first line that starts with `@` on; `fresh` says that a line starts here. -/
def fromTag (fresh : Bool) : Text → Text
  | [] => []
  | c :: s => if fresh ∧ c = '@' then c :: s else fromTag (c = '\n') s

/-- Nothing but carriage returns stands between here and the end of the line. -/
def endsLine (s : Text) : Bool := (s.dropWhile (· == '\r')).head?.all (· == '\n')

/-- The text without the carriage returns that end its lines. -/
def withoutReturns : Text → Text
  | [] => []
  | c :: s => if c = '\r' ∧ endsLine s then withoutReturns s else c :: withoutReturns s

variable {s : Text}

section Pieces

theorem head?_cut {sep c : Char} (hc : c ≠ sep) :
    (cut sep s).1.head? = some c ↔ s.head? = some c := by
  cases s with
  | nil => rfl
  | cons d s =>
    by_cases hd : d = sep
    · simp [cut, hd, Ne.symm hc]
    · simp [cut, hd]

theorem startsTag_cut_iff :
    (∀ l ∈ (cut '\n' s).2, startsTag l = false) ↔ ¬ ['\n', '@'] <:+: s := by
  induction s with
  | nil => simp [cut]
  | cons c s ih =>
    by_cases hc : c = '\n'
    · have hhead : startsTag (cut '\n' s).1 = false ↔ ¬ ['@'] <+: s := by
        rw [startsTag, beq_eq_false_iff_ne, ne_eq, head?_cut (by decide), List.head?_eq_some_iff]
        simp only [List.IsPrefix, List.singleton_append, eq_comm]
      simp only [cut, hc, ↓reduceIte, List.forall_mem_cons, ih, hhead, List.infix_cons_iff,
        List.cons_prefix_cons, true_and, not_or]
    · simp only [cut, hc, ↓reduceIte, ih, List.infix_cons_iff, List.cons_prefix_cons,
        Ne.symm hc, false_and, false_or]

theorem getLast?_split_iff :
    (∀ l ∈ split '\n' s, l.getLast? ≠ some '\r') ↔
      ¬ ['\r', '\n'] <:+: s ∧ s.getLast? ≠ some '\r' := by
  induction s with
  | nil => simp [split, cut]
  | cons c s ih =>
    by_cases hc : c = '\n'
    · have hlast : (c :: s).getLast? = some '\r' ↔ s.getLast? = some '\r' := by
        cases s <;> simp [hc]
      simp only [split, cut, hc, ↓reduceIte, List.forall_mem_cons] at ih hlast ⊢
      simp [ih, hlast, List.infix_cons_iff]
    · cases s with
      | nil => simp [split, cut, hc, List.infix_cons_iff]
      | cons d s =>
        simp only [split, cut, hc, ↓reduceIte, List.forall_mem_cons] at ih ⊢
        by_cases hd : d = '\n'
        · -- The first line is `c` alone, and is followed by a line end.
          simp only [hd, ↓reduceIte] at ih ⊢
          simp [List.infix_cons_iff (a := c), ← ih, and_assoc, eq_comm (a := c)]
        · simp only [hd, ↓reduceIte, List.getLast?_cons_cons] at ih ⊢
          simp [List.infix_cons_iff (a := c), ih, Ne.symm hd]

theorem dropEndWhile_return_iff {l : Text} :
    dropEndWhile (· == '\r') l = l ↔ l.getLast? ≠ some '\r' := by
  rw [dropEndWhile_eq_rdropWhile, List.rdropWhile_eq_self_iff]
  constructor
  · intro h hlast
    obtain ⟨t, rfl⟩ := List.getLast?_eq_some_iff.1 hlast
    simpa using h (by simp)
  · intro h hne hlast
    exact h (by rw [List.getLast?_eq_some_getLast hne, beq_iff_eq.1 hlast])

theorem endsLine_iff :
    endsLine s = true ↔ dropEndWhile (· == '\r') (cut '\n' s).1 = [] := by
  induction s with
  | nil => simp [endsLine, cut, dropEndWhile]
  | cons c s ih =>
    by_cases hn : c = '\n'
    · simp [endsLine, cut, dropEndWhile, hn]
    · simp only [cut, if_neg hn, dropEndWhile_cons]
      by_cases hr : c = '\r'
      · have hskip : endsLine (c :: s) = endsLine s := by simp [endsLine, hr]
        rw [hskip, ih]
        simp [hr]
      · simp [endsLine, hr, hn]

/-- Dropping the returns character by character is dropping them line by line. -/
theorem withoutReturns_eq (s : Text) : withoutReturns s = join ['\n'] (physicalLines s) := by
  induction s with
  | nil => rfl
  | cons c s ih =>
    rw [withoutReturns, ih]
    by_cases hn : c = '\n'
    · subst hn
      exact (join_cons_cons ['\n'] [] _ _).symm
    · -- What is said of the first line is said whatever lines follow it.
      have hcons : ∀ (l : Text) (ls : List Text),
          join ['\n'] ((c :: l) :: ls) = c :: join ['\n'] (l :: ls) := by
        intro l ls
        cases ls <;> simp [join]
      simp only [physicalLines, split, cut, if_neg hn, List.map_cons, dropEndWhile_cons,
        endsLine_iff, and_comm (a := c = '\r'), beq_iff_eq]
      split
      · next h => rw [h.1]
      · rw [hcons]

/-- Leaving out lines is leaving out characters, at the start of a line and inside of one. -/
theorem join_dropWhile_split (s : Text) :
    join ['\n'] ((split '\n' s).dropWhile fun l => !startsTag l) = fromTag true s ∧
      join ['\n'] ((cut '\n' s).2.dropWhile fun l => !startsTag l) = fromTag false s := by
  induction s with
  | nil => exact ⟨rfl, rfl⟩
  | cons c s ih =>
    by_cases hn : c = '\n'
    · subst hn
      exact ⟨ih.1, ih.1⟩
    · have hinside : join ['\n'] ((cut '\n' (c :: s)).2.dropWhile fun l => !startsTag l) =
          fromTag false (c :: s) := by
        simpa [cut, fromTag, hn] using ih.2
      refine ⟨?_, hinside⟩
      have hhead : startsTag (cut '\n' (c :: s)).1 = decide (c = '@') := by
        simp only [cut, hn, ↓reduceIte]
        rfl
      by_cases ht : c = '@'
      · rw [split, List.dropWhile_cons_of_neg (by rw [hhead]; simp [ht]), ← split, join_split]
        simp [fromTag, ht]
      · rw [split, List.dropWhile_cons_of_pos (by rw [hhead]; simp [ht]), hinside]
        simp [fromTag, ht]

theorem gather_append_dropWhile (ls : List Text) :
    (gather ls).1 ++ (ls.dropWhile fun l => !startsTag l) = ls ∧
      ((gather ls).2 = [] ↔ (ls.dropWhile fun l => !startsTag l) = []) := by
  induction ls with
  | nil => exact ⟨rfl, Iff.rfl⟩
  | cons l ls ih =>
    by_cases hl : startsTag l
    · simp [gather, hl]
    · simpa [gather, hl] using ih

theorem join_gather (ls : List Text) :
    join ['\n'] (gather ls).2 = join ['\n'] (ls.dropWhile fun l => !startsTag l) := by
  induction ls with
  | nil => rfl
  | cons l ls ih =>
    by_cases hl : startsTag l
    · obtain ⟨happend, hnil⟩ := gather_append_dropWhile ls
      simp only [gather, hl, ↓reduceIte, Bool.not_true, List.dropWhile_cons_of_neg,
        Bool.false_eq_true, not_false_eq_true]
      by_cases hlast : (ls.dropWhile fun l => !startsTag l) = []
      · rw [hlast, List.append_nil] at happend
        rw [hnil.2 hlast, happend]
        exact List.intercalate_singleton
      · obtain ⟨line, lines, hlines⟩ := List.exists_cons_of_ne_nil (mt hnil.1 hlast)
        rw [hlines, join_cons_cons, ← hlines, ih, ← join_append _ (List.cons_ne_nil _ _) hlast,
          List.cons_append, happend]
    · simpa [gather, hl] using ih

theorem startsTag_dropEndWhile (l : Text) :
    startsTag (dropEndWhile (· == '\r') l) = startsTag l := by
  cases l with
  | nil => rfl
  | cons c l =>
    rw [dropEndWhile_cons]
    split
    · next h => simp [startsTag, beq_iff_eq.1 h.2]
    · rfl

end Pieces

section Characters

theorem isTagLine_iff {line : Text} : IsTagLine line ↔ IsTagText line := by
  constructor
  · rintro ⟨first, rest, hw, rfl⟩
    have hsplit := split_join (List.cons_ne_nil first rest) hw.newline_not_mem
    obtain ⟨hfirst, hrest⟩ := List.cons.inj hsplit
    have hreturns := getLast?_split_iff.1 fun l hl =>
      dropEndWhile_return_iff.1 (hw.trimmed l (hsplit ▸ hl))
    refine ⟨?_, ?_, hreturns.1, hreturns.2⟩
    · refine (head?_cut (by decide : '@' ≠ '\n')).1 ?_
      rw [hfirst]
      exact beq_iff_eq.1 hw.starts
    · rw [← startsTag_cut_iff, hrest]
      exact hw.continues
  · intro h
    refine ⟨(cut '\n' line).1, (cut '\n' line).2, ⟨?_, ?_, ?_, ?_⟩, (join_split '\n' line).symm⟩
    · exact beq_iff_eq.2 ((head?_cut (by decide)).2 h.starts)
    · exact startsTag_cut_iff.2 h.newline_tag
    · exact fun l hl => sep_not_mem_of_mem_split hl
    · exact fun l hl =>
        dropEndWhile_return_iff.2 (getLast?_split_iff.2 ⟨h.return_newline, h.return_last⟩ l hl)

theorem wellFormed_ofBody (body : Text) : WellFormed (ofBody body) :=
  fun _ hl => isTagLine_iff.1 (isTagLine_of_mem_ofBody hl)

theorem ofBody_join_of_wellFormed {lines : List Text} (h : WellFormed lines) :
    ofBody (join ['\n'] lines) = lines :=
  ofBody_join fun line hl => isTagLine_iff.2 (h line hl)

theorem join_ofBody (body : Text) :
    join ['\n'] (ofBody body) = withoutReturns (fromTag true body) := by
  have hpieces : ∀ l ∈ (split '\n' body).dropWhile fun l => !startsTag l, '\n' ∉ l :=
    fun l hl => sep_not_mem_of_mem_split ((List.dropWhile_suffix _).subset hl)
  rw [ofBody, join_gather, physicalLines, List.dropWhile_map, withoutReturns_eq,
    ← (join_dropWhile_split body).1]
  simp only [Function.comp_def, startsTag_dropEndWhile]
  by_cases hnone : ((split '\n' body).dropWhile fun l => !startsTag l) = []
  · rw [hnone]
    rfl
  · rw [physicalLines, split_join hnone hpieces]

end Characters

/-- The tag lines of a block are the only well-formed ones whose text is that of the block from its
first tag line on, without the returns that end its lines. Lines that are joined are found again
exactly if they are well-formed. -/
theorem ofBody_eq_iff_text (body : Text) (lines : List Text) :
    (lines = ofBody body ↔
      WellFormed lines ∧ join ['\n'] lines = withoutReturns (fromTag true body)) ∧
    (ofBody (join ['\n'] lines) = lines ↔ WellFormed lines) := by
  have hfound : ofBody (join ['\n'] lines) = lines ↔ WellFormed lines := by
    constructor
    · intro h
      rw [← h]
      exact wellFormed_ofBody _
    · exact ofBody_join_of_wellFormed
  refine ⟨⟨?_, ?_⟩, hfound⟩
  · rintro rfl
    exact ⟨wellFormed_ofBody body, join_ofBody body⟩
  · rintro ⟨hlines, htext⟩
    calc lines = ofBody (join ['\n'] lines) := (hfound.2 hlines).symm
      _ = ofBody (join ['\n'] (ofBody body)) := by rw [htext, join_ofBody]
      _ = ofBody body := ofBody_join_of_wellFormed (wellFormed_ofBody body)

end TagLine

end ApiNotes
