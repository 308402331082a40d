import Mathlib.Data.List.DropRight
import Mathlib.Data.List.TakeWhile
import ApiNotes.Proofs.Splitting
import ApiNotes.Text.Lines

/-! # Trimmed text, lines and paragraphs

Trimming leaves a part of the text that has no blank at its ends. Text put on one line is trimmed
and has no line end, and paragraphs are such lines, none of them empty.
-/

namespace ApiNotes.Text

variable {s t : Text} {pieces : List Text}

structure Trimmed (s : Text) : Prop where
  head : ∀ c, s.head? = some c → isBlank c = false
  last : ∀ c, s.getLast? = some c → isBlank c = false

structure IsLine (s : Text) : Prop extends Trimmed s where
  newline_not_mem : '\n' ∉ s

section Trim

theorem trimmed_nil : Trimmed [] := ⟨nofun, nofun⟩

theorem trimmed_of_forall (h : ∀ c ∈ s, isBlank c = false) : Trimmed s :=
  ⟨fun c hc => h c (List.mem_of_head? hc), fun c hc => h c (List.mem_of_getLast? hc)⟩

theorem isPrefix_trimEnd (s : Text) : trimEnd s <+: s := by
  rw [trimEnd, dropEndWhile_eq_rdropWhile]
  exact List.rdropWhile_prefix _ _

theorem isInfix_trim (s : Text) : trim s <:+: s :=
  (isPrefix_trimEnd _).isInfix.trans (List.dropWhile_suffix _).isInfix

theorem mem_of_mem_trim {c : Char} (h : c ∈ trim s) : c ∈ s := (isInfix_trim s).subset h

theorem trimmed_trim (s : Text) : Trimmed (trim s) := by
  constructor
  · intro c hc
    have hstart : (trimStart s).head? = some c := by
      obtain ⟨rest, hr⟩ := isPrefix_trimEnd (trimStart s)
      rw [← hr, List.head?_append]
      exact Option.or_eq_some_iff.2 (Or.inl hc)
    have hnot := List.head?_dropWhile_not isBlank s
    rw [show List.dropWhile isBlank s = trimStart s from rfl, hstart] at hnot
    exact hnot
  · intro c hc
    rw [trim, trimEnd, dropEndWhile_eq_rdropWhile] at hc
    have hne : (trimStart s).rdropWhile isBlank ≠ [] := by
      intro h
      rw [h] at hc
      cases hc
    have hnot := List.rdropWhile_last_not isBlank _ hne
    rw [List.getLast?_eq_some_getLast hne, Option.some.injEq] at hc
    simpa [hc] using hnot

theorem Trimmed.append (hs : Trimmed s) (ht : Trimmed t) (hs' : s ≠ []) (ht' : t ≠ [])
    (u : Text) : Trimmed (s ++ u ++ t) := by
  constructor
  · intro c hc
    obtain ⟨d, rest, rfl⟩ := List.exists_cons_of_ne_nil hs'
    exact hs.head c hc
  · intro c hc
    rw [List.getLast?_append_of_ne_nil _ ht'] at hc
    exact ht.last c hc

theorem trim_eq_self (h : Trimmed s) : trim s = s := by
  have hstart : trimStart s = s := by
    cases s with
    | nil => rfl
    | cons c s => exact List.dropWhile_cons_of_neg (by simp [h.head c rfl])
  rw [trim, hstart, trimEnd, dropEndWhile_eq_rdropWhile, List.rdropWhile_eq_self_iff]
  intro hne
  simp [h.last _ (List.getLast?_eq_some_getLast hne)]

theorem trim_cons_of_blank {c : Char} (hc : isBlank c = true) (s : Text) :
    trim (c :: s) = trim s := by
  rw [trim, trim, trimStart, List.dropWhile_cons_of_pos hc]
  rfl

theorem trim_append_of_blank (h : ∀ c ∈ t, isBlank c = true) (s : Text) :
    trim (s ++ t) = trim s := by
  have hend : ∀ u : Text, trimEnd (u ++ t) = trimEnd u := by
    intro u
    rw [trimEnd, trimEnd, dropEndWhile, dropEndWhile, List.reverse_append,
      List.dropWhile_append_of_pos (by simpa using h)]
  simp only [trim, trimStart, List.dropWhile_append]
  split
  · next hs =>
    have hblank : t.dropWhile isBlank = [] := List.dropWhile_eq_nil_iff.2 h
    rw [List.isEmpty_iff.1 hs, hblank]
  · exact hend _

theorem trim_blank_append (h : ∀ c ∈ t, isBlank c = true) (s : Text) : trim (t ++ s) = trim s := by
  induction t with
  | nil => rfl
  | cons c t ih =>
    rw [List.forall_mem_cons] at h
    rw [List.cons_append, trim_cons_of_blank h.1, ih h.2]

theorem exists_append_trim (s : Text) :
    ∃ before after, s = before ++ (trim s ++ after) ∧ (∀ c ∈ before, isBlank c = true) ∧
      ∀ c ∈ after, isBlank c = true := by
  obtain ⟨after, hafter, hblank⟩ := exists_append_dropEndWhile isBlank (trimStart s)
  refine ⟨s.takeWhile isBlank, after, ?_, fun c hc => List.mem_takeWhile_imp hc, hblank⟩
  rw [trim, trimEnd, ← hafter, trimStart, List.takeWhile_append_dropWhile]

end Trim

section Join

theorem join_cons_cons (sep piece piece' : Text) (pieces : List Text) :
    join sep (piece :: piece' :: pieces) = piece ++ sep ++ join sep (piece' :: pieces) :=
  List.intercalate_cons_cons

theorem join_append (sep : Text) {pieces' : List Text} (h : pieces ≠ []) (h' : pieces' ≠ []) :
    join sep (pieces ++ pieces') = join sep pieces ++ sep ++ join sep pieces' := by
  induction pieces with
  | nil => exact (h rfl).elim
  | cons piece pieces ih =>
    cases pieces with
    | nil =>
      obtain ⟨piece', rest, rfl⟩ := List.exists_cons_of_ne_nil h'
      rw [List.singleton_append, join_cons_cons]
      simp [join]
    | cons piece' pieces =>
      have ih := ih (List.cons_ne_nil _ _)
      rw [List.cons_append] at ih ⊢
      rw [List.cons_append, join_cons_cons, ih, join_cons_cons]
      simp only [List.append_assoc]

theorem exists_of_mem_split {sep : Char} {l : Text} (h : l ∈ split sep s) :
    ∃ before after, s = before ++ (l ++ after) ∧
      (before = [] ∨ ∃ t, before = t ++ [sep]) ∧ (after = [] ∨ ∃ t, after = sep :: t) := by
  obtain ⟨ls, ls', hsplit⟩ := List.append_of_mem h
  have hafter : ∃ after, join [sep] (l :: ls') = l ++ after ∧
      (after = [] ∨ ∃ t, after = sep :: t) := by
    cases ls' with
    | nil => exact ⟨[], by simp [join], Or.inl rfl⟩
    | cons l' ls' =>
      refine ⟨sep :: join [sep] (l' :: ls'), ?_, Or.inr ⟨_, rfl⟩⟩
      rw [join_cons_cons, List.append_assoc, List.singleton_append]
  obtain ⟨after, hjoin, hafter⟩ := hafter
  rw [← join_split sep s, hsplit]
  by_cases hls : ls = []
  · exact ⟨[], after, by rw [hls, List.nil_append, List.nil_append, hjoin], Or.inl rfl, hafter⟩
  · refine ⟨join [sep] ls ++ [sep], after, ?_, Or.inr ⟨_, rfl⟩, hafter⟩
    rw [join_append _ hls (List.cons_ne_nil _ _), hjoin]

theorem mem_join {sep : Text} {c : Char} (h : c ∈ join sep pieces) :
    c ∈ sep ∨ ∃ piece ∈ pieces, c ∈ piece := by
  induction pieces with
  | nil => simp [join] at h
  | cons piece pieces ih =>
    cases pieces with
    | nil => exact Or.inr ⟨piece, List.mem_cons_self, by simpa [join] using h⟩
    | cons piece' pieces =>
      rw [join_cons_cons, List.mem_append, List.mem_append] at h
      rcases h with (h | h) | h
      · exact Or.inr ⟨piece, List.mem_cons_self, h⟩
      · exact Or.inl h
      · rcases ih h with h | ⟨p, hp, hc⟩
        · exact Or.inl h
        · exact Or.inr ⟨p, List.mem_cons_of_mem _ hp, hc⟩

theorem join_ne_nil (sep : Text) (hne : pieces ≠ []) (h : ∀ piece ∈ pieces, piece ≠ []) :
    join sep pieces ≠ [] := by
  obtain ⟨piece, rest, rfl⟩ := List.exists_cons_of_ne_nil hne
  have hp := h piece List.mem_cons_self
  cases rest with
  | nil => simpa [join] using hp
  | cons piece' rest =>
    rw [join_cons_cons, List.append_assoc]
    exact List.append_ne_nil_of_left_ne_nil hp _

theorem trimmed_join (sep : Text) (h : ∀ piece ∈ pieces, piece ≠ [] ∧ Trimmed piece) :
    Trimmed (join sep pieces) := by
  induction pieces with
  | nil => exact trimmed_nil
  | cons piece pieces ih =>
    cases pieces with
    | nil => simpa [join] using (h piece List.mem_cons_self).2
    | cons piece' pieces =>
      rw [List.forall_mem_cons] at h
      rw [join_cons_cons]
      refine h.1.2.append (ih h.2) h.1.1 ?_ sep
      exact join_ne_nil sep (List.cons_ne_nil _ _) fun p hp => (h.2 p hp).1

theorem isLine_join (h : ∀ piece ∈ pieces, piece ≠ [] ∧ IsLine piece) :
    IsLine (join [' '] pieces) := by
  refine ⟨trimmed_join _ fun p hp => ⟨(h p hp).1, (h p hp).2.toTrimmed⟩, fun hn => ?_⟩
  rcases mem_join hn with hn | ⟨p, hp, hn⟩
  · revert hn
    decide
  · exact (h p hp).2.newline_not_mem hn

end Join

section Lines

theorem isLine_trim (h : '\n' ∉ s) : IsLine (trim s) :=
  ⟨trimmed_trim s, fun hn => h (mem_of_mem_trim hn)⟩

theorem isLine_of_mem_split {l : Text} (h : l ∈ (split '\n' s).map trim) : IsLine l := by
  obtain ⟨piece, hp, rfl⟩ := List.mem_map.1 h
  exact isLine_trim (sep_not_mem_of_mem_split hp)

theorem isLine_singleLine (s : Text) : IsLine (singleLine s) := by
  refine isLine_join fun l hl => ?_
  obtain ⟨hm, hne⟩ := List.mem_filter.1 hl
  exact ⟨by simpa using hne, isLine_of_mem_split hm⟩

theorem singleLine_eq_self (h : IsLine s) : singleLine s = s := by
  rw [singleLine, split_of_not_mem h.newline_not_mem, List.map_singleton, trim_eq_self h.toTrimmed]
  cases s <;> simp [join]

def filledLines (s : Text) : List Text :=
  ((split '\n' s).map trim).filter fun l => !l.isEmpty

theorem filledLines_append_newline (s t : Text) :
    filledLines (s ++ '\n' :: t) = filledLines s ++ filledLines t := by
  simp only [filledLines, split_append, List.map_append, List.filter_append]

theorem filledLines_of_line (h : '\n' ∉ s) :
    filledLines s = [trim s].filter fun l => !l.isEmpty := by
  rw [filledLines, split_of_not_mem h, List.map_singleton]

theorem filledLines_cons_blank {c : Char} (hc : isBlank c = true) (s : Text) :
    filledLines (c :: s) = filledLines s := by
  by_cases hn : c = '\n'
  · subst hn
    exact filledLines_append_newline [] s
  · have hline : ∀ l : Text, '\n' ∉ l → filledLines (c :: l) = filledLines l := by
      intro l hl
      rw [filledLines_of_line (List.not_mem_cons_of_ne_of_not_mem (Ne.symm hn) hl),
        filledLines_of_line hl, trim_cons_of_blank hc]
    by_cases hs : '\n' ∈ s
    · obtain ⟨l, rest, rfl, hl⟩ := List.eq_append_cons_of_mem hs
      rw [← List.cons_append, filledLines_append_newline, filledLines_append_newline, hline l hl]
    · exact hline s hs

theorem filledLines_append_singleton_blank {c : Char} (hc : isBlank c = true) (s : Text) :
    filledLines (s ++ [c]) = filledLines s := by
  by_cases hn : c = '\n'
  · subst hn
    rw [filledLines_append_newline]
    exact List.append_nil _
  · induction hlen : s.length using Nat.strong_induction_on generalizing s with
    | h n ih =>
      by_cases hs : '\n' ∈ s
      · -- The lines up to the first line end are not touched.
        obtain ⟨l, rest, rfl, -⟩ := List.eq_append_cons_of_mem hs
        rw [List.append_assoc, List.cons_append, filledLines_append_newline,
          filledLines_append_newline, ih rest.length (by simp at hlen; omega) rest rfl]
      · have hs' : '\n' ∉ s ++ [c] := by simp [hs, Ne.symm hn]
        rw [filledLines_of_line hs', filledLines_of_line hs,
          trim_append_of_blank (List.forall_mem_singleton.2 hc)]

theorem singleLine_blank_append (h : ∀ c ∈ t, isBlank c = true) (s : Text) :
    singleLine (t ++ s) = singleLine s := by
  have hlines : filledLines (t ++ s) = filledLines s := by
    induction t with
    | nil => rfl
    | cons c t ih =>
      rw [List.forall_mem_cons] at h
      rw [List.cons_append, filledLines_cons_blank h.1, ih h.2]
  exact congrArg (join [' ']) hlines

theorem singleLine_append_blank (h : ∀ c ∈ t, isBlank c = true) (s : Text) :
    singleLine (s ++ t) = singleLine s := by
  have hlines : filledLines (s ++ t) = filledLines s := by
    induction t using List.reverseRecOn with
    | nil => rw [List.append_nil]
    | append_singleton t c ih =>
      rw [← List.append_assoc, filledLines_append_singleton_blank (h c (by simp)),
        ih fun d hd => h d (by simp [hd])]
  exact congrArg (join [' ']) hlines

theorem singleLine_trim (s : Text) : singleLine (trim s) = singleLine s := by
  obtain ⟨before, after, hs, hbefore, hafter⟩ := exists_append_trim s
  calc singleLine (trim s) = singleLine (trim s ++ after) := (singleLine_append_blank hafter _).symm
    _ = singleLine (before ++ (trim s ++ after)) := (singleLine_blank_append hbefore _).symm
    _ = singleLine s := by rw [← hs]

theorem nonEmpty?_eq_some_iff : nonEmpty? s = some t ↔ s = t ∧ t ≠ [] := by
  unfold nonEmpty?
  split
  · next h =>
    obtain rfl := List.isEmpty_iff.1 h
    simp only [reduceCtorEq, false_iff, not_and, ne_eq, not_not]
    exact Eq.symm
  · next h =>
    rw [Option.some.injEq]
    constructor
    · rintro rfl
      exact ⟨rfl, by simpa using h⟩
    · exact fun h => h.1

end Lines

section Paragraphs

/-- Lines that are not empty, each followed by a line end up to the last. -/
def IsParagraphs (s : Text) : Prop :=
  ∃ ps : List Text, ps ≠ [] ∧ (∀ p ∈ ps, p ≠ [] ∧ IsLine p) ∧ s = join ['\n'] ps

theorem mem_consRun {run r : List Text} {rs : List (List Text)} :
    r ∈ consRun run rs ↔ r = run ∧ run ≠ [] ∨ r ∈ rs := by
  unfold consRun
  split
  · next h =>
    rw [List.isEmpty_iff] at h
    simp [h]
  · next h =>
    have hne : run ≠ [] := by simpa using h
    simp [hne]

theorem mem_cutRuns (ls : List Text) :
    (∀ l ∈ (cutRuns ls).1, l ∈ ls ∧ l ≠ []) ∧
      ∀ r ∈ (cutRuns ls).2, r ≠ [] ∧ ∀ l ∈ r, l ∈ ls ∧ l ≠ [] := by
  induction ls with
  | nil => simp [cutRuns]
  | cons l ls ih =>
    obtain ⟨hrun, hruns⟩ := ih
    have hrun' : ∀ l' ∈ (cutRuns ls).1, l' ∈ l :: ls ∧ l' ≠ [] :=
      fun l' h => ⟨List.mem_cons_of_mem _ (hrun l' h).1, (hrun l' h).2⟩
    have hruns' : ∀ r ∈ (cutRuns ls).2, r ≠ [] ∧ ∀ l' ∈ r, l' ∈ l :: ls ∧ l' ≠ [] :=
      fun r h => ⟨(hruns r h).1, fun l' hl =>
        ⟨List.mem_cons_of_mem _ ((hruns r h).2 l' hl).1, ((hruns r h).2 l' hl).2⟩⟩
    simp only [cutRuns]
    split
    · refine ⟨by simp, fun r hr => ?_⟩
      rcases mem_consRun.1 hr with ⟨rfl, hne⟩ | hr
      · exact ⟨hne, hrun'⟩
      · exact hruns' r hr
    · next hl =>
      refine ⟨?_, hruns'⟩
      rw [List.forall_mem_cons]
      exact ⟨⟨List.mem_cons_self, by simpa using hl⟩, hrun'⟩

theorem mem_runs {ls r : List Text} (h : r ∈ runs ls) : r ≠ [] ∧ ∀ l ∈ r, l ∈ ls ∧ l ≠ [] := by
  obtain ⟨hrun, hruns⟩ := mem_cutRuns ls
  rcases mem_consRun.1 h with ⟨rfl, hne⟩ | h
  · exact ⟨hne, hrun⟩
  · exact hruns r h

theorem isLine_paragraph {p : Text} (h : p ∈ (runs ((split '\n' s).map trim)).map (join [' '])) :
    p ≠ [] ∧ IsLine p := by
  obtain ⟨r, hr, rfl⟩ := List.mem_map.1 h
  obtain ⟨hne, hl⟩ := mem_runs hr
  exact ⟨join_ne_nil _ hne fun l h => (hl l h).2,
    isLine_join fun l h => ⟨(hl l h).2, isLine_of_mem_split (hl l h).1⟩⟩

theorem isParagraphs_paragraphs (h : paragraphs s ≠ []) : IsParagraphs (paragraphs s) := by
  refine ⟨(runs ((split '\n' s).map trim)).map (join [' ']), ?_, fun p => isLine_paragraph, rfl⟩
  intro hnil
  rw [paragraphs, hnil] at h
  exact h rfl

theorem IsParagraphs.append (hs : IsParagraphs s) (ht : IsParagraphs t) :
    IsParagraphs (s ++ '\n' :: t) := by
  obtain ⟨ps, hps, hp, rfl⟩ := hs
  obtain ⟨qs, hqs, hq, rfl⟩ := ht
  refine ⟨ps ++ qs, by simp [hps], ?_, ?_⟩
  · intro p h
    rcases List.mem_append.1 h with h | h
    · exact hp p h
    · exact hq p h
  · rw [join_append _ hps hqs, List.append_assoc]
    rfl

end Paragraphs

end ApiNotes.Text
