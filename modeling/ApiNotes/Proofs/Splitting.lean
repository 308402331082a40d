import Mathlib.Data.List.DropRight
import ApiNotes.Text.Basic

/-! # Splitting and joining

Splitting at a character is the split of the standard library, so joining the pieces with that
character gives the text back, and pieces without it are found again in what they are joined to.
-/

namespace ApiNotes.Text

variable {sep : Char} {pieces : List Text}

theorem split_eq_splitOn (sep : Char) (s : Text) : split sep s = s.splitOn sep := by
  induction s with
  | nil => simp [split, cut]
  | cons c s ih =>
    rw [List.splitOn_cons_eq_if_modifyHead, ← ih]
    by_cases h : c = sep <;> simp [split, cut, h]

theorem join_split (sep : Char) (s : Text) : join [sep] (split sep s) = s := by
  rw [split_eq_splitOn]
  exact List.intercalate_splitOn sep

theorem split_join (hne : pieces ≠ []) (h : ∀ piece ∈ pieces, sep ∉ piece) :
    split sep (join [sep] pieces) = pieces := by
  rw [split_eq_splitOn]
  exact List.splitOn_intercalate sep h hne

theorem split_of_not_mem {s : Text} (h : sep ∉ s) : split sep s = [s] := by
  simpa [join] using split_join (List.cons_ne_nil s []) (List.forall_mem_singleton.2 h)

theorem flatMap_split_of_not_mem (h : ∀ piece ∈ pieces, sep ∉ piece) :
    pieces.flatMap (split sep) = pieces := by
  induction pieces with
  | nil => rfl
  | cons piece pieces ih =>
    rw [List.forall_mem_cons] at h
    rw [List.flatMap_cons, split_of_not_mem h.1, ih h.2]
    rfl

theorem split_append (sep : Char) (s t : Text) :
    split sep (s ++ sep :: t) = split sep s ++ split sep t := by
  simp only [split_eq_splitOn]
  exact List.splitOn_append_cons_self s t

theorem split_cons_sep (sep : Char) (t : Text) : split sep (sep :: t) = [] :: split sep t :=
  split_append sep [] t

theorem split_join_flatMap (hne : pieces ≠ []) :
    split sep (join [sep] pieces) = pieces.flatMap (split sep) := by
  induction pieces with
  | nil => exact (hne rfl).elim
  | cons piece pieces ih =>
    cases pieces with
    | nil => simp [join]
    | cons piece' pieces =>
      have hj : join [sep] (piece :: piece' :: pieces) =
          piece ++ sep :: join [sep] (piece' :: pieces) := by
        simp [join]
      rw [hj, split_append, ih (List.cons_ne_nil _ _)]
      rfl

theorem sep_not_mem_of_mem_split {s piece : Text} (h : piece ∈ split sep s) : sep ∉ piece := by
  induction s generalizing piece with
  | nil =>
    obtain rfl : piece = [] := by simpa [split, cut] using h
    exact List.not_mem_nil
  | cons c s ih =>
    have ih' : ∀ p, p = (cut sep s).1 ∨ p ∈ (cut sep s).2 → sep ∉ p :=
      fun p hp => ih (by simpa [split] using hp)
    by_cases hc : c = sep
    · simp only [split, cut, hc, ↓reduceIte, List.mem_cons] at h
      rcases h with rfl | h
      · exact List.not_mem_nil
      · exact ih' _ h
    · simp only [split, cut, hc, ↓reduceIte, List.mem_cons] at h
      rcases h with rfl | h
      · have hs := ih' _ (Or.inl rfl)
        simp [Ne.symm hc, hs]
      · exact ih' _ (Or.inr h)

theorem dropEndWhile_eq_rdropWhile (p : Char → Bool) (s : Text) :
    dropEndWhile p s = s.rdropWhile p := rfl

theorem dropEndWhile_cons (p : Char → Bool) (c : Char) (s : Text) :
    dropEndWhile p (c :: s) =
      if dropEndWhile p s = [] ∧ p c = true then [] else c :: dropEndWhile p s := by
  simp only [dropEndWhile, List.reverse_cons, List.dropWhile_append, List.isEmpty_iff,
    List.reverse_eq_nil_iff]
  by_cases hs : s.reverse.dropWhile p = [] <;> by_cases hc : p c <;> simp [hs, hc]

theorem dropEndWhile_append_cons {p : Char → Bool} {c : Char} (hc : p c = false) (s t : Text) :
    dropEndWhile p (s ++ c :: t) = s ++ c :: dropEndWhile p t := by
  induction s with
  | nil => simp [dropEndWhile_cons, hc]
  | cons d s ih => simp [dropEndWhile_cons, ih]

theorem exists_append_dropEndWhile (p : Char → Bool) (s : Text) :
    ∃ t, s = dropEndWhile p s ++ t ∧ ∀ c ∈ t, p c = true := by
  refine ⟨(s.reverse.takeWhile p).reverse, ?_, ?_⟩
  · rw [dropEndWhile, ← List.reverse_append, List.takeWhile_append_dropWhile, List.reverse_reverse]
  · intro c hc
    exact List.mem_takeWhile_imp (List.mem_reverse.1 hc)

theorem exists_replicate_dropEndWhile (c : Char) (s : Text) :
    (dropEndWhile (· == c) s).getLast? ≠ some c ∧
      ∃ n, s = dropEndWhile (· == c) s ++ List.replicate n c := by
  constructor
  · intro h
    obtain ⟨t, ht⟩ := List.getLast?_eq_some_iff.1 h
    have hne : s.rdropWhile (· == c) ≠ [] := by
      rw [← dropEndWhile_eq_rdropWhile, ht]
      simp
    refine List.rdropWhile_last_not (· == c) s hne ?_
    simp [← dropEndWhile_eq_rdropWhile, ht]
  · obtain ⟨t, hs, ht⟩ := exists_append_dropEndWhile (· == c) s
    refine ⟨t.length, ?_⟩
    rwa [← List.eq_replicate_of_mem fun d hd => beq_iff_eq.1 (ht d hd)]

theorem dropEndWhile_append_replicate (c : Char) (s : Text) (n : Nat) :
    dropEndWhile (· == c) (s ++ List.replicate n c) = dropEndWhile (· == c) s := by
  have hall : (List.replicate n c).dropWhile (· == c) = [] := by
    rw [List.dropWhile_eq_nil_iff]
    intro d hd
    simp [List.eq_of_mem_replicate hd]
  rw [dropEndWhile, List.reverse_append, List.reverse_replicate, List.dropWhile_append, hall]
  rfl

theorem replace_append (c : Char) (new s t : Text) :
    replace c new (s ++ t) = replace c new s ++ replace c new t :=
  List.flatMap_append

theorem replace_of_not_mem {c : Char} {s : Text} (h : c ∉ s) (new : Text) :
    replace c new s = s := by
  induction s with
  | nil => rfl
  | cons d s ih =>
    rw [List.mem_cons, not_or] at h
    rw [replace, List.flatMap_cons, if_neg (Ne.symm h.1)]
    exact congrArg (d :: ·) (ih h.2)

end ApiNotes.Text
