import ApiNotes.Annotation.Definition
import ApiNotes.Proofs.Splitting

/-! # Tag lines and the texts they are read from

A tag line is a line that starts with `@` and the lines that continue it. Reading gives such tag
lines only, and a text that joins tag lines is read as the same tag lines again.
-/

namespace ApiNotes.TagLine

/-- A line that starts a tag, and lines that do not, none of them with a line end of its own. -/
structure Written (first : Text) (rest : List Text) : Prop where
  starts : startsTag first = true
  continues : ∀ l ∈ rest, startsTag l = false
  newline_not_mem : ∀ l ∈ first :: rest, '\n' ∉ l
  trimmed : ∀ l ∈ first :: rest, Text.dropEndWhile (· == '\r') l = l

def IsTagLine (line : Text) : Prop :=
  ∃ first rest, Written first rest ∧ line = Text.join ['\n'] (first :: rest)

theorem newline_not_mem_physicalLines {body l : Text} (h : l ∈ physicalLines body) : '\n' ∉ l := by
  obtain ⟨piece, hp, rfl⟩ := List.mem_map.1 h
  rw [Text.dropEndWhile_eq_rdropWhile]
  exact fun hn => Text.sep_not_mem_of_mem_split hp ((List.rdropWhile_prefix _ _).subset hn)

theorem trimmed_physicalLines {body l : Text} (h : l ∈ physicalLines body) :
    Text.dropEndWhile (· == '\r') l = l := by
  obtain ⟨piece, -, rfl⟩ := List.mem_map.1 h
  simp only [Text.dropEndWhile_eq_rdropWhile]
  exact List.rdropWhile_idempotent _ _

theorem gather_continuation (ls : List Text) :
    (gather ls).1 <+: ls ∧ ∀ l ∈ (gather ls).1, startsTag l = false := by
  induction ls with
  | nil => simp [gather]
  | cons l ls ih =>
    by_cases hl : startsTag l
    · simp [gather, hl]
    · simpa [gather, hl] using ih

theorem isTagLine_of_mem_gather {ls : List Text} (hn : ∀ l ∈ ls, '\n' ∉ l)
    (ht : ∀ l ∈ ls, Text.dropEndWhile (· == '\r') l = l) {line : Text}
    (h : line ∈ (gather ls).2) : IsTagLine line := by
  induction ls with
  | nil => simp [gather] at h
  | cons l ls ih =>
    rw [List.forall_mem_cons] at hn ht
    by_cases hl : startsTag l
    · simp only [gather, hl, ↓reduceIte, List.mem_cons] at h
      rcases h with rfl | h
      · have hc := gather_continuation ls
        refine ⟨l, (gather ls).1, ⟨hl, hc.2, ?_, ?_⟩, rfl⟩
        · exact List.forall_mem_cons.2 ⟨hn.1, fun l hl => hn.2 l (hc.1.subset hl)⟩
        · exact List.forall_mem_cons.2 ⟨ht.1, fun l hl => ht.2 l (hc.1.subset hl)⟩
      · exact ih hn.2 ht.2 h
    · simp only [gather, hl, Bool.false_eq_true, ↓reduceIte] at h
      exact ih hn.2 ht.2 h

theorem isTagLine_of_mem_ofBody {body line : Text} (h : line ∈ ofBody body) : IsTagLine line :=
  isTagLine_of_mem_gather (fun _ => newline_not_mem_physicalLines)
    (fun _ => trimmed_physicalLines) h

theorem Written.physicalLines_join {first : Text} {rest : List Text} (h : Written first rest) :
    physicalLines (Text.join ['\n'] (first :: rest)) = first :: rest := by
  rw [physicalLines, Text.split_join (List.cons_ne_nil _ _) h.newline_not_mem]
  exact (List.map_congr_left h.trimmed).trans (List.map_id _)

theorem gather_append {rest ls : List Text} (h : ∀ l ∈ rest, startsTag l = false) :
    gather (rest ++ ls) = (rest ++ (gather ls).1, (gather ls).2) := by
  induction rest with
  | nil => rfl
  | cons l rest ih =>
    rw [List.forall_mem_cons] at h
    simp [gather, ih h.2, h.1]

theorem gather_flatMap_physicalLines {lines : List Text} (h : ∀ line ∈ lines, IsTagLine line) :
    gather (lines.flatMap physicalLines) = ([], lines) := by
  induction lines with
  | nil => rfl
  | cons line lines ih =>
    rw [List.forall_mem_cons] at h
    obtain ⟨first, rest, hw, rfl⟩ := h.1
    rw [List.flatMap_cons, hw.physicalLines_join, List.cons_append, gather,
      gather_append hw.continues, ih h.2]
    simp [hw.starts]

/-- Tag lines that are joined are read as the same tag lines. -/
theorem ofBody_join {lines : List Text} (h : ∀ line ∈ lines, IsTagLine line) :
    ofBody (Text.join ['\n'] lines) = lines := by
  cases lines with
  | nil => rfl
  | cons line lines =>
    have hp : physicalLines (Text.join ['\n'] (line :: lines)) =
        (line :: lines).flatMap physicalLines := by
      rw [physicalLines, Text.split_join_flatMap (List.cons_ne_nil _ _), List.map_flatMap]
      rfl
    rw [ofBody, hp, gather_flatMap_physicalLines h]

end ApiNotes.TagLine

namespace ApiNotes

theorem Definition.isTagLine_of_ofBody? {body line : Text} {definition : Definition}
    (h : Definition.ofBody? body = some definition) (hl : line ∈ definition.lines) :
    TagLine.IsTagLine line := by
  unfold Definition.ofBody? at h
  split at h
  · cases h
  · next head lines hb =>
    split at h
    · obtain ⟨name, -, rfl⟩ := Option.map_eq_some_iff.1 h
      exact TagLine.isTagLine_of_mem_ofBody (hb ▸ List.mem_cons_of_mem _ hl)
    · cases h

end ApiNotes
