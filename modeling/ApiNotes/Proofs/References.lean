import ApiNotes.Proofs.Entries
import ApiNotes.Resource.Reader

/-! # References

What a reference stands for depends on the table and the names that are open, not on the lines
that are still to come. Expanding it puts the lines of its definition into a frame of their own.
-/

namespace ApiNotes

namespace Reference

/-- The definition that a reference stands for while the names `active` are open. -/
def target (table : Definitions) (active : List Text) : Option Text → Except Notice Definition
  | none => .error .missingName
  | some name =>
    if active.contains name then .error (.recursiveReference name)
    else
      match table.get? name with
      | none => .error (.undefinedReference name)
      | some definition => .ok definition

theorem target_eq_ok {table : Definitions} {active : List Text} {name : Option Text}
    {definition : Definition} (h : target table active name = .ok definition) :
    definition ∈ table.entries ∧ definition.name ∉ active := by
  cases name with
  | none => cases h
  | some name =>
    simp only [target, List.contains_iff_mem] at h
    split at h
    · cases h
    · next ha =>
      split at h
      · cases h
      · next d hd =>
        obtain rfl := Except.ok.inj h
        refine ⟨Keyed.mem_of_get? _ hd, ?_⟩
        rwa [Keyed.key_of_get? _ hd]

variable {queue : LineQueue} {name : Option Text}

theorem target_of_resolve_error {notice : Notice} (h : Reader.resolve queue name = .error notice) :
    target queue.table (Frame.openNames queue.frames) name = .error notice := by
  cases name with
  | none => exact congrArg _ (Except.error.inj h)
  | some name =>
    simp only [Reader.resolve, LineQueue.expand] at h
    simp only [target, List.contains_iff_mem]
    split at h
    · next ho =>
      rw [if_pos ho]
      exact congrArg _ (Except.error.inj h)
    · next ho =>
      rw [if_neg ho]
      split at h
      · next hd =>
        rw [hd]
        exact congrArg _ (Except.error.inj h)
      · cases h

theorem target_of_resolve_ok {queue' : LineQueue} (h : Reader.resolve queue name = .ok queue') :
    ∃ definition, target queue.table (Frame.openNames queue.frames) name = .ok definition ∧
      queue'.table = queue.table ∧ queue'.frames = .ofDefinition definition :: queue.frames := by
  cases name with
  | none => cases h
  | some name =>
    simp only [Reader.resolve, LineQueue.expand] at h
    split at h
    · cases h
    · next ho =>
      split at h
      · cases h
      · next definition hd =>
        obtain rfl := Except.ok.inj h
        exact ⟨definition, by simp [target, ho, hd], rfl, rfl⟩

end Reference

end ApiNotes
