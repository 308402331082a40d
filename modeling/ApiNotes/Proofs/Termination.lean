import Mathlib.Algebra.Ring.Nat
import ApiNotes.Proofs.Passes

/-! # Reading ends

A pass keeps the open names distinct names of the table and lowers the cost of the frames. So the
loop makes no more passes than the body's lines and the table allow, however the definitions refer
to each other.
-/

namespace ApiNotes

namespace Reader

variable {table : Definitions} {policy : Policy} {s s' : State}

theorem step_cases (h : step table policy s = .inl s') :
    ∃ line frames, Frame.next s.frames = (some line, frames) ∧
      (s'.frames = frames ∨ ∃ definition ∈ table.entries,
        definition.name ∉ Frame.openNames frames ∧
          s'.frames = Frame.ofDefinition definition :: frames) := by
  unfold step at h
  split at h
  · cases h
  · next line frames hn =>
    refine ⟨line, frames, hn, ?_⟩
    split at h
    · cases h
    · split at h
      · next definition ht =>
        obtain rfl := Sum.inl.inj h
        have := Reference.target_eq_ok ht
        exact Or.inr ⟨definition, this.1, this.2, rfl⟩
      · split at h
        · cases h
        · obtain rfl := Sum.inl.inj h
          exact Or.inl rfl
    · obtain rfl := Sum.inl.inj h
      exact Or.inl rfl

theorem step_open (hs : Frame.Open table s.frames) (h : step table policy s = .inl s') :
    Frame.Open table s'.frames := by
  obtain ⟨line, frames, hn, hf⟩ := step_cases h
  have hframes : Frame.Open table frames := by
    have := hs.next
    rwa [hn] at this
  rcases hf with hf | ⟨definition, hd, ho, hf⟩
  · rwa [hf]
  · rw [hf]
    exact hframes.expand hd ho

theorem step_cost_lt (h : step table policy s = .inl s') :
    Frame.cost table s'.frames < Frame.cost table s.frames := by
  obtain ⟨line, frames, hn, hf | ⟨definition, hd, ho, hf⟩⟩ := step_cases h
  · rw [hf]
    exact Frame.cost_next_lt hn
  · rw [hf]
    exact Frame.cost_next_expand_lt hn hd ho

/-- Each pass is paid for by the cost of the state it starts from. -/
theorem steps_open_cost {n : Nat} (h : Steps table policy n s s')
    (hs : Frame.Open table s.frames) :
    Frame.Open table s'.frames ∧ Frame.cost table s'.frames + n ≤ Frame.cost table s.frames := by
  induction h with
  | zero => exact ⟨hs, Nat.le_refl _⟩
  | succ hstep _ ih =>
    have hlt := step_cost_lt hstep
    obtain ⟨ho, hc⟩ := ih (step_open hs hstep)
    exact ⟨ho, by omega⟩

end Reader

/-- However the definitions refer to each other, the loop that reads a block ends: it never makes
more passes than a number that the body's lines and the table give. -/
theorem readBlock_passes_bounded (table : Definitions) (policy : Policy) (body : Text) :
    let lines := TagLine.ofBody body
    let start : Reader.State := ⟨[⟨none, lines⟩], {}, []⟩
    let width := (table.entries.flatMap Definition.lines).length + 1
    let bound := lines.length * width ^ table.entries.length + 1
    (∀ n s, Reader.Steps table policy n start s →
        n < bound ∧ (Frame.openNames s.frames).Nodup ∧
          Frame.openNames s.frames ⊆ table.entries.map Definition.name) ∧
      ∃ n s reading, Reader.Steps table policy n start s ∧ n < bound ∧
        Reader.step table policy s = .inr reading ∧
        (lines.head?.map TagLine.keyword = some Tag.route.keyword →
          readBlock table policy body =
            ⟨reading.notices, some <$> (reading.outcome >>= Draft.finish)⟩) := by
  intro lines start width bound
  have hcost : Frame.cost table start.frames + 1 = bound := by
    simp [start, Frame.cost, Frame.lineCost, Frame.openNames, bound, width, Definitions.width,
      Definitions.fresh]
  have hbound : ∀ n s, Reader.Steps table policy n start s →
      n < bound ∧ (Frame.openNames s.frames).Nodup ∧
        Frame.openNames s.frames ⊆ table.entries.map Definition.name := by
    intro n s h
    obtain ⟨ho, hc⟩ := Reader.steps_open_cost h (.base table lines)
    exact ⟨by omega, ho.distinct, ho.known⟩
  obtain ⟨n, s, hsteps, hend⟩ := Reader.steps_run policy (.ofLines table lines) {} []
  refine ⟨hbound, n, s, _, hsteps, (hbound n s hsteps).1, hend, ?_⟩
  intro hroute
  simp only [readBlock]
  rw [if_pos hroute]

end ApiNotes
