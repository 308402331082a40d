import ApiNotes.Proofs.References

/-! # Reading as a loop

Reading a block is a loop over frames and a draft that asks for the next line once in each pass.
The loop needs nothing of the queue but its table and its frames.
-/

namespace ApiNotes

namespace Reader

structure State where
  frames : List Frame
  draft : Draft
  notices : List Notice

/-- One pass of the loop: it reads a line and goes on, or the reading is complete. -/
def step (table : Definitions) (policy : Policy) (s : State) : State ⊕ Reading Draft :=
  match Frame.next s.frames with
  | (none, _) => .inr ⟨s.notices, .ok s.draft⟩
  | (some line, frames) =>
    match Entry.ofLine line with
    | .error fault => .inr ⟨s.notices, .error fault⟩
    | .ok (.reference name) =>
      match Reference.target table (Frame.openNames frames) name with
      | .ok definition => .inl { s with frames := Frame.ofDefinition definition :: frames }
      | .error notice =>
        match policy with
        | .strict => .inr ⟨s.notices, .error notice.toFault⟩
        | .lenient => .inl { s with frames, notices := s.notices ++ [notice] }
    | .ok entry => .inl { s with frames, draft := s.draft.add entry }

/-- So many passes lead from one state to another. -/
inductive Steps (table : Definitions) (policy : Policy) : Nat → State → State → Prop where
  | zero (s : State) : Steps table policy 0 s s
  | succ {n : Nat} {s s' s'' : State} : step table policy s = .inl s' →
      Steps table policy n s' s'' → Steps table policy (n + 1) s s''

/-- The loop ends with what reading the queue gives. -/
theorem steps_run (policy : Policy) (queue : LineQueue) (draft : Draft) (notices : List Notice) :
    ∃ n s, Steps queue.table policy n ⟨queue.frames, draft, notices⟩ s ∧
      step queue.table policy s = .inr (run policy queue draft notices) := by
  fun_induction run policy queue draft notices with
  | case1 queue draft notices queue' hn =>
    refine ⟨0, _, .zero _, ?_⟩
    simp [step, (LineQueue.next_frames hn).1]
  | case2 queue draft notices line queue' hn _ fault he =>
    refine ⟨0, _, .zero _, ?_⟩
    simp [step, (LineQueue.next_frames hn).1, he]
  | case3 queue draft notices line queue' hn _ name he queue'' hq _ ih =>
    obtain ⟨hf, ht⟩ := LineQueue.next_frames hn
    obtain ⟨definition, hd, ht', hf'⟩ := Reference.target_of_resolve_ok hq
    obtain ⟨n, s, hsteps, hend⟩ := ih
    rw [ht', ht] at hsteps hend
    refine ⟨n + 1, s, .succ ?_ hsteps, hend⟩
    simp [step, hf, he, ← ht, hd, hf']
  | case4 queue draft notices line queue' hn _ name he notice hq hp =>
    obtain ⟨hf, ht⟩ := LineQueue.next_frames hn
    refine ⟨0, _, .zero _, ?_⟩
    simp [step, hf, he, ← ht, Reference.target_of_resolve_error hq, hp]
  | case5 queue draft notices line queue' hn _ name he notice hq hp ih =>
    obtain ⟨hf, ht⟩ := LineQueue.next_frames hn
    obtain ⟨n, s, hsteps, hend⟩ := ih
    subst hp
    rw [ht] at hsteps hend
    refine ⟨n + 1, s, .succ ?_ hsteps, hend⟩
    simp [step, hf, he, ← ht, Reference.target_of_resolve_error hq]
  | case6 queue draft notices line queue' hn _ entry hne he ih =>
    obtain ⟨hf, ht⟩ := LineQueue.next_frames hn
    obtain ⟨n, s, hsteps, hend⟩ := ih
    rw [ht] at hsteps hend
    refine ⟨n + 1, s, .succ ?_ hsteps, hend⟩
    cases entry <;> simp_all [step]

end Reader

end ApiNotes
