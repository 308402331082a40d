import ApiNotes.Proofs.Placement

/-! # Line queues under any calls

Whatever is read and expanded, a line queue is the list of its unread lines: a read takes the first
and an expansion puts the lines of a definition before them. Frames without lines stay open until
the next read, but all frames except the first are those of different definitions.
-/

namespace ApiNotes

namespace Frame

variable {frames : List Frame}

def unread (frames : List Frame) : List Text := frames.flatMap lines

theorem next_unread (frames : List Frame) :
    (next frames).1 = (unread frames).head? ∧
      unread (next frames).2 = (unread frames).tail := by
  fun_induction next frames with
  | case1 => exact ⟨rfl, rfl⟩
  | case2 name frames ih => exact ih
  | case3 name line lines frames => exact ⟨rfl, rfl⟩

theorem map_name_next (frames : List Frame) :
    (next frames).2.map name = (frames.dropWhile fun frame => frame.lines.isEmpty).map name := by
  fun_induction next frames with
  | case1 => rfl
  | case2 name frames ih => exact ih
  | case3 name line lines frames => rfl

def AtMostOneBase (frames : List Frame) : Prop := frames.length ≤ (openNames frames).length + 1

theorem AtMostOneBase.of_cons {frame : Frame} (h : AtMostOneBase (frame :: frames)) :
    AtMostOneBase frames := by
  obtain ⟨_ | name, lines⟩ := frame
  · simp only [AtMostOneBase, openNames, List.filterMap_cons, List.length_cons] at h ⊢
    omega
  · simpa [AtMostOneBase, openNames] using h

theorem AtMostOneBase.next (h : AtMostOneBase frames) : AtMostOneBase (next frames).2 := by
  fun_induction Frame.next frames with
  | case1 => exact h
  | case2 name frames ih => exact ih h.of_cons
  | case3 name line lines frames =>
    cases name <;> simpa [AtMostOneBase, openNames] using h

theorem AtMostOneBase.expand (h : AtMostOneBase frames) (definition : Definition) :
    AtMostOneBase (ofDefinition definition :: frames) := by
  simpa [AtMostOneBase] using h

theorem mem_openNames_iff {name : Text} :
    name ∈ openNames frames ↔ ∃ frame ∈ frames, frame.name = some name := List.mem_filterMap

end Frame

namespace LineQueue

variable {queue queue' : LineQueue} {name : Text}

theorem expand_eq_recursive_iff :
    queue.expand name = .error .recursive ↔ name ∈ Frame.openNames queue.frames := by
  unfold expand
  split
  · next h => simp [h]
  · next h =>
    split <;> simp [h]

theorem expand_eq_undefined_iff :
    queue.expand name = .error .undefined ↔
      name ∉ Frame.openNames queue.frames ∧ queue.table.get? name = none := by
  unfold expand
  split
  · next h => simp [h]
  · next h =>
    split
    · next hd => simp [h, hd]
    · next hd => simp [hd]

inductive Call where
  | next
  | expand (name : Text)
  deriving DecidableEq, Repr

/-- The queue after a call; an expansion that fails leaves it as it is. -/
def call (queue : LineQueue) : Call → LineQueue
  | .next => queue.next.2
  | .expand name =>
    match queue.expand name with
    | .ok queue' => queue'
    | .error _ => queue

theorem call_expand_of_ok (h : queue.expand name = .ok queue') :
    queue.call (.expand name) = queue' := by
  simp only [call, h]

theorem call_expand_of_error {reason : Unresolved} (h : queue.expand name = .error reason) :
    queue.call (.expand name) = queue := by
  simp only [call, h]

def after (queue : LineQueue) (calls : List Call) : LineQueue := calls.foldl call queue

/-- What every call keeps: the table, and that all frames but one are of definitions. -/
structure Keeps (table : Definitions) (queue : LineQueue) : Prop where
  table_eq : queue.table = table
  oneBase : Frame.AtMostOneBase queue.frames

theorem Keeps.call {table : Definitions} (h : Keeps table queue) (c : Call) :
    Keeps table (queue.call c) := by
  cases c with
  | next => exact ⟨h.table_eq, h.oneBase.next⟩
  | expand name =>
    cases hq : queue.expand name with
    | error reason => rwa [call_expand_of_error hq]
    | ok queue' =>
      obtain ⟨-, definition, -, htable, hframes⟩ := expand_eq_ok hq
      rw [call_expand_of_ok hq]
      exact ⟨htable.trans h.table_eq, hframes ▸ h.oneBase.expand definition⟩

theorem Keeps.after {table : Definitions} (h : Keeps table queue) (calls : List Call) :
    Keeps table (queue.after calls) := by
  induction calls generalizing queue with
  | nil => exact h
  | cons c calls ih => exact ih (h.call c)

theorem length_frames_le (h : Frame.AtMostOneBase queue.frames) :
    queue.frames.length ≤ 1 + queue.table.size := by
  have hnames := (List.subperm_of_subset queue.opened.distinct queue.opened.known).length_le
  rw [List.length_map] at hnames
  unfold Frame.AtMostOneBase at h
  unfold Definitions.size
  omega

/-- After any calls on a queue whose table was filled by insertions, a read takes the first of the
unread lines and an expansion puts the lines of the definition that was inserted last before them.
It fails with `recursive` exactly if a frame of that name is still open, and then with `undefined`
exactly if nothing was inserted under the name. The open frames have different names, so there is
at most one more than the table has definitions. -/
theorem after_splices (definitions : List Definition) (lines : List Text) (calls : List Call) :
    let table := definitions.foldl Definitions.insert .empty
    let queue := (ofLines table lines).after calls
    let named := fun name => definitions.filter fun d => d.name = name
    (queue.next.1 = queue.rest.head? ∧ queue.next.2.rest = queue.rest.tail ∧
        (queue.next.1 = none ↔ queue.rest = []) ∧
        queue.next.2.frames.map Frame.name =
          (queue.frames.dropWhile fun frame => frame.lines.isEmpty).map Frame.name) ∧
      (∀ name,
        (queue.expand name = .error .recursive ↔
          ∃ frame ∈ queue.frames, frame.name = some name) ∧
        (queue.expand name = .error .undefined ↔
          (¬∃ frame ∈ queue.frames, frame.name = some name) ∧ named name = []) ∧
        (∀ reason, queue.expand name = .error reason → queue.call (.expand name) = queue) ∧
        ∀ queue', queue.expand name = .ok queue' →
          queue.call (.expand name) = queue' ∧
            ∃ definition, (named name).getLast? = some definition ∧
              queue'.rest = definition.lines ++ queue.rest ∧
              queue'.frames.map Frame.name = some name :: queue.frames.map Frame.name) ∧
      (queue.frames.filterMap Frame.name).Nodup ∧
      queue.frames.length ≤ 1 + table.size := by
  intro table queue named
  have hstart : Keeps table (ofLines table lines) := ⟨rfl, Nat.le_refl 1⟩
  have hkeeps : Keeps table queue := hstart.after calls
  have hget : ∀ name, queue.table.get? name = (named name).getLast? := by
    intro name
    rw [hkeeps.table_eq]
    exact Definitions.get?_foldl_insert definitions name
  obtain ⟨hhead, htail⟩ := Frame.next_unread queue.frames
  refine ⟨⟨hhead, htail, ?_, Frame.map_name_next _⟩,
    fun name => ⟨?_, ?_, fun reason => call_expand_of_error, fun queue' h => ?_⟩,
    queue.opened.distinct, hkeeps.table_eq ▸ length_frames_le hkeeps.oneBase⟩
  · rw [← List.head?_eq_none_iff]
    exact iff_of_eq (congrArg (· = none) hhead)
  · rw [expand_eq_recursive_iff, Frame.mem_openNames_iff]
  · rw [expand_eq_undefined_iff, Frame.mem_openNames_iff, hget, List.getLast?_eq_none_iff]
  · obtain ⟨-, definition, hd, -, hframes⟩ := expand_eq_ok h
    refine ⟨call_expand_of_ok h, definition, (hget name).symm.trans hd, ?_, ?_⟩
    · rw [rest, hframes, List.flatMap_cons]
      rfl
    · rw [hframes, List.map_cons, Frame.ofDefinition, Keyed.key_of_get? _ hd]

end LineQueue

end ApiNotes
