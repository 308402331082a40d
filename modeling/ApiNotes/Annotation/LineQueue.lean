import ApiNotes.Annotation.Definition

/-! # Line queues

A queue of tag lines into which definitions can be spliced. The lines of a definition that is
expanded come next, then the queue goes on where it was. A definition is open from its expansion
until a read finds its lines used up; while it is open it cannot be expanded again. So the open
names are distinct names of the table, and the cost of the frames bounds the lines that can still
come.
-/

namespace ApiNotes

inductive Unresolved where
  | undefined
  | recursive
  deriving DecidableEq, Repr

/-- Unread lines, and the name of the definition that they belong to, if any. -/
structure Frame where
  name : Option Text
  lines : List Text
  deriving DecidableEq, Repr

namespace Frame

def ofDefinition (definition : Definition) : Frame := ⟨some definition.name, definition.lines⟩

def openNames (frames : List Frame) : List Text := frames.filterMap Frame.name

@[simp] theorem openNames_ofDefinition_cons (definition : Definition) (frames : List Frame) :
    openNames (ofDefinition definition :: frames) = definition.name :: openNames frames := rfl

/-- The next line and the frames after it is read. Frames without lines are closed on the way. -/
def next : List Frame → Option Text × List Frame
  | [] => (none, [])
  | ⟨_, []⟩ :: frames => next frames
  | ⟨name, line :: lines⟩ :: frames => (some line, ⟨name, lines⟩ :: frames)

theorem openNames_next (frames : List Frame) :
    (openNames (next frames).2).Sublist (openNames frames) := by
  fun_induction next frames with
  | case1 => exact List.Sublist.refl _
  | case2 name frames ih =>
    refine ih.trans ?_
    cases name <;> simp [openNames]
  | case3 name line lines frames => cases name <;> simp [openNames]

section Open

variable {table : Definitions} {frames : List Frame} {definition : Definition}

/-- The open names are names of the table, none of them open twice. -/
structure Open (table : Definitions) (frames : List Frame) : Prop where
  distinct : (openNames frames).Nodup
  known : openNames frames ⊆ table.entries.map Definition.name

theorem Open.base (table : Definitions) (lines : List Text) : Open table [⟨none, lines⟩] :=
  ⟨List.nodup_nil, List.nil_subset _⟩

theorem Open.next (h : Open table frames) : Open table (next frames).2 :=
  ⟨h.distinct.sublist (openNames_next frames),
    fun _ hn => h.known ((openNames_next frames).subset hn)⟩

theorem Open.expand (h : Open table frames) (hd : definition ∈ table.entries)
    (ho : definition.name ∉ openNames frames) : Open table (ofDefinition definition :: frames) :=
  ⟨List.nodup_cons.2 ⟨ho, h.distinct⟩, List.cons_subset.2 ⟨List.mem_map_of_mem hd, h.known⟩⟩

end Open

section Cost

variable {table : Definitions} {frames rest : List Frame} {line : Text} {definition : Definition}

/-- What one line of the innermost frame is worth, as it may expand what is not open. -/
def lineCost (table : Definitions) (frames : List Frame) : Nat :=
  Nat.pow table.width (table.fresh (openNames frames))

/-- A bound on the lines that can still be read, whatever is expanded. -/
def cost (table : Definitions) : List Frame → Nat
  | [] => 0
  | frame :: frames => frame.lines.length * lineCost table (frame :: frames) + cost table frames

theorem cost_next (table : Definitions) (h : next frames = (some line, rest)) :
    cost table rest + lineCost table rest = cost table frames := by
  fun_induction next frames with
  | case1 => simp at h
  | case2 name frames ih => simpa [cost] using ih h
  | case3 name line' lines frames =>
    simp only [Prod.mk.injEq, Option.some.injEq] at h
    obtain ⟨_, rfl⟩ := h
    have hline : lineCost table (⟨name, line' :: lines⟩ :: frames) =
        lineCost table (⟨name, lines⟩ :: frames) := by
      cases name <;> simp [lineCost, openNames]
    simp only [cost, hline, List.length_cons, Nat.add_mul, Nat.one_mul]
    omega

theorem cost_next_lt (h : next frames = (some line, rest)) :
    cost table rest < cost table frames := by
  have hpos : 0 < lineCost table rest := Nat.pow_pos (Nat.succ_pos _)
  have := cost_next table h
  omega

theorem cost_expand_lt (hd : definition ∈ table.entries)
    (ho : definition.name ∉ openNames frames) :
    cost table (ofDefinition definition :: frames) < cost table frames + lineCost table frames := by
  have hlines := Definitions.lines_length_lt_width hd
  have hfresh : Nat.pow table.width (table.fresh (definition.name :: openNames frames) + 1) ≤
      lineCost table frames :=
    Nat.pow_le_pow_right (Nat.succ_pos _) (Definitions.fresh_cons_lt hd ho)
  have hstep : definition.lines.length * lineCost table (ofDefinition definition :: frames) <
      Nat.pow table.width (table.fresh (definition.name :: openNames frames) + 1) := by
    rw [Nat.pow_eq, Nat.pow_succ, Nat.mul_comm (_ ^ _)]
    exact Nat.mul_lt_mul_of_pos_right hlines (Nat.pow_pos (Nat.succ_pos _))
  have hlen : (ofDefinition definition).lines.length = definition.lines.length := rfl
  simp only [cost, hlen]
  omega

/-- Reading a line and expanding a definition that is not open lowers the cost. -/
theorem cost_next_expand_lt (h : next frames = (some line, rest)) (hd : definition ∈ table.entries)
    (ho : definition.name ∉ openNames rest) :
    cost table (ofDefinition definition :: rest) < cost table frames := by
  rw [← cost_next table h]
  exact cost_expand_lt hd ho

end Cost

end Frame

structure LineQueue where
  table : Definitions
  /-- The open frames, the innermost first. -/
  frames : List Frame
  opened : Frame.Open table frames

namespace LineQueue

def ofLines (table : Definitions) (lines : List Text) : LineQueue :=
  ⟨table, [⟨none, lines⟩], .base table lines⟩

/-- All unread lines in the order in which they come, if nothing more is expanded. -/
def rest (queue : LineQueue) : List Text := queue.frames.flatMap Frame.lines

def next (queue : LineQueue) : Option Text × LineQueue :=
  ((Frame.next queue.frames).1, ⟨queue.table, (Frame.next queue.frames).2, queue.opened.next⟩)

/-- Splice the lines of a definition in before the unread lines. -/
def expand (queue : LineQueue) (name : Text) : Except Unresolved LineQueue :=
  if ho : name ∈ Frame.openNames queue.frames then .error .recursive
  else
    match h : queue.table.get? name with
    | none => .error .undefined
    | some definition =>
      .ok
        { table := queue.table
          frames := .ofDefinition definition :: queue.frames
          opened := queue.opened.expand (Keyed.mem_of_get? _ h) (by rwa [Keyed.key_of_get? _ h]) }

def cost (queue : LineQueue) : Nat := Frame.cost queue.table queue.frames

theorem next_frames {queue queue' : LineQueue} {line : Option Text}
    (h : queue.next = (line, queue')) :
    Frame.next queue.frames = (line, queue'.frames) ∧ queue'.table = queue.table := by
  obtain ⟨rfl, rfl⟩ := Prod.mk.inj h
  exact ⟨rfl, rfl⟩

theorem expand_eq_ok {queue queue' : LineQueue} {name : Text} (h : queue.expand name = .ok queue') :
    name ∉ Frame.openNames queue.frames ∧ ∃ definition,
      queue.table.get? name = some definition ∧ queue'.table = queue.table ∧
        queue'.frames = .ofDefinition definition :: queue.frames := by
  unfold expand at h
  split at h
  · cases h
  · next ho =>
    split at h
    · cases h
    · next definition hd =>
      obtain rfl := Except.ok.inj h
      exact ⟨ho, definition, hd, rfl, rfl⟩

theorem cost_next_lt {queue queue' : LineQueue} {line : Text}
    (h : queue.next = (some line, queue')) : queue'.cost < queue.cost := by
  obtain ⟨hf, ht⟩ := next_frames h
  rw [cost, cost, ht]
  exact Frame.cost_next_lt hf

theorem cost_next_expand_lt {queue queue' queue'' : LineQueue} {line name : Text}
    (hn : queue.next = (some line, queue')) (he : queue'.expand name = .ok queue'') :
    queue''.cost < queue.cost := by
  obtain ⟨hf, ht⟩ := next_frames hn
  obtain ⟨ho, definition, hd, ht', hf'⟩ := expand_eq_ok he
  rw [cost, cost, hf', ht', ht]
  rw [ht] at hd
  rw [← Keyed.key_of_get? _ hd] at ho
  exact Frame.cost_next_expand_lt hf (Keyed.mem_of_get? _ hd) ho

end LineQueue

end ApiNotes
