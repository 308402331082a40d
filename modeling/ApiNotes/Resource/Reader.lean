import ApiNotes.Annotation.LineQueue
import ApiNotes.Resource.Draft

/-! # Reading a block

A block whose first tag is `@api` is read line by line into a draft. A reference splices the lines
of its definition in. A policy says what becomes of a reference that cannot be expanded.
-/

namespace ApiNotes

inductive Policy where
  /-- It is a fault. -/
  | strict
  /-- It expands to nothing and leaves a notice. -/
  | lenient
  deriving DecidableEq, Repr

/-- The notices that were left, and a result unless there was a fault. -/
structure Reading (α : Type) where
  notices : List Notice
  outcome : Except Fault α

namespace Reader

def notice (name : Text) : Unresolved → Notice
  | .undefined => .undefinedReference name
  | .recursive => .recursiveReference name

/-- The queue after a reference, or the notice that it cannot be expanded. -/
def resolve (queue : LineQueue) (name : Option Text) : Except Notice LineQueue :=
  match name with
  | none => .error .missingName
  | some name => (queue.expand name).mapError (notice name)

theorem cost_resolve_lt {queue queue' queue'' : LineQueue} {line : Text} {name : Option Text}
    (hn : queue.next = (some line, queue')) (hr : resolve queue' name = .ok queue'') :
    queue''.cost < queue.cost := by
  cases name with
  | none => cases hr
  | some name =>
    simp only [resolve] at hr
    cases he : queue'.expand name with
    | error e =>
      rw [he] at hr
      cases hr
    | ok q =>
      rw [he] at hr
      obtain rfl := Except.ok.inj hr
      exact LineQueue.cost_next_expand_lt hn he

/-- Read the lines of a queue into a draft. -/
def run (policy : Policy) (queue : LineQueue) (draft : Draft) (notices : List Notice) :
    Reading Draft :=
  match hn : queue.next with
  | (none, _) => ⟨notices, .ok draft⟩
  | (some line, queue') =>
    have := LineQueue.cost_next_lt hn
    match Entry.ofLine line with
    | .error fault => ⟨notices, .error fault⟩
    | .ok (.reference name) =>
      match hr : resolve queue' name with
      | .ok queue'' =>
        have := cost_resolve_lt hn hr
        run policy queue'' draft notices
      | .error notice =>
        match policy with
        | .strict => ⟨notices, .error notice.toFault⟩
        | .lenient => run policy queue' draft (notices ++ [notice])
    | .ok entry => run policy queue' (draft.add entry) notices
termination_by queue.cost

end Reader

/-- Read a block body into a resource; there is none unless its first tag is `@api`. -/
def readBlock (table : Definitions) (policy : Policy) (body : Text) : Reading (Option Resource) :=
  let lines := TagLine.ofBody body
  if lines.head?.map TagLine.keyword = some Tag.route.keyword then
    let reading := Reader.run policy (.ofLines table lines) {} []
    ⟨reading.notices, some <$> (reading.outcome >>= Draft.finish)⟩
  else ⟨[], .ok none⟩

end ApiNotes
