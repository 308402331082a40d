import ApiNotes.Text.Lines

/-! # Blocks

Annotations stand in blocks between two equal delimiters, three double or three single quotes.
The next block opens at the earliest delimiter that occurs again after it and closes at the first
such occurrence, so a delimiter that is never closed opens nothing.
-/

namespace ApiNotes.Block

def delimiter (q : Char) : Text := [q, q, q]

/-- The text before the first delimiter of `q`, and the text after that delimiter. -/
def close? (q : Char) : Text → Option (Text × Text)
  | [] => none
  | c :: s =>
    match Text.after? (delimiter q) (c :: s) with
    | some rest => some ([], rest)
    | none => (close? q s).map fun (body, rest) => (c :: body, rest)

def here? (q : Char) (s : Text) : Option (Text × Text) :=
  (Text.after? (delimiter q) s).bind (close? q)

/-- The body of a block that opens right here, with either quote. -/
def at? (s : Text) : Option (Text × Text) := (here? '"' s).or (here? '\'' s)

theorem after?_length {lead s rest : Text} (h : Text.after? lead s = some rest) :
    rest.length + lead.length = s.length := by
  induction lead generalizing s with
  | nil => simp_all [Text.after?]
  | cons c lead ih =>
    cases s with
    | nil => simp [Text.after?] at h
    | cons d s =>
      simp only [Text.after?] at h
      split at h
      · have := ih h
        simp only [List.length_cons]
        omega
      · simp at h

theorem close?_length {q : Char} {s body rest : Text} (h : close? q s = some (body, rest)) :
    rest.length < s.length := by
  induction s generalizing body with
  | nil => simp [close?] at h
  | cons c s ih =>
    simp only [close?] at h
    split at h
    · next r hr =>
      have := after?_length hr
      simp only [Option.some.injEq, Prod.mk.injEq] at h
      simp only [delimiter, List.length_cons, List.length_nil] at this
      simp only [List.length_cons]
      grind
    · simp only [Option.map_eq_some_iff, Prod.exists, Prod.mk.injEq] at h
      obtain ⟨b, r, hb, _, rfl⟩ := h
      have := ih hb
      simp only [List.length_cons]
      omega

theorem here?_length {q : Char} {s body rest : Text} (h : here? q s = some (body, rest)) :
    rest.length < s.length := by
  obtain ⟨r, hr, hc⟩ := Option.bind_eq_some_iff.1 h
  have := after?_length hr
  have := close?_length hc
  omega

theorem at?_length {s body rest : Text} (h : at? s = some (body, rest)) :
    rest.length < s.length := by
  rcases Option.or_eq_some_iff.1 h with h | ⟨_, h⟩ <;> exact here?_length h

def rawBodies (s : Text) : List Text :=
  match s with
  | [] => []
  | c :: s =>
    match h : at? (c :: s) with
    | some (body, rest) =>
      have : rest.length < (c :: s).length := at?_length h
      body :: rawBodies rest
    | none => rawBodies s
termination_by s.length
decreasing_by
  · assumption
  · exact Nat.lt_succ_self _

/-- The bodies of all blocks, without their margin and without blanks at the ends. -/
def bodies (s : Text) : List Text := (rawBodies s).map fun body => (Text.dedent body).trim

end ApiNotes.Block
