import ApiNotes.Resource.Draft

/-! # What a tag line says

The keyword of a line decides which tag reads it. A line is an entry of its own tag or a fault
that names this tag and the part it lacks; only `@apiUse` makes it a reference.
-/

namespace ApiNotes

section Except

variable {ε α β : Type}

theorem map_eq_ok_iff {x : Except ε α} {f : α → β} {b : β} :
    f <$> x = .ok b ↔ ∃ a, x = .ok a ∧ f a = b := by
  cases x <;> simp [Functor.map, Except.map]

theorem map_eq_error_iff {x : Except ε α} {f : α → β} {e : ε} :
    f <$> x = .error e ↔ x = .error e := by
  cases x <;> simp [Functor.map, Except.map]

theorem bind_eq_ok_iff {x : Except ε α} {f : α → Except ε β} {b : β} :
    x >>= f = .ok b ↔ ∃ a, x = .ok a ∧ f a = .ok b := by
  cases x <;> simp [bind, Except.bind]

theorem bind_eq_error_iff {x : Except ε α} {f : α → Except ε β} {e : ε} :
    x >>= f = .error e ↔ x = .error e ∨ ∃ a, x = .ok a ∧ f a = .error e := by
  cases x <;> simp [bind, Except.bind]

theorem exists_eq_ok_of_isOk {x : Except ε α} (h : x.isOk = true) : ∃ a, x = .ok a := by
  cases x with
  | error e => cases h
  | ok a => exact ⟨a, rfl⟩

/-- A result that an evaluated view of a reading shows. -/
theorem exists_eq_ok_some {x : Except ε (Option α)} {f : α → β} {b : β}
    (h : x.toOption.bind (Option.map f) = some b) : ∃ a, x = .ok (some a) ∧ f a = b := by
  cases x with
  | error e => cases h
  | ok found =>
    obtain ⟨a, rfl, ha⟩ := Option.map_eq_some_iff.1 h
    exact ⟨a, rfl, ha⟩

end Except

namespace Tag

theorem ofKeyword?_keyword (tag : Tag) : ofKeyword? tag.keyword = some tag := by
  cases tag with
  | param kind => cases kind <;> decide
  | _ => decide

theorem keyword_eq_of_ofKeyword? {keyword : Text} {tag : Tag}
    (h : ofKeyword? keyword = some tag) : tag.keyword = keyword := by
  simpa using List.find?_some h

end Tag

/-- The name that a reference gives, which may be missing, if the line is a reference. -/
def TagLine.reference? (line : Text) : Option (Option Text) :=
  if TagLine.keyword line = Tag.use.keyword then
    some ((Fields.ofText .word (TagLine.content line)).name.map Token.value)
  else none

namespace Entry

theorem eq_use_of_ofTag_eq_reference {tag : Tag} {content : Text} {name : Option Text}
    (h : ofTag tag content = .ok (.reference name)) : tag = .use := by
  cases tag with
  | use => rfl
  | route | param | success | error =>
    obtain ⟨_, _, h⟩ := map_eq_ok_iff.1 h
    cases h
  | _ => cases h

theorem ofLine_eq_reference_iff {line : Text} {name : Option Text} :
    ofLine line = .ok (.reference name) ↔ TagLine.reference? line = some name := by
  constructor
  · intro h
    unfold ofLine at h
    split at h
    · next tag ht =>
      obtain rfl := eq_use_of_ofTag_eq_reference h
      have hk := Tag.keyword_eq_of_ofKeyword? ht
      simpa [TagLine.reference?, ← hk, ofTag] using h
    · simp at h
  · intro h
    unfold TagLine.reference? at h
    split at h
    · next hk =>
      obtain rfl := Option.some.inj h
      simp [ofLine, hk, Tag.ofKeyword?_keyword, ofTag]
    · cases h

theorem reference?_eq_none_iff {line : Text} :
    TagLine.reference? line = none ↔ ∀ name, ofLine line ≠ .ok (.reference name) := by
  simp only [ne_eq, ofLine_eq_reference_iff, Option.eq_none_iff_forall_ne_some]

/-- A reading whose only faults are that parts of the tag are missing. -/
def Lacks {α : Type} (tag : Tag) (x : Except Fault α) : Prop :=
  ∀ fault, x = .error fault → ∃ piece, fault = .missing tag.keyword piece

theorem lacks_ok {α : Type} (tag : Tag) (a : α) : Lacks tag (.ok a) := by
  intro fault h
  cases h

theorem Lacks.map {α β : Type} {tag : Tag} {x : Except Fault α} (h : Lacks tag x) (f : α → β) :
    Lacks tag (f <$> x) :=
  fun fault hf => h fault (map_eq_error_iff.1 hf)

theorem lacks_require_bind {α : Type} {tag : Tag} {piece : Piece} {value : Option Text}
    {f : Text → Except Fault α} (h : ∀ s, Lacks tag (f s)) :
    Lacks tag (require tag piece value >>= f) := by
  intro fault hf
  cases value with
  | none => exact ⟨piece, (Except.error.inj hf).symm⟩
  | some s => exact h s fault hf

theorem lacks_readRoute (content : Text) : Lacks .route (readRoute content) :=
  lacks_require_bind fun _ => lacks_require_bind fun _ => lacks_ok _ _

theorem lacks_readParam (kind : ParamKind) (content : Text) :
    Lacks (.param kind) (readParam kind content) :=
  lacks_require_bind fun _ => lacks_require_bind fun _ => lacks_ok _ _

theorem lacks_readSuccess (content : Text) : Lacks .success (readSuccess content) :=
  lacks_require_bind fun _ => lacks_ok _ _

theorem lacks_readError (content : Text) : Lacks .error (readError content) :=
  lacks_require_bind fun _ => lacks_ok _ _

theorem lacks_ofTag (tag : Tag) (content : Text) : Lacks tag (ofTag tag content) := by
  cases tag with
  | route => exact (lacks_readRoute content).map _
  | param kind => exact (lacks_readParam kind content).map _
  | success => exact (lacks_readSuccess content).map _
  | error => exact (lacks_readError content).map _
  | _ => exact lacks_ok _ _

theorem ofLine_eq_error {line : Text} {fault : Fault} (h : ofLine line = .error fault) :
    ∃ piece, fault = .missing (TagLine.keyword line) piece := by
  unfold ofLine at h
  split at h
  · next tag ht =>
    rw [← Tag.keyword_eq_of_ofKeyword? ht]
    exact lacks_ofTag tag _ fault h
  · cases h

end Entry

end ApiNotes
