import ApiNotes.Proofs.Passes
import ApiNotes.Proofs.TagLines

/-! # Recursive inlining

Inlining replaces a reference by the inlined lines of its definition, unless the reference lacks
its name or its name is unknown or already being inlined. The queue of a block gives its lines in
the same order, so reading the block is reading what inlining makes of its lines.
-/

namespace ApiNotes

/-- What inlining leaves in the place of a line: the line, or why a reference was passed over. -/
inductive Item where
  | line (line : Text)
  | notice (notice : Notice)
  deriving DecidableEq, Repr

namespace Item

def line? : Item → Option Text
  | .line l => some l
  | .notice _ => none

def notice? : Item → Option Notice
  | .line _ => none
  | .notice n => some n

/-- A line that is a fault, so that nothing after it is read. -/
def isFatal : Item → Bool
  | .line l => !(Entry.ofLine l).isOk
  | .notice _ => false

end Item

namespace Definitions

variable {table : Definitions} {active : List Text} {definition : Definition}

/-- More than the lines that can be met one after the other before a definition is inlined. -/
def budget (table : Definitions) (active lines : List Text) : Nat :=
  table.fresh active * table.width + lines.length

theorem budget_inline_lt (hd : definition ∈ table.entries) (ha : definition.name ∉ active)
    (lines : List Text) :
    table.budget (definition.name :: active) definition.lines < table.budget active lines := by
  have hw := lines_length_lt_width hd
  have hf : (table.fresh (definition.name :: active) + 1) * table.width ≤
      table.fresh active * table.width :=
    Nat.mul_le_mul_right _ (fresh_cons_lt hd ha)
  rw [Nat.add_mul, Nat.one_mul] at hf
  simp only [budget]
  omega

theorem budget_lt_cons (table : Definitions) (active : List Text) (line : Text)
    (lines : List Text) : table.budget active lines < table.budget active (line :: lines) :=
  Nat.lt_succ_self _

end Definitions

/-- Inline the definitions that lines refer to, while the names `active` are being inlined. -/
def inline (table : Definitions) (active lines : List Text) : List Item :=
  match lines with
  | [] => []
  | line :: lines =>
    have := Definitions.budget_lt_cons table active line lines
    match TagLine.reference? line with
    | none => .line line :: inline table active lines
    | some name =>
      match h : Reference.target table active name with
      | .error notice => .notice notice :: inline table active lines
      | .ok definition =>
        have := Definitions.budget_inline_lt (Reference.target_eq_ok h).1
          (Reference.target_eq_ok h).2 (line :: lines)
        inline table (definition.name :: active) definition.lines ++ inline table active lines
termination_by table.budget active lines

section Inline

variable {table : Definitions} {active lines : List Text} {line : Text} {name : Option Text}

theorem inline_nil : inline table active [] = [] := by
  rw [inline]

theorem inline_line (h : TagLine.reference? line = none) :
    inline table active (line :: lines) = .line line :: inline table active lines := by
  rw [inline, h]

theorem inline_notice (h : TagLine.reference? line = some name) {notice : Notice}
    (ht : Reference.target table active name = .error notice) :
    inline table active (line :: lines) = .notice notice :: inline table active lines := by
  rw [inline]
  simp only [h]
  split <;> simp_all

theorem inline_definition (h : TagLine.reference? line = some name) {definition : Definition}
    (ht : Reference.target table active name = .ok definition) :
    inline table active (line :: lines) =
      inline table (definition.name :: active) definition.lines ++ inline table active lines := by
  rw [inline]
  simp only [h]
  split <;> simp_all

theorem inline_cons :
    inline table active (line :: lines) =
      inline table active [line] ++ inline table active lines := by
  cases h : TagLine.reference? line with
  | none => simp [inline_line h, inline_nil]
  | some name =>
    cases ht : Reference.target table active name with
    | error notice => simp [inline_notice h ht, inline_nil]
    | ok definition => simp [inline_definition h ht, inline_nil]

end Inline

/-- What inlining makes of the unread lines of frames, each with the names open below it. -/
def pending (table : Definitions) : List Frame → List Item
  | [] => []
  | frame :: frames =>
    inline table (Frame.openNames (frame :: frames)) frame.lines ++ pending table frames

theorem pending_of_next_eq_none {table : Definitions} {frames rest : List Frame}
    (h : Frame.next frames = (none, rest)) : pending table frames = [] := by
  fun_induction Frame.next frames with
  | case1 => rfl
  | case2 name frames ih => rw [pending, inline_nil, List.nil_append, ih h]
  | case3 => simp at h

theorem pending_of_next_eq_some {table : Definitions} {frames rest : List Frame} {line : Text}
    (h : Frame.next frames = (some line, rest)) :
    pending table frames = inline table (Frame.openNames rest) [line] ++ pending table rest := by
  fun_induction Frame.next frames with
  | case1 => simp at h
  | case2 name frames ih => rw [pending, inline_nil, List.nil_append, ih h]
  | case3 name line' lines frames =>
    obtain ⟨hl, rfl⟩ := Prod.mk.inj h
    obtain rfl := Option.some.inj hl
    have ho : Frame.openNames (⟨name, line' :: lines⟩ :: frames) =
        Frame.openNames (⟨name, lines⟩ :: frames) := rfl
    rw [pending, pending, ho, inline_cons, List.append_assoc]

def play (policy : Policy) : List Item → Draft → List Notice → Reading Draft
  | [], draft, notices => ⟨notices, .ok draft⟩
  | .line line :: items, draft, notices =>
    match Entry.ofLine line with
    | .error fault => ⟨notices, .error fault⟩
    | .ok entry => play policy items (draft.add entry) notices
  | .notice notice :: items, draft, notices =>
    match policy with
    | .strict => ⟨notices, .error notice.toFault⟩
    | .lenient => play policy items draft (notices ++ [notice])

/-- A pass of the loop reads the next item of what inlining leaves. -/
theorem play_pending_step (table : Definitions) (policy : Policy) (s : Reader.State) :
    play policy (pending table s.frames) s.draft s.notices =
      match Reader.step table policy s with
      | .inl s' => play policy (pending table s'.frames) s'.draft s'.notices
      | .inr reading => reading := by
  generalize hstep : Reader.step table policy s = next
  unfold Reader.step at hstep
  split at hstep
  · next hn =>
    subst hstep
    rw [pending_of_next_eq_none hn]
    rfl
  · next line frames hn =>
    rw [pending_of_next_eq_some hn]
    split at hstep
    · next fault he =>
      subst hstep
      have hr : TagLine.reference? line = none := Entry.reference?_eq_none_iff.2 (by simp [he])
      simp [inline_line hr, play, he]
    · next name he =>
      have hr := Entry.ofLine_eq_reference_iff.1 he
      split at hstep
      · next definition ht =>
        subst hstep
        rw [inline_definition hr ht, inline_nil, List.append_nil]
        rfl
      · next notice ht =>
        rw [inline_notice hr ht, inline_nil]
        cases policy <;> subst hstep <;> rfl
    · next entry hne he =>
      subst hstep
      have hr : TagLine.reference? line = none :=
        Entry.reference?_eq_none_iff.2 fun name h => hne name (Except.ok.inj (he.symm.trans h))
      simp [inline_line hr, inline_nil, play, he]

theorem play_pending_steps {table : Definitions} {policy : Policy} {n : Nat}
    {s s' : Reader.State} (h : Reader.Steps table policy n s s') :
    play policy (pending table s.frames) s.draft s.notices =
      play policy (pending table s'.frames) s'.draft s'.notices := by
  induction h with
  | zero => rfl
  | succ hstep _ ih => rw [play_pending_step, hstep, ← ih]

theorem run_eq_play (policy : Policy) (queue : LineQueue) (draft : Draft)
    (notices : List Notice) :
    Reader.run policy queue draft notices =
      play policy (pending queue.table queue.frames) draft notices := by
  obtain ⟨n, s, hsteps, hend⟩ := Reader.steps_run policy queue draft notices
  have hplay := play_pending_steps hsteps
  rw [play_pending_step _ _ s, hend] at hplay
  exact hplay.symm

theorem run_ofLines (policy : Policy) (table : Definitions) (lines : List Text) :
    Reader.run policy (.ofLines table lines) {} [] = play policy (inline table [] lines) {} [] := by
  rw [run_eq_play]
  simp [LineQueue.ofLines, pending, Frame.openNames]

namespace Item

def lines (items : List Item) : List Text := items.filterMap line?

/-- The notices that stand before the first line that is a fault. -/
def noticesMet (items : List Item) : List Notice :=
  (items.takeWhile fun item => !item.isFatal).filterMap notice?

@[simp] theorem lines_line (l : Text) (items : List Item) :
    lines (.line l :: items) = l :: lines items := rfl

@[simp] theorem lines_append (items items' : List Item) :
    lines (items ++ items') = lines items ++ lines items' := List.filterMap_append

@[simp] theorem noticesMet_notice (n : Notice) (items : List Item) :
    noticesMet (.notice n :: items) = n :: noticesMet items := rfl

theorem noticesMet_of_error {l : Text} {fault : Fault} (h : Entry.ofLine l = .error fault)
    (items : List Item) : noticesMet (.line l :: items) = [] := by
  have hf : isFatal (.line l) = true := by simp [isFatal, h, Except.isOk, Except.toBool]
  simp [noticesMet, hf]

theorem noticesMet_of_ok {l : Text} {entry : Entry} (h : Entry.ofLine l = .ok entry)
    (items : List Item) : noticesMet (.line l :: items) = noticesMet items := by
  have hf : isFatal (.line l) = false := by simp [isFatal, h, Except.isOk, Except.toBool]
  simp [noticesMet, hf, List.filterMap_cons, notice?]

end Item

theorem play_lenient_notices (items : List Item) (draft : Draft) (notices : List Notice) :
    (play .lenient items draft notices).notices = notices ++ Item.noticesMet items := by
  induction items generalizing draft notices with
  | nil => simp [play, Item.noticesMet]
  | cons item items ih =>
    cases item with
    | notice n => simp [play, ih]
    | line l =>
      cases he : Entry.ofLine l with
      | error fault => simp [play, he, Item.noticesMet_of_error he]
      | ok entry => simp [play, he, ih, Item.noticesMet_of_ok he]

theorem play_lenient_outcome (policy : Policy) (items : List Item) (draft : Draft)
    (notices notices' : List Notice) :
    (play .lenient items draft notices).outcome =
      (play policy ((Item.lines items).map .line) draft notices').outcome := by
  induction items generalizing draft notices with
  | nil => rfl
  | cons item items ih =>
    cases item with
    | notice n => exact ih draft _
    | line l =>
      cases he : Entry.ofLine l with
      | error fault => simp [play, he]
      | ok entry => simpa [play, he] using ih _ _

theorem mem_lines_inline {table : Definitions} {active lines : List Text} {l : Text}
    (h : l ∈ Item.lines (inline table active lines)) :
    TagLine.reference? l = none ∧
      (l ∈ lines ∨ ∃ definition ∈ table.entries, l ∈ definition.lines) := by
  fun_induction inline table active lines with
  | case1 => cases h
  | case2 active line lines _ hr ih =>
    rcases List.mem_cons.1 h with rfl | h
    · exact ⟨hr, Or.inl List.mem_cons_self⟩
    · exact ⟨(ih h).1, (ih h).2.imp_left (List.mem_cons_of_mem _)⟩
  | case3 active line lines _ name _ notice _ ih =>
    exact ⟨(ih h).1, (ih h).2.imp_left (List.mem_cons_of_mem _)⟩
  | case4 active line lines _ name _ definition ht _ ih ih' =>
    rw [Item.lines_append, List.mem_append] at h
    rcases h with h | h
    · refine ⟨(ih h).1, Or.inr ?_⟩
      rcases (ih h).2 with hl | hl
      · exact ⟨definition, (Reference.target_eq_ok ht).1, hl⟩
      · exact hl
    · exact ⟨(ih' h).1, (ih' h).2.imp_left (List.mem_cons_of_mem _)⟩

theorem inline_of_no_reference {table : Definitions} {active lines : List Text}
    (h : ∀ l ∈ lines, TagLine.reference? l = none) :
    inline table active lines = lines.map .line := by
  induction lines with
  | nil => exact inline_nil
  | cons line lines ih =>
    rw [List.forall_mem_cons] at h
    rw [inline_line h.1, ih h.2, List.map_cons]

theorem head?_lines_inline {table : Definitions} {active lines : List Text} {tag : Tag}
    (htag : tag ≠ .use) (h : lines.head?.map TagLine.keyword = some tag.keyword) :
    (Item.lines (inline table active lines)).head? = lines.head? := by
  cases lines with
  | nil => cases h
  | cons line lines =>
    have hk : TagLine.keyword line = tag.keyword := Option.some.inj h
    have hr : TagLine.reference? line = none := by
      have hne : tag.keyword ≠ Tag.use.keyword := fun he => htag <| Option.some.inj <|
        (Tag.ofKeyword?_keyword tag).symm.trans (he ▸ Tag.ofKeyword?_keyword .use)
      simp [TagLine.reference?, hk, hne]
    simp [inline_line hr]

namespace Definitions

theorem mem_foldl_insert {table : Definitions} {ds : List Definition} {definition : Definition}
    (h : definition ∈ (ds.foldl insert table).entries) :
    definition ∈ table.entries ∨ definition ∈ ds := by
  induction ds generalizing table with
  | nil => exact Or.inl h
  | cons d ds ih =>
    rcases ih h with h | h
    · rcases Keyed.mem_put _ h with rfl | h
      · exact Or.inr List.mem_cons_self
      · exact Or.inl h
    · exact Or.inr (List.mem_cons_of_mem _ h)

theorem exists_ofBody?_of_mem_ofBodies {bodies : List Text} {definition : Definition}
    (h : definition ∈ (ofBodies bodies).entries) :
    ∃ source, Definition.ofBody? source = some definition := by
  rcases mem_foldl_insert h with h | h
  · cases h
  · obtain ⟨source, -, hs⟩ := List.mem_filterMap.1 h
    exact ⟨source, hs⟩

end Definitions

/-- The body that joins the lines which inlining keeps. -/
def inlinedBody (table : Definitions) (body : Text) : Text :=
  Text.join ['\n'] (Item.lines (inline table [] (TagLine.ofBody body)))

theorem ofBody_inlinedBody {table : Definitions}
    (hparsed : ∀ definition ∈ table.entries, ∃ source, Definition.ofBody? source = some definition)
    (body : Text) :
    TagLine.ofBody (inlinedBody table body) =
      Item.lines (inline table [] (TagLine.ofBody body)) := by
  apply TagLine.ofBody_join
  intro l hl
  rcases (mem_lines_inline hl).2 with hl | ⟨definition, hd, hl⟩
  · exact TagLine.isTagLine_of_mem_ofBody hl
  · obtain ⟨source, hs⟩ := hparsed definition hd
    exact Definition.isTagLine_of_ofBody? hs hl

theorem readBlock_of_route {table : Definitions} {policy : Policy} {body : Text}
    (h : (TagLine.ofBody body).head?.map TagLine.keyword = some Tag.route.keyword) :
    readBlock table policy body =
      let reading := play policy (inline table [] (TagLine.ofBody body)) {} []
      ⟨reading.notices, some <$> (reading.outcome >>= Draft.finish)⟩ := by
  simp only [readBlock, h, ↓reduceIte, run_ofLines]

/-- Reading a block is reading its inlined body, in which nothing is left to expand. -/
theorem readBlock_lenient_eq_inlinedBody (table : Definitions) (body : Text) (policy : Policy)
    (hparsed : ∀ definition ∈ table.entries, ∃ source, Definition.ofBody? source = some definition)
    (hroute : (TagLine.ofBody body).head?.map TagLine.keyword = some Tag.route.keyword) :
    (readBlock table .lenient body).outcome =
        (readBlock .empty policy (inlinedBody table body)).outcome ∧
      (readBlock table .lenient body).notices =
        Item.noticesMet (inline table [] (TagLine.ofBody body)) ∧
      ∀ line ∈ TagLine.ofBody (inlinedBody table body), TagLine.keyword line ≠ Tag.use.keyword := by
  have hb := ofBody_inlinedBody hparsed body
  have hno : ∀ l ∈ Item.lines (inline table [] (TagLine.ofBody body)),
      TagLine.reference? l = none := fun l hl => (mem_lines_inline hl).1
  have hroute' : (TagLine.ofBody (inlinedBody table body)).head?.map TagLine.keyword =
      some Tag.route.keyword := by
    rwa [hb, head?_lines_inline (by decide) hroute]
  refine ⟨?_, ?_, ?_⟩
  · rw [readBlock_of_route hroute, readBlock_of_route hroute', hb, inline_of_no_reference hno]
    simp only [play_lenient_outcome policy _ _ _ []]
  · rw [readBlock_of_route hroute]
    exact play_lenient_notices _ _ []
  · rw [hb]
    intro l hl hk
    have := hno l hl
    simp [TagLine.reference?, hk] at this

theorem readBlock_lenient_eq_inlinedBody_of_cycle :
    let table := Definitions.ofBodies
      ["@apiDefine A\n@apiUse B\n@apiGroup G".toList, "@apiDefine B\n@apiParam x\n@apiUse A".toList]
    let body := "@api \x7bget\x7d /x X\n@apiUse A\n@apiUse C\n@apiUse B\n@apiVersion 1".toList
    let flat := ("@api \x7bget\x7d /x X\n@apiParam x\n@apiGroup G\n" ++
      "@apiParam x\n@apiGroup G\n@apiVersion 1").toList
    (TagLine.ofBody body).head?.map TagLine.keyword = some Tag.route.keyword ∧
      (readBlock table .lenient body).outcome = (readBlock .empty .strict flat).outcome ∧
      (readBlock table .lenient body).notices =
        [.recursiveReference ['A'], .undefinedReference ['C'], .recursiveReference ['B']] := by
  intro table body flat
  have hroute : (TagLine.ofBody body).head?.map TagLine.keyword = some Tag.route.keyword := by
    decide +kernel
  have h := readBlock_lenient_eq_inlinedBody table body .strict
    (fun _ => Definitions.exists_ofBody?_of_mem_ofBodies) hroute
  have hflat : inlinedBody table body = flat := by decide +kernel
  refine ⟨hroute, ?_, h.2.1.trans ?_⟩
  · rw [← hflat]
    exact h.1
  · decide +kernel

end ApiNotes
