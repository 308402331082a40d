import ApiNotes.Document.Markdown
import ApiNotes.Proofs.Canonical
import ApiNotes.Proofs.TagFamilies

/-! # Descriptions

An empty line between two texts separates their paragraphs, so the paragraphs of joined texts are
those of each text in turn. A description collects the paragraphs of its texts in just this way, and
each paragraph that a document prints before an empty line is read as one again.
-/

namespace ApiNotes

namespace Text

variable {s d : Text} {ps : List Text}

def paragraphList (s : Text) : List Text := (runs ((split '\n' s).map trim)).map (join [' '])

theorem paragraphs_eq_join (s : Text) : paragraphs s = join ['\n'] (paragraphList s) := rfl

section Runs

theorem consRun_append (run : List Text) (rs rs' : List (List Text)) :
    consRun run (rs ++ rs') = consRun run rs ++ rs' := by
  unfold consRun
  split <;> rfl

theorem cutRuns_append_nil_cons (ls ls' : List Text) :
    cutRuns (ls ++ [] :: ls') = ((cutRuns ls).1, (cutRuns ls).2 ++ runs ls') := by
  induction ls with
  | nil => rfl
  | cons l ls ih =>
    simp only [List.cons_append, cutRuns, ih]
    split
    · rw [consRun_append]
    · rfl

theorem runs_append_nil_cons (ls ls' : List Text) :
    runs (ls ++ [] :: ls') = runs ls ++ runs ls' := by
  rw [runs, cutRuns_append_nil_cons, consRun_append]
  rfl

end Runs

theorem paragraphList_append (s t : Text) :
    paragraphList (s ++ ['\n', '\n'] ++ t) = paragraphList s ++ paragraphList t := by
  have hlines : split '\n' (s ++ ['\n', '\n'] ++ t) = split '\n' s ++ [] :: split '\n' t := by
    rw [List.append_assoc]
    exact split_append '\n' s ('\n' :: t)
  simp only [paragraphList, hlines, List.map_append, List.map_cons]
  rw [show trim [] = [] from rfl, runs_append_nil_cons, List.map_append]

theorem paragraphList_join (texts : List Text) :
    paragraphList (join ['\n', '\n'] texts) = texts.flatMap paragraphList := by
  induction texts with
  | nil => rfl
  | cons t texts ih =>
    cases texts with
    | nil => simp [join]
    | cons t' texts =>
      rw [join_cons_cons, paragraphList_append, ih]
      rfl

theorem paragraphList_of_isLine (hne : s ≠ []) (h : IsLine s) : paragraphList s = [s] := by
  rw [paragraphList, split_of_not_mem h.newline_not_mem, List.map_singleton,
    trim_eq_self h.toTrimmed]
  simp [runs, cutRuns, consRun, hne, join]

theorem replace_join (h : ∀ p ∈ ps, '\n' ∉ p) (new : Text) :
    replace '\n' new (join ['\n'] ps) = join new ps := by
  induction ps with
  | nil => rfl
  | cons p ps ih =>
    rw [List.forall_mem_cons] at h
    cases ps with
    | nil => simpa [join] using replace_of_not_mem h.1 new
    | cons p' ps =>
      rw [join_cons_cons, join_cons_cons, replace_append, replace_append, ih h.2,
        replace_of_not_mem h.1]
      simp [replace]

/-- Paragraphs with an empty line between them are read as they were. -/
theorem paragraphs_replace_newline (h : IsParagraphs d) :
    paragraphs (replace '\n' ['\n', '\n'] d) = d := by
  obtain ⟨ps, -, hps, rfl⟩ := h
  have hlines : ps.flatMap paragraphList = ps := by
    calc ps.flatMap paragraphList = ps.flatMap fun p => [p] :=
          List.flatMap_congr fun p hp => paragraphList_of_isLine (hps p hp).1 (hps p hp).2
      _ = ps := List.flatMap_singleton' ps
  rw [replace_join fun p hp => (hps p hp).2.newline_not_mem, paragraphs_eq_join,
    paragraphList_join, hlines]

end Text

open Text TagLine

namespace Draft

theorem describe_join {ps qs : List Text} (hp : ∀ p ∈ ps, p ≠ []) (hq : ∀ q ∈ qs, q ≠ []) :
    describe (join ['\n'] ps).nonEmpty? (join ['\n'] qs) = (join ['\n'] (ps ++ qs)).nonEmpty? := by
  cases qs with
  | nil =>
    rw [List.append_nil]
    rfl
  | cons q qs =>
    have hjoin := join_ne_nil ['\n'] (List.cons_ne_nil q qs) hq
    unfold describe
    rw [if_neg (by simpa using hjoin)]
    cases ps with
    | nil => exact (nonEmpty?_eq_some_iff.2 ⟨rfl, hjoin⟩).symm
    | cons p ps =>
      have hsome := nonEmpty?_eq_some_iff.2 ⟨rfl, join_ne_nil ['\n'] (List.cons_ne_nil p ps) hp⟩
      rw [hsome, join_append _ (List.cons_ne_nil _ _) (List.cons_ne_nil _ _)]
      simp [nonEmpty?]

/-- What is described text by text is described by the joined texts at once. -/
theorem foldl_describe_paragraphs (texts : List Text) :
    (texts.map paragraphs).foldl describe none =
      (paragraphs (join ['\n', '\n'] texts)).nonEmpty? := by
  rw [paragraphs_eq_join, paragraphList_join]
  induction texts using List.reverseRecOn with
  | nil => rfl
  | append_singleton texts t ih =>
    rw [List.map_append, List.map_singleton, List.foldl_concat, ih, List.flatMap_append,
      List.flatMap_singleton, paragraphs_eq_join]
    refine describe_join (fun p hp => ?_) fun p hp => (isLine_paragraph hp).1
    obtain ⟨t', -, hp⟩ := List.mem_flatMap.1 hp
    exact (isLine_paragraph hp).1

theorem description_of_finish {draft : Draft} {r : Resource} (h : draft.finish = .ok r) :
    r.description = draft.description := by
  unfold finish at h
  split at h
  · cases h
  · obtain rfl := Except.ok.inj h
    rfl

end Draft

/-- The description has the paragraphs of the joined texts, and is absent if there are none. What a
document prints of it is read as the same paragraphs. -/
structure Resource.DescribedBy (texts : List Text) (r : Resource) : Prop where
  description : r.description = (paragraphs (join ['\n', '\n'] texts)).nonEmpty?
  printed : ∀ d, r.description = some d →
    Markdown.description r = [replace '\n' ['\n', '\n'] d, []] ∧
      paragraphs (replace '\n' ['\n', '\n'] d) = d

theorem Resource.describedBy_of_eq {texts : List Text} {r : Resource}
    (h : r.description = (texts.map paragraphs).foldl Draft.describe none) :
    r.DescribedBy texts := by
  rw [Draft.foldl_describe_paragraphs] at h
  refine ⟨h, fun d hd => ⟨by simp [Markdown.description, hd], paragraphs_replace_newline ?_⟩⟩
  obtain ⟨rfl, hne⟩ := nonEmpty?_eq_some_iff.1 (h.symm.trans hd)
  exact isParagraphs_paragraphs hne

/-- Description texts are collected as if they were one text with empty lines between its parts, in
a draft as well as in a block. -/
theorem readBlock_description (table : Definitions) (policy : Policy) (body : Text) :
    (∀ (route : Route) (texts : List Text), ∃ r,
      ((Entry.route route :: texts.map fun t => .description (paragraphs t)).foldl
        Draft.add {}).finish = .ok r ∧ r.DescribedBy texts) ∧
    ∀ r, (readBlock table policy body).outcome = .ok (some r) →
      r.DescribedBy (textsOf .description (Item.lines (inline table [] (ofBody body)))) := by
  constructor
  · intro route texts
    rw [Draft.foldl_add]
    obtain ⟨r, hr⟩ := Draft.exists_finish_of_route
      (List.mem_cons_self : .route route ∈ Entry.route route :: _)
    refine ⟨r, hr, Resource.describedBy_of_eq ?_⟩
    have hpick : (Entry.route route :: texts.map fun t => .description (paragraphs t)).filterMap
        Entry.description? = texts.map paragraphs := by
      rw [List.filterMap_cons_none rfl, List.filterMap_map]
      exact congrFun List.filterMap_eq_map texts
    rw [Draft.description_of_finish hr]
    exact congrArg (List.foldl Draft.describe none) hpick
  · intro r h
    apply Resource.describedBy_of_eq
    rw [textsOf, List.map_map]
    exact (Resource.assembledFrom_of_readBlock h).description

/-- Two texts with a blank one between them, and one of a definition with other line endings. -/
theorem readBlock_description_of_definition :
    let table := Definitions.ofBodies
      ["@apiDefine Note\n@apiDescription third\r\n \r\n\r\nfourth".toList]
    let body := ("@api \x7bget\x7d /x X\n@apiDescription First\n  line\n\nsecond\n" ++
      "@apiDescription \n@apiGroup G\n@apiUse Note").toList
    let texts := ["First\n  line\n\nsecond".toList, [], "third\n \n\nfourth".toList]
    let printed := "First line\n\nsecond\n\nthird\n\nfourth".toList
    ∃ r, (readBlock table .strict body).outcome = .ok (some r) ∧
      r.description = some "First line\nsecond\nthird\nfourth".toList ∧ r.DescribedBy texts ∧
      Markdown.description r = [printed, []] ∧
      paragraphs printed = "First line\nsecond\nthird\nfourth".toList := by
  intro table body texts printed
  obtain ⟨r, hr, hdescription⟩ : ∃ r, (readBlock table .strict body).outcome = .ok (some r) ∧
      r.description = some "First line\nsecond\nthird\nfourth".toList :=
    exists_eq_ok_some (by decide +kernel)
  have htexts : textsOf .description (Item.lines (inline table [] (ofBody body))) = texts := by
    decide +kernel
  have h := (readBlock_description table .strict body).2 r hr
  rw [htexts] at h
  exact ⟨r, hr, hdescription, h, h.printed _ hdescription⟩

end ApiNotes
