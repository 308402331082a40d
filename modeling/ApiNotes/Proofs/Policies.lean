import ApiNotes.Proofs.Survey

/-! # Strict and lenient reading

The two policies read the same lines until a reference cannot be expanded. A strict reading is the
lenient one with its first notice taken as the fault, for a block and for a whole corpus.
-/

namespace ApiNotes

/-- The outcome of a reading when its first notice, if any, counts as a fault. -/
def Reading.strictly {α : Type} (reading : Reading α) : Except Fault α :=
  match reading.notices with
  | [] => reading.outcome
  | notice :: _ => .error notice.toFault

theorem play_strict (items : List Item) (draft : Draft) :
    play .strict items draft [] = ⟨[], (play .lenient items draft []).strictly⟩ := by
  induction items generalizing draft with
  | nil => rfl
  | cons item items ih =>
    cases item with
    | line l =>
      cases he : Entry.ofLine l with
      | error fault => simp [play, he, Reading.strictly]
      | ok entry => simpa [play, he] using ih _
    | notice n => simp [play, Reading.strictly, play_lenient_notices]

theorem readBlock_strict (table : Definitions) (body : Text) :
    readBlock table .strict body = ⟨[], (readBlock table .lenient body).strictly⟩ := by
  by_cases hroute : (TagLine.ofBody body).head?.map TagLine.keyword = some Tag.route.keyword
  · rw [readBlock_of_route hroute, readBlock_of_route hroute]
    simp only [play_strict, Reading.strictly]
    split <;> rfl
  · simp [readBlock, hroute, Reading.strictly]

namespace Corpus

variable {table : Definitions}

theorem warnings_strict (table : Definitions) (block : Block.Located) :
    warnings table .strict block = [] := by
  simp [warnings, readBlock_strict]

theorem reads_strict_iff {block : Block.Located} :
    Reads table .strict block ↔
      Reads table .lenient block ∧ warnings table .lenient block = [] := by
  simp only [Reads, warnings, readBlock_strict, Reading.strictly]
  split
  · next h => simp [h]
  · next h => simp [h]

theorem resource?_strict {block : Block.Located} (h : Reads table .strict block) :
    resource? table .strict block = resource? table .lenient block := by
  have hw := (reads_strict_iff.1 h).2
  simp only [warnings, List.map_eq_nil_iff] at hw
  simp [resource?, readBlock_strict, Reading.strictly, hw]

theorem strict_fault_cases {block : Block.Located} {fault : Fault}
    (h : (readBlock table .strict block.body).outcome = .error fault) :
    (readBlock table .lenient block.body).outcome = .error fault ∨
      ∃ notice rest, warnings table .lenient block =
        ⟨block.source, block.number, notice⟩ :: rest ∧ fault = notice.toFault := by
  simp only [readBlock_strict, Reading.strictly] at h
  split at h
  · exact Or.inl h
  · next notice rest hn =>
    exact Or.inr ⟨notice, rest.map (Warning.mk block.source block.number), by simp [warnings, hn],
      (Except.error.inj h).symm⟩

variable {blocks : List Block.Located} {position position' : Nat} {block block' : Block.Located}
  {fault fault' : Fault}

theorem surveyBlocks_strict_of_reads (h : ∀ b ∈ blocks, Reads table .strict b) :
    surveyBlocks table .strict blocks [] .empty = surveyBlocks table .lenient blocks [] .empty ∧
      (surveyBlocks table .lenient blocks [] .empty).warnings = [] := by
  have hl : ∀ b ∈ blocks, Reads table .lenient b := fun b hb => (reads_strict_iff.1 (h b hb)).1
  have hw : blocks.flatMap (warnings table .lenient) = [] :=
    List.flatMap_eq_nil_iff.2 fun b hb => (reads_strict_iff.1 (h b hb)).2
  have hr : blocks.filterMap (resource? table .strict) =
      blocks.filterMap (resource? table .lenient) :=
    List.filterMap_congr fun b hb => resource?_strict (h b hb)
  rw [surveyBlocks_of_reads h, surveyBlocks_of_reads hl, hr, hw]
  simp [warnings_strict]

theorem FirstFault.strict_le (hs : FirstFault table .strict blocks position' block' fault')
    (hl : FirstFault table .lenient blocks position block fault) : position' ≤ position := by
  by_contra hlt
  have hmem : block ∈ blocks.take position' :=
    List.mem_of_getElem? ((List.getElem?_take_of_lt (by omega)).trans hl.here)
  exact (reads_strict_iff.1 (hs.earlier block hmem)).1.not_error fault hl.fails

theorem FirstFault.strict_eq_first_warning
    (hs : FirstFault table .strict blocks position block fault)
    (hl : ∀ b ∈ blocks, Reads table .lenient b) :
    ∃ notice rest, blocks.flatMap (warnings table .lenient) =
      ⟨block.source, block.number, notice⟩ :: rest ∧ fault = notice.toFault := by
  have hbefore : (blocks.take position).flatMap (warnings table .lenient) = [] :=
    List.flatMap_eq_nil_iff.2 fun b hb => (reads_strict_iff.1 (hs.earlier b hb)).2
  rcases strict_fault_cases hs.fails with h | ⟨notice, rest, hw, rfl⟩
  · exact absurd h ((hl block (List.mem_of_getElem? hs.here)).not_error fault)
  · refine ⟨notice, rest ++ (blocks.drop (position + 1)).flatMap (warnings table .lenient), ?_, rfl⟩
    conv_lhs => rw [hs.split]
    rw [List.flatMap_append, hbefore, List.flatMap_cons, hw]
    rfl

theorem surveyBlocks_strict_eq_ok_iff {editions : Editions} :
    (surveyBlocks table .strict blocks [] .empty).outcome = .ok editions ↔
      (surveyBlocks table .lenient blocks [] .empty).outcome = .ok editions ∧
        (surveyBlocks table .lenient blocks [] .empty).warnings = [] := by
  constructor
  · intro h
    obtain ⟨he, hw⟩ := surveyBlocks_strict_of_reads (reads_of_surveyBlocks_eq_ok h)
    exact ⟨he ▸ h, hw⟩
  · rintro ⟨h, hw⟩
    have hl := reads_of_surveyBlocks_eq_ok h
    rw [surveyBlocks_of_reads hl, List.flatMap_eq_nil_iff] at hw
    have hs : ∀ b ∈ blocks, Reads table .strict b :=
      fun b hb => reads_strict_iff.2 ⟨hl b hb, hw b hb⟩
    rwa [(surveyBlocks_strict_of_reads hs).1]

theorem surveyBlocks_strict_of_warning {editions : Editions} {warning : Warning}
    {rest : List Warning}
    (h : (surveyBlocks table .lenient blocks [] .empty).outcome = .ok editions)
    (hw : (surveyBlocks table .lenient blocks [] .empty).warnings = warning :: rest) :
    (surveyBlocks table .strict blocks [] .empty).outcome =
      .error (.located warning.source warning.block warning.notice.toFault) := by
  have hl := reads_of_surveyBlocks_eq_ok h
  rcases reads_or_firstFault table .strict blocks with hr | ⟨position, block, fault, hs⟩
  · rw [(surveyBlocks_strict_of_reads hr).2] at hw
    cases hw
  · obtain ⟨notice, rest', hf, rfl⟩ := hs.strict_eq_first_warning hl
    rw [surveyBlocks_of_reads hl, hf] at hw
    obtain ⟨rfl, -⟩ := List.cons.inj hw
    rw [hs.surveyBlocks_eq]

theorem FirstFault.exists_strict (hl : FirstFault table .lenient blocks position block fault) :
    ∃ position' block' fault', FirstFault table .strict blocks position' block' fault' ∧
      position' ≤ position := by
  rcases reads_or_firstFault table .strict blocks with hr | ⟨position', block', fault', hs⟩
  · have hb := reads_strict_iff.1 (hr block (List.mem_of_getElem? hl.here))
    exact absurd hl.fails (hb.1.not_error fault)
  · exact ⟨position', block', fault', hs, hs.strict_le hl⟩

/-- The policies agree up to the first reference that cannot be expanded, which is a warning to
one and the fault to the other. -/
theorem surveyBlocks_strict_lenient (table : Definitions) (corpus : Corpus) :
    let strict := surveyBlocks table .strict corpus.blocks [] .empty
    let lenient := surveyBlocks table .lenient corpus.blocks [] .empty
    (∀ editions, strict.outcome = .ok editions ↔
        lenient.outcome = .ok editions ∧ lenient.warnings = []) ∧
      (∀ editions warning rest,
        lenient.outcome = .ok editions → lenient.warnings = warning :: rest →
          strict.outcome = .error (.located warning.source warning.block
            (match warning.notice with
              | .undefinedReference name => .undefinedReference name
              | .recursiveReference name => .recursiveReference name
              | .missingName => .missing "@apiUse".toList .definitionName))) ∧
      ∀ fault, lenient.outcome = .error fault →
        ∃ position b inner position' b' inner',
          FirstFault table .lenient corpus.blocks position b inner ∧
          fault = .located b.source b.number inner ∧
          FirstFault table .strict corpus.blocks position' b' inner' ∧
          strict.outcome = .error (.located b'.source b'.number inner') ∧
          position' ≤ position := by
  refine ⟨fun editions => surveyBlocks_strict_eq_ok_iff, ?_, ?_⟩
  · rintro editions ⟨source, number, notice⟩ rest ho hw
    have hs := surveyBlocks_strict_of_warning ho hw
    cases notice <;> exact hs
  · intro fault h
    obtain ⟨position, b, inner, hl, hf⟩ := surveyBlocks_eq_error_iff.1 h
    obtain ⟨position', b', inner', hs, hle⟩ := hl.exists_strict
    exact ⟨position, b, inner, position', b', inner', hl, hf, hs,
      surveyBlocks_eq_error_iff.2 ⟨position', b', inner', hs, rfl⟩, hle⟩

theorem surveyBlocks_strict_lenient_undefined :
    let corpus : Corpus :=
      [⟨"a.py".toList, "\"\"\"text\"\"\" \"\"\"@api \x7bget\x7d /x X\n@apiUse A\"\"\"".toList⟩]
    let lenient := surveyBlocks .empty .lenient corpus.blocks [] .empty
    lenient.outcome.isOk = true ∧
      lenient.warnings = [⟨"a.py".toList, 2, .undefinedReference ['A']⟩] ∧
      (surveyBlocks .empty .strict corpus.blocks [] .empty).outcome =
        .error (.located "a.py".toList 2 (.undefinedReference ['A'])) := by
  intro corpus lenient
  have hok : lenient.outcome.isOk = true := by decide +kernel
  have hw : lenient.warnings = [⟨"a.py".toList, 2, .undefinedReference ['A']⟩] := by
    decide +kernel
  refine ⟨hok, hw, ?_⟩
  cases ho : lenient.outcome with
  | error fault => simp [ho, Except.isOk, Except.toBool] at hok
  | ok editions => exact (surveyBlocks_strict_lenient .empty corpus).2.1 editions _ _ ho hw

end Corpus

end ApiNotes
