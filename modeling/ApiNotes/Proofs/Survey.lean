import ApiNotes.Corpus
import ApiNotes.Proofs.Inlining
import ApiNotes.Proofs.Keyed

/-! # The survey of a corpus

A survey ends at the first block whose reading is a fault. Without one it files the resources of
all blocks in order and keeps the notices of every block with its place.
-/

namespace ApiNotes

def Fault.Bare (fault : Fault) : Prop := ∀ source block inner, fault ≠ .located source block inner

theorem Fault.bare_missing (keyword : Text) (piece : Piece) :
    (Fault.missing keyword piece).Bare := by
  rintro source block inner ⟨⟩

theorem Notice.bare_toFault (notice : Notice) : notice.toFault.Bare := by
  rintro source block inner h
  cases notice <;> cases h

theorem play_eq_error_cases {policy : Policy} {items : List Item} {draft : Draft}
    {notices : List Notice} {fault : Fault}
    (h : (play policy items draft notices).outcome = .error fault) :
    (∃ keyword piece, fault = .missing keyword piece) ∨
      policy = .strict ∧ ∃ notice : Notice, fault = notice.toFault := by
  induction items generalizing draft notices with
  | nil => cases h
  | cons item items ih =>
    cases item with
    | line l =>
      cases he : Entry.ofLine l with
      | error fault' =>
        simp only [play, he, Except.error.injEq] at h
        subst h
        obtain ⟨piece, rfl⟩ := Entry.ofLine_eq_error he
        exact Or.inl ⟨_, piece, rfl⟩
      | ok entry =>
        simp only [play, he] at h
        exact ih h
    | notice n =>
      cases policy with
      | strict => exact Or.inr ⟨rfl, n, (Except.error.inj h).symm⟩
      | lenient => exact ih h

theorem readBlock_eq_error_cases {table : Definitions} {policy : Policy} {body : Text}
    {fault : Fault} (h : (readBlock table policy body).outcome = .error fault) :
    (∃ keyword piece, fault = .missing keyword piece) ∨
      policy = .strict ∧ ∃ notice : Notice, fault = notice.toFault := by
  by_cases hroute : (TagLine.ofBody body).head?.map TagLine.keyword = some Tag.route.keyword
  · rw [readBlock_of_route hroute] at h
    rcases bind_eq_error_iff.1 (map_eq_error_iff.1 h) with h | ⟨draft, -, h⟩
    · exact play_eq_error_cases h
    · unfold Draft.finish at h
      split at h
      · exact Or.inl ⟨_, _, (Except.error.inj h).symm⟩
      · cases h
  · simp [readBlock, hroute] at h

theorem bare_of_readBlock_eq_error {table : Definitions} {policy : Policy} {body : Text}
    {fault : Fault} (h : (readBlock table policy body).outcome = .error fault) : fault.Bare := by
  rcases readBlock_eq_error_cases h with ⟨keyword, piece, rfl⟩ | ⟨-, notice, rfl⟩
  · exact Fault.bare_missing keyword piece
  · exact notice.bare_toFault

namespace Corpus

variable {table : Definitions} {policy : Policy}

/-- The resource that a block is read as, unless it is none or a fault. -/
def resource? (table : Definitions) (policy : Policy) (block : Block.Located) : Option Resource :=
  (readBlock table policy block.body).outcome.toOption.join

def warnings (table : Definitions) (policy : Policy) (block : Block.Located) : List Warning :=
  (readBlock table policy block.body).notices.map (Warning.mk block.source block.number)

def Reads (table : Definitions) (policy : Policy) (block : Block.Located) : Prop :=
  ∃ resource, (readBlock table policy block.body).outcome = .ok resource

theorem Reads.not_error {block : Block.Located} (h : Reads table policy block) (fault : Fault) :
    (readBlock table policy block.body).outcome ≠ .error fault := by
  obtain ⟨resource, ho⟩ := h
  rw [ho]
  rintro ⟨⟩

/-- The block at a position is the first whose reading is a fault. -/
structure FirstFault (table : Definitions) (policy : Policy) (blocks : List Block.Located)
    (position : Nat) (block : Block.Located) (fault : Fault) : Prop where
  here : blocks[position]? = some block
  fails : (readBlock table policy block.body).outcome = .error fault
  earlier : ∀ b ∈ blocks.take position, Reads table policy b

theorem blocks_eq_flatMap_mapIdx (corpus : Corpus) :
    corpus.blocks = corpus.flatMap fun source =>
      (Block.bodies source.text).mapIdx fun i body => ⟨source.id, i + 1, body⟩ := by
  simp only [blocks, List.mapIdx_eq_zipIdx_map]
  rfl

theorem reads_or_firstFault (table : Definitions) (policy : Policy)
    (blocks : List Block.Located) :
    (∀ b ∈ blocks, Reads table policy b) ∨
      ∃ position block fault, FirstFault table policy blocks position block fault := by
  induction blocks with
  | nil => exact Or.inl (by simp)
  | cons b blocks ih =>
    cases ho : (readBlock table policy b.body).outcome with
    | error fault => exact Or.inr ⟨0, b, fault, rfl, ho, by simp⟩
    | ok resource =>
      have hb : Reads table policy b := ⟨resource, ho⟩
      rcases ih with h | ⟨position, block, fault, h⟩
      · exact Or.inl (List.forall_mem_cons.2 ⟨hb, h⟩)
      · refine Or.inr ⟨position + 1, block, fault, h.here, h.fails, ?_⟩
        rw [List.take_succ_cons]
        exact List.forall_mem_cons.2 ⟨hb, h.earlier⟩

theorem surveyBlocks_append {before : List Block.Located}
    (h : ∀ b ∈ before, Reads table policy b) (after : List Block.Located)
    (found : List Warning) (editions : Editions) :
    surveyBlocks table policy (before ++ after) found editions =
      surveyBlocks table policy after (found ++ before.flatMap (warnings table policy))
        ((before.filterMap (resource? table policy)).foldl .insert editions) := by
  induction before generalizing found editions with
  | nil => simp
  | cons b before ih =>
    rw [List.forall_mem_cons] at h
    obtain ⟨resource, ho⟩ := h.1
    have hr : resource? table policy b = resource := by simp [resource?, ho, Except.toOption]
    rw [List.cons_append, surveyBlocks]
    simp only [ho]
    rw [ih h.2]
    cases resource <;> simp [hr, warnings]

theorem surveyBlocks_of_reads {blocks : List Block.Located}
    (h : ∀ b ∈ blocks, Reads table policy b) :
    surveyBlocks table policy blocks [] .empty =
      ⟨blocks.flatMap (warnings table policy),
        .ok (.ofList (blocks.filterMap (resource? table policy)))⟩ := by
  have := surveyBlocks_append h [] [] .empty
  rwa [List.append_nil] at this

theorem FirstFault.split {blocks : List Block.Located} {position : Nat} {block : Block.Located}
    {fault : Fault} (h : FirstFault table policy blocks position block fault) :
    blocks = blocks.take position ++ block :: blocks.drop (position + 1) := by
  obtain ⟨hlt, hb⟩ := List.getElem?_eq_some_iff.1 h.here
  rw [← hb, List.getElem_cons_drop, List.take_append_drop]

theorem FirstFault.surveyBlocks_eq {blocks : List Block.Located} {position : Nat}
    {block : Block.Located} {fault : Fault}
    (h : FirstFault table policy blocks position block fault) :
    surveyBlocks table policy blocks [] .empty =
      ⟨(blocks.take position).flatMap (warnings table policy),
        .error (.located block.source block.number fault)⟩ := by
  have := surveyBlocks_append h.earlier (block :: blocks.drop (position + 1)) [] .empty
  rw [← h.split] at this
  rw [this, surveyBlocks]
  simp [h.fails]

theorem surveyBlocks_eq_error_iff {blocks : List Block.Located} {fault : Fault} :
    (surveyBlocks table policy blocks [] .empty).outcome = .error fault ↔
      ∃ position block inner, FirstFault table policy blocks position block inner ∧
        fault = .located block.source block.number inner := by
  constructor
  · intro h
    rcases reads_or_firstFault table policy blocks with hr | ⟨position, block, inner, hf⟩
    · rw [surveyBlocks_of_reads hr] at h
      cases h
    · rw [hf.surveyBlocks_eq] at h
      exact ⟨position, block, inner, hf, (Except.error.inj h).symm⟩
  · rintro ⟨position, block, inner, hf, rfl⟩
    rw [hf.surveyBlocks_eq]

theorem reads_of_surveyBlocks_eq_ok {blocks : List Block.Located} {editions : Editions}
    (h : (surveyBlocks table policy blocks [] .empty).outcome = .ok editions) :
    ∀ b ∈ blocks, Reads table policy b := by
  rcases reads_or_firstFault table policy blocks with hr | ⟨position, block, inner, hf⟩
  · exact hr
  · rw [hf.surveyBlocks_eq] at h
    cases h

/-- A survey fails at the first fault, and otherwise groups the resources by version and key: both
in the order of their first sighting, with the last resource under each key. -/
theorem surveyBlocks_grouping (table : Definitions) (policy : Policy) (corpus : Corpus) :
    let survey := surveyBlocks table policy corpus.blocks [] .empty
    let rs := corpus.blocks.filterMap (resource? table policy)
    (corpus.blocks = corpus.flatMap fun source =>
        (Block.bodies source.text).mapIdx fun i body => ⟨source.id, i + 1, body⟩) ∧
      ((∃ fault, survey.outcome = .error fault) ↔
        ∃ b ∈ corpus.blocks, ∃ fault, (readBlock table policy b.body).outcome = .error fault) ∧
      (∀ fault, survey.outcome = .error fault →
        ∃ position b inner, FirstFault table policy corpus.blocks position b inner ∧
          fault = .located b.source b.number inner ∧ inner.Bare) ∧
      ∀ editions, survey.outcome = .ok editions →
        editions.versions = (rs.map Resource.version).eraseDups ∧
        (∀ edition ∈ editions.entries,
          edition.resources.entries.map Resource.key =
              ((rs.filter fun r => r.version = edition.version).map Resource.key).eraseDups ∧
            ∀ r ∈ edition.resources.entries,
              (rs.filter fun r' => r'.version = edition.version ∧ r'.key = r.key).getLast? =
                some r) ∧
        survey.warnings = corpus.blocks.flatMap fun b =>
          (readBlock table policy b.body).notices.map (Warning.mk b.source b.number) := by
  intro survey rs
  refine ⟨blocks_eq_flatMap_mapIdx corpus, ?_, ?_, ?_⟩
  · constructor
    · rintro ⟨fault, h⟩
      obtain ⟨position, b, inner, hf, -⟩ := surveyBlocks_eq_error_iff.1 h
      exact ⟨b, List.mem_of_getElem? hf.here, inner, hf.fails⟩
    · rintro ⟨b, hb, fault, h⟩
      rcases reads_or_firstFault table policy corpus.blocks with hr | ⟨position, b', inner, hf⟩
      · exact absurd h ((hr b hb).not_error fault)
      · exact ⟨_, surveyBlocks_eq_error_iff.2 ⟨position, b', inner, hf, rfl⟩⟩
  · intro fault h
    obtain ⟨position, b, inner, hf, he⟩ := surveyBlocks_eq_error_iff.1 h
    exact ⟨position, b, inner, hf, he, bare_of_readBlock_eq_error hf.fails⟩
  · intro editions h
    have hs : survey = ⟨_, .ok (.ofList rs)⟩ :=
      surveyBlocks_of_reads (reads_of_surveyBlocks_eq_ok h)
    obtain rfl : Editions.ofList rs = editions := by
      rw [hs] at h
      exact Except.ok.inj h
    refine ⟨Editions.versions_ofList rs, ?_, ?_⟩
    · intro edition he
      exact ⟨Editions.map_key_of_mem_ofList he, fun r => Editions.getLast?_of_mem_ofList he⟩
    · rw [hs]
      rfl

end Corpus

end ApiNotes
