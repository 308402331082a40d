import Mathlib.Data.List.Forall2
import ApiNotes.Corpus
import ApiNotes.Proofs.Splitting

/-! # Line endings

A carriage return before a line end is lost on the way from a text to its tag lines. Blocks are
found at the same places, the return is a blank to dedenting and trimming, and every line drops the
returns that end it. So a corpus is surveyed alike with either kind of line ending.
-/

namespace ApiNotes

namespace Text

def withReturns (s : Text) : Text := replace '\n' ['\r', '\n'] s

/-- The second text has some carriage returns more, each before a line end or at the end. -/
inductive AddsReturns : Text → Text → Prop where
  | nil : AddsReturns [] []
  | atEnd : AddsReturns [] ['\r']
  | keep {s t : Text} (c : Char) : AddsReturns s t → AddsReturns (c :: s) (c :: t)
  | newline {s t : Text} : AddsReturns s t → AddsReturns ('\n' :: s) ('\r' :: '\n' :: t)

/-- The second line may end in one carriage return more. -/
def MayReturn (l l' : Text) : Prop := l' = l ∨ l' = l ++ ['\r']

@[simp] theorem withReturns_nil : withReturns [] = [] := rfl

@[simp] theorem withReturns_newline (s : Text) :
    withReturns ('\n' :: s) = '\r' :: '\n' :: withReturns s := rfl

theorem withReturns_cons {c : Char} (hc : c ≠ '\n') (s : Text) :
    withReturns (c :: s) = c :: withReturns s := by
  simp [withReturns, replace, hc]

theorem after?_withReturns {lead : Text} (hl : ∀ c ∈ lead, c ≠ '\r' ∧ c ≠ '\n') (s : Text) :
    after? lead (withReturns s) = (after? lead s).map withReturns := by
  induction lead generalizing s with
  | nil => simp [after?]
  | cons c lead ih =>
    rw [List.forall_mem_cons] at hl
    cases s with
    | nil => rfl
    | cons d s =>
      by_cases hd : d = '\n'
      · subst hd
        simp [after?, hl.1.1, hl.1.2]
      · rw [withReturns_cons hd]
        by_cases hcd : c = d <;> simp [after?, hcd, ih hl.2]

theorem trimEnd_eq_nil_iff {s : Text} : trimEnd s = [] ↔ ∀ c ∈ s, isBlank c = true := by
  rw [trimEnd, dropEndWhile_eq_rdropWhile, List.rdropWhile_eq_nil_iff]

section Lines

theorem MayReturn.cons {l l' : Text} (h : MayReturn l l') (c : Char) :
    MayReturn (c :: l) (c :: l') := by
  rcases h with rfl | rfl
  · exact Or.inl rfl
  · exact Or.inr rfl

theorem forall₂_split_withReturns (s : Text) :
    List.Forall₂ MayReturn (split '\n' s) (split '\n' (withReturns s)) := by
  induction s with
  | nil => exact .cons (Or.inl rfl) .nil
  | cons c s ih =>
    by_cases hc : c = '\n'
    · subst hc
      exact .cons (Or.inr rfl) ih
    · obtain ⟨hhead, htail⟩ := List.forall₂_cons.1 ih
      rw [withReturns_cons hc]
      simp only [split, cut, hc, ↓reduceIte]
      exact .cons (hhead.cons c) htail

theorem MayReturn.isBlankLine_eq {l l' : Text} (h : MayReturn l l') :
    isBlankLine l' = isBlankLine l := by
  rcases h with rfl | rfl
  · rfl
  · simp [isBlankLine, show isBlank '\r' = true from rfl]

theorem MayReturn.indent_eq {l l' : Text} (h : MayReturn l l') (hl : isBlankLine l = false) :
    indent l' = indent l := by
  rcases h with rfl | rfl
  · rfl
  · have hstop : ¬ (l.takeWhile isBlank).length = l.length := by
      intro hlen
      have hall := List.takeWhile_eq_self_iff.1 ((List.takeWhile_prefix isBlank).eq_of_length hlen)
      rw [isBlankLine, List.all_eq_true.2 hall] at hl
      cases hl
    rw [indent, List.takeWhile_append, if_neg hstop]
    rfl

theorem MayReturn.drop {l l' : Text} (h : MayReturn l l') (n : Nat) :
    MayReturn (l.drop n) (l'.drop n) := by
  rcases h with rfl | rfl
  · exact Or.inl rfl
  · rw [List.drop_append]
    cases n - l.length with
    | zero => exact Or.inr rfl
    | succ k => exact Or.inl (by simp)

theorem margin_eq_of_mayReturn {ls ls' : List Text} (h : List.Forall₂ MayReturn ls ls') :
    margin ls' = margin ls := by
  have hindents : (ls'.filter fun l => !isBlankLine l).map indent =
      (ls.filter fun l => !isBlankLine l).map indent := by
    induction h with
    | nil => rfl
    | @cons l l' ls ls' hl _ ih =>
      simp only [List.filter_cons, hl.isBlankLine_eq]
      cases hb : isBlankLine l with
      | true => exact ih
      | false => simpa [hl.indent_eq hb] using ih
  rw [margin, margin, hindents]

theorem AddsReturns.append {s t : Text} (h : AddsReturns s t) (l : Text) :
    AddsReturns (l ++ s) (l ++ t) := by
  induction l with
  | nil => exact h
  | cons c l ih => exact .keep c ih

theorem MayReturn.addsReturns {l l' : Text} (h : MayReturn l l') : AddsReturns l l' := by
  rcases h with rfl | rfl
  · simpa using AddsReturns.nil.append l'
  · simpa using AddsReturns.atEnd.append l

theorem MayReturn.addsReturns_newline {l l' s t : Text} (h : MayReturn l l')
    (hs : AddsReturns s t) : AddsReturns (l ++ '\n' :: s) (l' ++ '\n' :: t) := by
  rcases h with rfl | rfl
  · exact (hs.keep '\n').append l'
  · simpa using hs.newline.append l

theorem addsReturns_join {ls ls' : List Text} (h : List.Forall₂ MayReturn ls ls') :
    AddsReturns (join ['\n'] ls) (join ['\n'] ls') := by
  induction h with
  | nil => exact .nil
  | @cons l l' ls ls' hl htail ih =>
    cases htail with
    | nil => simpa [join] using hl.addsReturns
    | cons => simpa [join] using hl.addsReturns_newline ih

theorem addsReturns_dedent_withReturns (s : Text) :
    AddsReturns (dedent s) (dedent (withReturns s)) := by
  have hlines := forall₂_split_withReturns s
  rw [dedent, dedent, margin_eq_of_mayReturn hlines]
  refine addsReturns_join ?_
  rw [List.forall₂_map_left_iff, List.forall₂_map_right_iff]
  refine hlines.imp fun l l' hl => ?_
  rw [hl.isBlankLine_eq]
  split
  · exact Or.inl rfl
  · exact hl.drop _

end Lines

namespace AddsReturns

variable {s t : Text}

theorem blank_iff (h : AddsReturns s t) :
    (∀ c ∈ s, isBlank c = true) ↔ ∀ c ∈ t, isBlank c = true := by
  induction h with
  | nil => rfl
  | atEnd => simp [show isBlank '\r' = true from rfl]
  | keep c _ ih => simp only [List.forall_mem_cons, ih]
  | newline _ ih => simp [show isBlank '\r' = true from rfl, ih]

theorem trimStart (h : AddsReturns s t) : AddsReturns (trimStart s) (trimStart t) := by
  induction h with
  | nil => exact .nil
  | atEnd => exact .nil
  | @keep s t c h ih =>
    by_cases hc : isBlank c
    · simpa [Text.trimStart, hc] using ih
    · simpa [Text.trimStart, hc] using h.keep c
  | newline _ ih => exact ih

theorem trimEnd_eq_nil_iff (h : AddsReturns s t) : trimEnd s = [] ↔ trimEnd t = [] := by
  rw [Text.trimEnd_eq_nil_iff, Text.trimEnd_eq_nil_iff, h.blank_iff]

theorem trimEnd (h : AddsReturns s t) : AddsReturns (trimEnd s) (trimEnd t) := by
  induction h with
  | nil => exact .nil
  | atEnd => exact .nil
  | @keep s t c h ih =>
    have hnil := h.trimEnd_eq_nil_iff
    simp only [Text.trimEnd, dropEndWhile_cons] at ih hnil ⊢
    simp only [hnil]
    split
    · exact .nil
    · exact ih.keep c
  | @newline s t h ih =>
    have hnil := h.trimEnd_eq_nil_iff
    simp only [Text.trimEnd, dropEndWhile_cons] at ih hnil ⊢
    by_cases ht : dropEndWhile isBlank t = []
    · simpa [hnil, ht, show isBlank '\n' = true from rfl, show isBlank '\r' = true from rfl] using
        AddsReturns.nil
    · simpa [hnil, ht] using ih.newline

theorem trim (h : AddsReturns s t) : AddsReturns (trim s) (trim t) := h.trimStart.trimEnd

theorem physicalLines_eq (h : AddsReturns s t) :
    TagLine.physicalLines t = TagLine.physicalLines s := by
  induction h with
  | nil => rfl
  | atEnd => rfl
  | @keep s t c h ih =>
    simp only [TagLine.physicalLines, split, cut, List.map_cons, List.cons.injEq] at ih ⊢
    split
    · simp [ih]
    · simp only [dropEndWhile_cons, ih, and_self]
  | newline _ ih =>
    simp only [TagLine.physicalLines, split, cut, List.map_cons, List.cons.injEq] at ih ⊢
    simp [ih, dropEndWhile_cons, show dropEndWhile (· == '\r') [] = [] from rfl]

end AddsReturns

end Text

namespace Block

open Text

theorem close?_withReturns {q : Char} (hq : q ≠ '\r' ∧ q ≠ '\n') (s : Text) :
    close? q (withReturns s) =
      (close? q s).map fun (body, rest) => (withReturns body, withReturns rest) := by
  have hdelimiter : ∀ c ∈ delimiter q, c ≠ '\r' ∧ c ≠ '\n' := by simpa [delimiter] using hq
  induction s with
  | nil => rfl
  | cons c s ih =>
    by_cases hc : c = '\n'
    · subst hc
      simp [close?, delimiter, after?, hq.1, hq.2, ih, Function.comp_def]
    · have hafter := after?_withReturns hdelimiter (c :: s)
      rw [withReturns_cons hc] at hafter ⊢
      simp only [close?, hafter]
      cases after? (delimiter q) (c :: s) with
      | some rest => simp
      | none => simp [ih, withReturns_cons hc, Function.comp_def]

theorem at?_withReturns (s : Text) :
    at? (withReturns s) =
      (at? s).map fun (body, rest) => (withReturns body, withReturns rest) := by
  have hhere : ∀ q, q ≠ '\r' ∧ q ≠ '\n' → here? q (withReturns s) =
      (here? q s).map fun (body, rest) => (withReturns body, withReturns rest) := by
    intro q hq
    rw [here?, here?, after?_withReturns (by simpa [delimiter] using hq)]
    cases after? (delimiter q) s with
    | none => rfl
    | some rest => exact close?_withReturns hq rest
  rw [at?, at?, hhere _ (by decide), hhere _ (by decide)]
  cases here? '"' s <;> rfl

theorem rawBodies_cons (c : Char) (s : Text) :
    rawBodies (c :: s) =
      match at? (c :: s) with
      | some (body, rest) => body :: rawBodies rest
      | none => rawBodies s := by
  rw [rawBodies]
  split <;> simp_all

theorem at?_cons_eq_none {c : Char} (hc : c ≠ '"' ∧ c ≠ '\'') (s : Text) : at? (c :: s) = none := by
  simp [at?, here?, delimiter, after?, hc.1.symm, hc.2.symm]

/-- A carriage return neither makes nor breaks a delimiter. -/
theorem rawBodies_withReturns (s : Text) :
    rawBodies (withReturns s) = (rawBodies s).map withReturns := by
  fun_induction rawBodies s with
  | case1 => simp [rawBodies]
  | case2 c s body rest hat _ ih =>
    have hat' := at?_withReturns (c :: s)
    rw [hat] at hat'
    by_cases hc : c = '\n'
    · subst hc
      cases hat
    · rw [withReturns_cons hc] at hat' ⊢
      simp [rawBodies_cons, hat', ih]
  | case3 c s hat ih =>
    by_cases hc : c = '\n'
    · subst hc
      rw [withReturns_newline, rawBodies_cons, at?_cons_eq_none (by decide)]
      have hnone : '\n' ≠ '"' ∧ '\n' ≠ '\'' := by decide
      simpa only [rawBodies_cons, at?_cons_eq_none hnone] using ih
    · have hat' := at?_withReturns (c :: s)
      rw [hat] at hat'
      rw [withReturns_cons hc] at hat' ⊢
      simpa [rawBodies_cons, hat'] using ih

theorem ofBody_bodies_withReturns (s : Text) :
    (bodies (withReturns s)).map TagLine.ofBody = (bodies s).map TagLine.ofBody := by
  simp only [bodies, rawBodies_withReturns, List.map_map]
  refine List.map_congr_left fun body _ => ?_
  have hadds := (addsReturns_dedent_withReturns body).trim
  simp [TagLine.ofBody, hadds.physicalLines_eq]

end Block

theorem Definition.ofBody?_congr {body body' : Text}
    (h : TagLine.ofBody body = TagLine.ofBody body') :
    Definition.ofBody? body = Definition.ofBody? body' := by
  rw [Definition.ofBody?, Definition.ofBody?, h]

theorem readBlock_congr {body body' : Text} (h : TagLine.ofBody body = TagLine.ofBody body')
    (table : Definitions) (policy : Policy) :
    readBlock table policy body = readBlock table policy body' := by
  rw [readBlock, readBlock, h]

namespace Corpus

def withReturns (corpus : Corpus) : Corpus :=
  corpus.map fun source => { source with text := source.text.withReturns }

/-- A block with its place and its tag lines, which are all that is read of it. -/
def readView (block : Block.Located) : Text × Nat × List Text :=
  (block.source, block.number, TagLine.ofBody block.body)

theorem ofBodies_congr {bodies bodies' : List Text}
    (h : bodies.map TagLine.ofBody = bodies'.map TagLine.ofBody) :
    Definitions.ofBodies bodies = Definitions.ofBodies bodies' := by
  have hdefinitions : bodies.filterMap Definition.ofBody? =
      bodies'.filterMap Definition.ofBody? := by
    induction bodies generalizing bodies' with
    | nil =>
      rw [List.map_eq_nil_iff.1 h.symm]
    | cons body bodies ih =>
      obtain ⟨body', bodies', rfl, hbody, hbodies⟩ := List.map_eq_cons_iff.1 h.symm
      simp only [List.filterMap_cons, Definition.ofBody?_congr hbody, ih hbodies.symm]
  rw [Definitions.ofBodies, Definitions.ofBodies, hdefinitions]

theorem surveyBlocks_congr {blocks blocks' : List Block.Located}
    (h : blocks.map readView = blocks'.map readView) (table : Definitions) (policy : Policy)
    (found : List Warning) (editions : Editions) :
    surveyBlocks table policy blocks found editions =
      surveyBlocks table policy blocks' found editions := by
  induction blocks generalizing blocks' found editions with
  | nil => rw [List.map_eq_nil_iff.1 h.symm]
  | cons block blocks ih =>
    obtain ⟨block', blocks', rfl, hview, hblocks⟩ := List.map_eq_cons_iff.1 h.symm
    simp only [readView, Prod.mk.injEq] at hview
    obtain ⟨hsource, hnumber, hlines⟩ := hview
    simp only [surveyBlocks, readBlock_congr hlines, hsource, hnumber, ih hblocks.symm]

theorem readView_blocks_withReturns (corpus : Corpus) :
    corpus.withReturns.blocks.map readView = corpus.blocks.map readView := by
  have hblocks : ∀ source : Source, (blocksOf source).map readView =
      ((Block.bodies source.text).map TagLine.ofBody).zipIdx.map
        fun (lines, i) => (source.id, i + 1, lines) := by
    intro source
    rw [blocksOf, List.map_map, List.zipIdx_map, List.map_map]
    rfl
  simp only [blocks, withReturns, List.map_flatMap, List.flatMap_map, hblocks,
    Block.ofBody_bodies_withReturns]

/-- Neither the definitions of a corpus nor its survey depend on the kind of line ending. -/
theorem survey_withReturns (corpus : Corpus) :
    corpus.withReturns.definitions = corpus.definitions ∧
      (∀ table policy, surveyBlocks table policy corpus.withReturns.blocks [] .empty =
        surveyBlocks table policy corpus.blocks [] .empty) ∧
      ∀ policy, corpus.withReturns.survey policy = corpus.survey policy := by
  have hdefinitions : corpus.withReturns.definitions = corpus.definitions := by
    refine ofBodies_congr ?_
    simp only [bodies, withReturns, List.map_flatMap, List.flatMap_map,
      Block.ofBody_bodies_withReturns]
  have hsurvey : ∀ table policy, surveyBlocks table policy corpus.withReturns.blocks [] .empty =
      surveyBlocks table policy corpus.blocks [] .empty := fun table policy =>
    surveyBlocks_congr (readView_blocks_withReturns corpus) table policy [] .empty
  refine ⟨hdefinitions, hsurvey, fun policy => ?_⟩
  rw [survey, survey, hdefinitions]
  exact hsurvey _ policy

end Corpus

end ApiNotes
