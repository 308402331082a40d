import ApiNotes.Annotation.Block
import ApiNotes.Resource.Collection
import ApiNotes.Resource.Reader

/-! # Corpora

A corpus is a list of named texts. Its definitions are collected from all blocks first; then each
block that is a resource is read and filed under its version. The first fault ends the survey.
-/

namespace ApiNotes

structure Source where
  id : Text
  text : Text
  deriving DecidableEq, Repr

abbrev Corpus := List Source

/-- A block body with its place: a source and the number of the block in it, from one. -/
structure Block.Located where
  source : Text
  number : Nat
  body : Text
  deriving DecidableEq, Repr

structure Survey where
  warnings : List Warning
  outcome : Except Fault Editions

namespace Corpus

def bodies (corpus : Corpus) : List Text := corpus.flatMap fun source => Block.bodies source.text

def definitions (corpus : Corpus) : Definitions := .ofBodies corpus.bodies

def blocksOf (source : Source) : List Block.Located :=
  (Block.bodies source.text).zipIdx.map fun (body, i) => ⟨source.id, i + 1, body⟩

def blocks (corpus : Corpus) : List Block.Located := corpus.flatMap blocksOf

def surveyBlocks (table : Definitions) (policy : Policy) :
    List Block.Located → List Warning → Editions → Survey
  | [], warnings, editions => ⟨warnings, .ok editions⟩
  | block :: blocks, warnings, editions =>
    let reading := readBlock table policy block.body
    match reading.outcome with
    | .error fault => ⟨warnings, .error (.located block.source block.number fault)⟩
    | .ok resource =>
      let here := reading.notices.map (Warning.mk block.source block.number)
      surveyBlocks table policy blocks (warnings ++ here) (resource.toList.foldl .insert editions)

def survey (policy : Policy) (corpus : Corpus) : Survey :=
  surveyBlocks corpus.definitions policy corpus.blocks [] .empty

end Corpus

end ApiNotes
