import ApiNotes.Document.Markdown

/-! # Output formats

A document is written as Markdown or as indented JSON.
-/

namespace ApiNotes

inductive Format where
  | markdown
  | json
  deriving DecidableEq, Repr

namespace Format

def ofName? (name : Text) : Option Format :=
  if name = "markdown".toList ∨ name = "md".toList then some .markdown
  else if name = "json".toList then some .json
  else none

def unknownMessage (name : Text) : Text :=
  "unknown format: ".toList ++ name ++ ". Use markdown or json".toList

def extension : Format → Text
  | .markdown => "md".toList
  | .json => "json".toList

def render : Format → Document → Text
  | .markdown, d => Markdown.render d
  | .json, d => d.toJson.indented 0 ++ ['\n']

end Format

end ApiNotes
