import ApiNotes.Text.Basic

/-! # Tag lines

A block body is read as tag lines. A line that starts with `@` starts a tag line; any other line
continues the tag line before it, and what stands before the first tag line belongs to nobody.
-/

namespace ApiNotes.TagLine

def startsTag (l : Text) : Bool := l.head? == some '@'

/-- The lines before the first tag line, and the tag lines. -/
def gather : List Text → List Text × List Text
  | [] => ([], [])
  | l :: ls =>
    let (continuation, tagLines) := gather ls
    if startsTag l then ([], Text.join ['\n'] (l :: continuation) :: tagLines)
    else (l :: continuation, tagLines)

/-- The lines of a text, without the carriage returns that end them. -/
def physicalLines (body : Text) : List Text :=
  (Text.split '\n' body).map (Text.dropEndWhile (· == '\r'))

def ofBody (body : Text) : List Text := (gather (physicalLines body)).2

/-- The keyword of a tag line, which ends at the first blank. -/
def keyword (line : Text) : Text := line.takeWhile fun c => !isBlank c

/-- The text of a tag line after its keyword and one blank. -/
def content (line : Text) : Text := (line.dropWhile fun c => !isBlank c).tail

end ApiNotes.TagLine
