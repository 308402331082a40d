import ApiNotes.Text.Basic

/-! # Lines

Text as lines: one line from many, paragraphs from runs of lines, and the removal of a common
margin.
-/

namespace ApiNotes.Text

/-- All lines on one: trimmed, the empty ones left out, a space between them. -/
def singleLine (s : Text) : Text :=
  join [' '] (((split '\n' s).map trim).filter fun l => !l.isEmpty)

def consRun (run : List Text) (runs : List (List Text)) : List (List Text) :=
  if run.isEmpty then runs else run :: runs

/-- The run of non-empty lines at the start, and the runs after it. -/
def cutRuns : List Text → List Text × List (List Text)
  | [] => ([], [])
  | l :: ls =>
    let (run, runs) := cutRuns ls
    if l.isEmpty then ([], consRun run runs) else (l :: run, runs)

/-- The maximal runs of non-empty lines. -/
def runs (ls : List Text) : List (List Text) := consRun (cutRuns ls).1 (cutRuns ls).2

/-- Each run of lines that are not blank becomes one line. -/
def paragraphs (s : Text) : Text :=
  join ['\n'] ((runs ((split '\n' s).map trim)).map (join [' ']))

def isBlankLine (l : Text) : Bool := l.all isBlank

def indent (l : Text) : Text := l.takeWhile isBlank

def commonPrefix : Text → Text → Text
  | c :: s, d :: t => if c = d then c :: commonPrefix s t else []
  | _, _ => []

/-- The longest indentation that all lines share which are not blank. -/
def margin (ls : List Text) : Text :=
  match (ls.filter fun l => !isBlankLine l).map indent with
  | [] => []
  | i :: is => is.foldl commonPrefix i

/-- Remove the common margin; blank lines become empty. -/
def dedent (s : Text) : Text :=
  let ls := split '\n' s
  join ['\n'] (ls.map fun l => if isBlankLine l then [] else l.drop (margin ls).length)

end ApiNotes.Text
