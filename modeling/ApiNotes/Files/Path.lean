import ApiNotes.Text.Basic

/-! # Paths

A path is a text whose slashes divide components. Repeated slashes and single dots do not count,
except for a single dot at the start. Paths are compared by their components.
-/

namespace ApiNotes

inductive Component where
  | root
  | current
  | parent
  | name (n : Text)
  deriving DecidableEq, Repr

/-- The names that lead from the root to a file or a directory. -/
abbrev Location := List Text

namespace Component

def rank : Component → Nat
  | .root => 0
  | .current => 1
  | .parent => 2
  | .name _ => 3

def compare : Component → Component → Ordering
  | .name a, .name b => Text.compare a b
  | a, b => Ord.compare a.rank b.rank

def text : Component → Text
  | .root => ['/']
  | .current => ['.']
  | .parent => ['.', '.']
  | .name n => n

end Component

namespace Path

/-- The component that a piece between slashes is, if it counts. -/
def component? (piece : Text) : Option Component :=
  if piece = [] ∨ piece = ['.'] then none
  else if piece = ['.', '.'] then some .parent
  else some (.name piece)

def isAbsolute (path : Text) : Bool := path.head? == some '/'

def components (path : Text) : List Component :=
  let pieces := Text.split '/' path
  let first :=
    if isAbsolute path then [.root] else if pieces.head? = some ['.'] then [.current] else []
  first ++ pieces.filterMap component?

def compareComponents : List Component → List Component → Ordering
  | [], [] => .eq
  | [], _ :: _ => .lt
  | _ :: _, [] => .gt
  | a :: as, b :: bs => (a.compare b).then (compareComponents as bs)

def le (a b : Text) : Bool := compareComponents (components a) (components b) != .gt

def same (a b : Text) : Bool := components a == components b

def follow (location : Location) : Component → Location
  | .root => []
  | .current => location
  | .parent => location.dropLast
  | .name n => location ++ [n]

/-- Where a path leads from the current directory, going by its components alone. -/
def spelled (current : Location) (path : Text) : Location :=
  (components path).foldl follow current

def fileName? (path : Text) : Option Text :=
  match (components path).getLast? with
  | some (.name n) => some n
  | _ => none

/-- The text after the last dot of the name, unless that dot starts the name. -/
def extension? (path : Text) : Option Text :=
  (fileName? path).bind fun name =>
    let extension := (name.reverse.takeWhile (· != '.')).reverse
    if extension.length + 1 < name.length then some extension else none

def join (directory entry : Text) : Text :=
  match directory.getLast? with
  | none => entry
  | some '/' => directory ++ entry
  | some _ => directory ++ '/' :: entry

def trimSlashes (path : Text) : Text := Text.dropEndWhile (· == '/') path

/-- The path up to its last slash, with the slash, and the name after it. -/
def splitLast (path : Text) : Text × Text :=
  let name := (path.reverse.takeWhile (· != '/')).reverse
  (path.take (path.length - name.length), name)

/-- The paths of the directories that lead to a path, the innermost first. -/
def parents (path : Text) : List Text :=
  let names := (components path).dropLast.map Component.text
  ((List.range names.length).map fun n => (names.take (n + 1)).foldl join []).reverse

end Path

end ApiNotes
