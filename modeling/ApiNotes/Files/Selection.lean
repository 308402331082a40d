import ApiNotes.Corpus
import ApiNotes.Files.Glob

/-! # Selecting sources

Sources are selected by patterns. A pattern is the path of a file, the path of a directory, which
stands for all files below it that may hold annotations, or a glob pattern. The selected paths are
put in order and each is read once.
-/

namespace ApiNotes

def sourceExtensions : List Text :=
  ["py", "rs", "js", "ts", "php", "rb", "go", "java", "txt"].map String.toList

def isSourcePath (path : Text) : Bool := (Path.extension? path).any sourceExtensions.contains

inductive SelectionError where
  | badPattern (pattern : Text) (error : PatternError)
  | notText (path : Text)
  deriving DecidableEq, Repr

def notTextMessage : Text := "stream did not contain valid UTF-8".toList

namespace SelectionError

def message : SelectionError → Text
  | .badPattern pattern _ => "invalid glob pattern: ".toList ++ pattern
  | .notText path => "failed to read ".toList ++ path

def cause : SelectionError → Text
  | .badPattern _ error => error.message
  | .notText _ => notTextMessage

end SelectionError

namespace Selection

/-- The files that a pattern stands for. -/
def expand (tree : FileTree) (pattern : Text) : Except PatternError (List Text) :=
  if tree.isFile pattern then .ok [pattern]
  else if tree.isDirectory pattern then
    .ok ((Glob.paths tree pattern (.below pattern)).filter fun p => tree.isFile p && isSourcePath p)
  else (fun glob => (Glob.paths tree pattern glob).filter tree.isFile) <$> Glob.ofText pattern

/-- A pattern that is neither a directory nor stands for any file is worth a warning. -/
def isBarren (tree : FileTree) (pattern : Text) (files : List Text) : Bool :=
  files.isEmpty && !tree.isDirectory pattern

/-- One path out of each run of equal paths, the first. -/
def dedup : List Text → List Text
  | a :: b :: ps => if Path.same a b then dedup (a :: ps) else a :: dedup (b :: ps)
  | ps => ps

def order (paths : List Text) : List Text := dedup (paths.mergeSort Path.le)

/-- The files of all patterns, and the patterns that stand for none, up to the first wrong one. -/
def expandAll (tree : FileTree) :
    List Text → List Text × Except SelectionError (List Text)
  | [] => ([], .ok [])
  | pattern :: patterns =>
    match expand tree pattern with
    | .error e => ([], .error (.badPattern pattern e))
    | .ok files =>
      let (barren, rest) := expandAll tree patterns
      (if isBarren tree pattern files then pattern :: barren else barren, (files ++ ·) <$> rest)

def read (tree : FileTree) (path : Text) : Except SelectionError Source :=
  match (tree.content? path).bind Text.ofBytes? with
  | some text => .ok { id := path, text }
  | none => .error (.notText path)

/-- The selected sources, and the patterns that stand for no file. -/
def corpus (tree : FileTree) (patterns : List Text) :
    List Text × Except SelectionError Corpus :=
  let (barren, files) := expandAll tree patterns
  (barren, files >>= fun files => (order files).mapM (read tree))

end Selection

end ApiNotes
