import ApiNotes.Command.Run

/-! # The command

The command takes a snapshot of what its arguments refer to, runs, and then carries out what the
run has changed.
-/

namespace ApiNotes

partial def snapshot (entries : Array IO.FS.DirEntry) (location : Location) (tree : FileTree) :
    IO FileTree := do
  let mut tree := tree
  for entry in entries do
    let found := location ++ [entry.fileName.toList]
    if ← entry.path.isDir then
      tree ← snapshot (← entry.path.readDir) found (tree.put found .directory)
    else
      tree := tree.put found (.file (← IO.FS.readBinFile entry.path))
  return tree

/-- Add what a path leads to, if it leads to anything, and what is below it if that is asked for. -/
def add (below : Bool) (tree : FileTree) (path : Text) : IO FileTree := do
  match ← (IO.FS.realPath (String.ofList path)).toBaseIO with
  | .error _ => return tree
  | .ok found =>
    let location := Path.spelled tree.current path
    if ← found.isDir then
      let tree := tree.graft location .directory
      if below then snapshot (← found.readDir) location tree else return tree
    else return tree.graft location (.file (← IO.FS.readBinFile found))

/-- The directory below which all matches of a pattern with wildcards are: the part before its first
wildcard, and up from there as often as a component may stand for two dots. -/
def reach? (pattern : Text) : Option Text :=
  let plain := pattern.takeWhile fun c => ['*', '?', '['].all (· != c)
  if plain.length = pattern.length then none
  else
    let directory := (Path.splitLast plain).1
    let pieces := Text.split '/' (pattern.drop directory.length)
    let ups := (pieces.filter fun piece => piece.head? = some '.').map fun _ => ['.', '.']
    some (ups.foldl Path.join (if directory.isEmpty then ['.'] else directory))

def carryOut (before after : FileTree) : IO Unit := do
  for (location, node) in after.entries do
    if before.get? location ≠ some node then
      let path := String.ofList ('/' :: Text.join ['/'] location)
      match node with
      | .directory => IO.FS.createDirAll path
      | .file content => IO.FS.writeBinFile path content

def execute (line : CommandLine) : IO UInt32 := do
  let current := Path.spelled [] (← IO.currentDir).toString.toList
  let mut tree := { FileTree.empty.graft current .directory with current }
  for path in line.patterns ++ (line.value? .output).toList ++ line.patterns.filterMap reach? do
    tree ← (Path.parents path).foldlM (add false) tree
    tree ← add true tree path
  let stdin ← if line.patterns.isEmpty then (← IO.getStdin).readBinToEnd else pure .empty
  let outcome := Run.run line tree stdin
  carryOut tree outcome.tree
  IO.print (String.ofList outcome.stdout)
  IO.eprint (String.ofList outcome.stderr)
  return UInt32.ofNat outcome.code

end ApiNotes

def main (args : List String) : IO UInt32 :=
  match ApiNotes.CommandLine.ofArgs? (args.map String.toList) with
  | some line => ApiNotes.execute line
  | none => return 2
