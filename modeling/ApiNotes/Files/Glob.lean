import ApiNotes.Files.Tree

/-! # Glob patterns

A pattern names the entries of a tree by the components of their paths. A component is a plain
name, a name with wildcards, or a double star, which stands for any number of directories.
-/

namespace ApiNotes

inductive CharSpec where
  | single (c : Char)
  | range (first last : Char)
  deriving DecidableEq, Repr

def CharSpec.matches (c : Char) : CharSpec → Bool
  | .single d => c == d
  | .range first last => first ≤ c && c ≤ last

inductive Wildcard where
  | char (c : Char)
  | anyChar
  | anySequence
  /-- A double star. -/
  | anyDirectories
  | within (specs : List CharSpec)
  | except (specs : List CharSpec)
  deriving DecidableEq, Repr

/-- The three ways for a pattern to be wrong, and where it is. -/
inductive PatternError where
  | tooManyStars (position : Nat)
  | partialDoubleStar (position : Nat)
  | badClass (position : Nat)
  deriving DecidableEq, Repr

namespace PatternError

def position : PatternError → Nat
  | .tooManyStars p => p
  | .partialDoubleStar p => p
  | .badClass p => p

def reason : PatternError → Text
  | .tooManyStars _ => "wildcards are either regular `*` or recursive `**`".toList
  | .partialDoubleStar _ => "recursive wildcards must form a single path component".toList
  | .badClass _ => "invalid range pattern".toList

def message (e : PatternError) : Text :=
  "Pattern syntax error near position ".toList ++ Text.ofNat e.position ++ ": ".toList ++ e.reason

end PatternError

namespace Wildcard

/-- The members of a class, where a hyphen between two characters makes a range. -/
def specs : Text → List CharSpec
  | a :: '-' :: b :: s => .range a b :: specs s
  | a :: s => .single a :: specs s
  | [] => []

/-- The class that follows an opening bracket, and how many characters it takes. Its first member
may be a closing bracket. -/
def class? : Text → Option (Wildcard × Nat)
  | '!' :: c :: s =>
    (Text.splitOnce? ']' s).map fun (t, _) => (.except (specs (c :: t)), t.length + 3)
  | '!' :: [] => none
  | c :: s => (Text.splitOnce? ']' s).map fun (t, _) => (.within (specs (c :: t)), t.length + 2)
  | [] => none

/-- The wildcards of a pattern. The first `skip` characters belong to a wildcard already read, and
`previous` is the character before the current position. -/
def read (position skip : Nat) (previous : Option Char) :
    Text → Except PatternError (List Wildcard)
  | [] => .ok []
  | c :: s =>
    match skip with
    | skip + 1 => read (position + 1) skip (some c) s
    | 0 =>
      if c = '?' then (.anyChar :: ·) <$> read (position + 1) 0 (some c) s
      else if c = '*' then
        match (s.takeWhile (· == '*')).length with
        | 0 => (.anySequence :: ·) <$> read (position + 1) 0 (some c) s
        | 1 =>
          if previous.all (· == '/') then
            match s.drop 1 with
            | [] => (.anyDirectories :: ·) <$> read (position + 1) 1 (some c) s
            | '/' :: _ => (.anyDirectories :: ·) <$> read (position + 1) 2 (some c) s
            | _ => .error (.partialDoubleStar (position + 2))
          else .error (.partialDoubleStar (position - 1))
        | _ => .error (.tooManyStars (position + 2))
      else if c = '[' then
        match class? s with
        | some (wildcard, n) => (wildcard :: ·) <$> read (position + 1) n (some c) s
        | none => .error (.badClass position)
      else (.char c :: ·) <$> read (position + 1) 0 (some c) s

def ofText (s : Text) : Except PatternError (List Wildcard) := read 0 0 none s

def takes (c : Char) : Wildcard → Bool
  | .char d => c == d
  | .anyChar => true
  | .within specs => specs.any (CharSpec.matches c)
  | .except specs => !specs.any (CharSpec.matches c)
  | .anySequence => false
  | .anyDirectories => false

def matchName : List Wildcard → Text → Bool
  | [], s => s.isEmpty
  | .anySequence :: ws, [] => matchName ws []
  | .anySequence :: ws, c :: s => matchName ws (c :: s) || matchName (.anySequence :: ws) s
  | _ :: _, [] => false
  | w :: ws, c :: s => w.takes c && matchName ws s
termination_by ws s => ws.length + s.length

theorem matchName_anySequence (s : Text) : matchName [.anySequence] s = true := by
  induction s with
  | nil => simp [matchName]
  | cons c s ih => simp [matchName, ih]

/-- The name that wildcards spell out, if they are all plain characters. -/
def plain? : List Wildcard → Option Text
  | [] => some []
  | .char c :: ws => (plain? ws).map (c :: ·)
  | _ :: _ => none

end Wildcard

inductive GlobStep where
  | plain (name : Text)
  | wild (wildcards : List Wildcard)
  | anyDirectories
  deriving DecidableEq, Repr

def GlobStep.ofWildcards (ws : List Wildcard) : GlobStep :=
  match Wildcard.plain? ws with
  | some name => .plain name
  | none => if ws.contains .anyDirectories then .anyDirectories else .wild ws

def GlobStep.matches (name : Text) : GlobStep → Bool
  | .plain n => n == name
  | .wild ws => Wildcard.matchName ws name
  | .anyDirectories => true

structure Glob where
  steps : List GlobStep
  /-- A slash at the end asks for directories. -/
  directoriesOnly : Bool

namespace Glob

/-- Several double stars in a row are one. -/
def collapse : List GlobStep → List GlobStep
  | .anyDirectories :: .anyDirectories :: steps => collapse (.anyDirectories :: steps)
  | step :: steps => step :: collapse steps
  | [] => []

/-- The pieces of a pattern between slashes, without the empty one after a slash at the end. -/
def pieces (pattern : Text) : List Text :=
  let ps := Text.split '/' pattern
  if ps.length ≠ 1 ∧ ps.getLast? = some [] then ps.dropLast else ps

/-- A pattern without the slash that stands for the root. -/
def relative (pattern : Text) : Text := (Text.after? ['/'] pattern).getD pattern

/-- Read a pattern, first as a whole and then by components. -/
def ofText (pattern : Text) : Except PatternError Glob := do
  let _ ← Wildcard.ofText pattern
  let steps ← (pieces (relative pattern)).mapM fun p => GlobStep.ofWildcards <$> Wildcard.ofText p
  return { steps := collapse steps, directoriesOnly := pattern.getLast? == some '/' }

def below (directory : Text) : Glob :=
  { steps := (Text.split '/' (relative (Path.trimSlashes directory))).map .plain ++
      [.anyDirectories, .wild [.anySequence]]
    directoriesOnly := false }

variable (tree : FileTree) (directoriesOnly : Bool)

def isDirectoryAt (location : Location) : Bool :=
  match tree.get? location with
  | some .directory => true
  | _ => false

/-- The path of an entry in a directory; entries of the current directory are called by name. -/
def entryPath (directory entry : Text) : Text :=
  if Path.components directory = [.current] then entry else Path.join directory entry

/-- A path that matches the whole pattern. -/
def accept (path : Text) (location : Location) : List Text :=
  if directoriesOnly && !isDirectoryAt tree location then [] else [path]

/-- The dot entries of a directory that a name with wildcards matches only if it starts with a
dot. -/
def dotEntries (ws : List Wildcard) : List Text :=
  if ws.head? = some (.char '.') then
    [['.', '.'], ['.']].filter (Wildcard.matchName ws)
  else []

/-- The paths that match a pattern below a path, which leads to a location. -/
def search (steps : List GlobStep) (path : Text) (location : Location) : List Text :=
  match steps with
  | [] => accept tree directoriesOnly path location
  | .plain name :: rest =>
    let next := entryPath path name
    match if next.isEmpty then none else (tree.step location name).toOption with
    | some found => search rest next found
    | none => []
  | .wild ws :: rest =>
    if isDirectoryAt tree location then
      let dots := (dotEntries ws).flatMap fun name =>
        match tree.step location name with
        | .ok found => search rest (Path.join path name) found
        | .error _ => []
      let named := (tree.children location).flatMap fun name =>
        if Wildcard.matchName ws name then search rest (entryPath path name) (location ++ [name])
        else []
      dots ++ named
    else []
  | .anyDirectories :: rest =>
    (tree.children location).attach.flatMap fun ⟨name, h⟩ =>
      have := FileTree.length_lt_height h
      let next := entryPath path name
      let found := location ++ [name]
      let here :=
        match rest with
        | [] => if isDirectoryAt tree found then [next] else []
        | step :: rest => if step.matches name then search rest next found else []
      here ++
        if isDirectoryAt tree found then search (.anyDirectories :: rest) next found else []
termination_by (steps.length, tree.height - location.length)

section Search

variable {tree directoriesOnly} {path name : Text} {location found : Location}

theorem search_plain (rest : List GlobStep) (hnext : entryPath path name ≠ [])
    (hfound : tree.step location name = .ok found) :
    search tree directoriesOnly (.plain name :: rest) path location =
      search tree directoriesOnly rest (entryPath path name) found := by
  rw [search]
  simp [hnext, hfound, Except.toOption]

theorem search_star (hdirectory : isDirectoryAt tree location = true) :
    search tree false [.wild [.anySequence]] path location =
      (tree.children location).map (entryPath path) := by
  rw [search, if_pos hdirectory, List.map_eq_flatMap]
  simp [dotEntries, Wildcard.matchName_anySequence, search, accept]

/-- Below a directory that holds only files is just what is in it. -/
theorem search_below (hfiles : ∀ name ∈ tree.children location,
      isDirectoryAt tree (location ++ [name]) = false) :
    search tree false [.anyDirectories, .wild [.anySequence]] path location =
      (tree.children location).map (entryPath path) := by
  have hattach : (tree.children location).map (entryPath path) =
      (tree.children location).attach.flatMap fun name => [entryPath path name.1] := by
    simp [← List.map_eq_flatMap]
  rw [search, hattach]
  congr 1
  funext ⟨name, hname⟩
  simp [hfiles name hname, GlobStep.matches, Wildcard.matchName_anySequence, search, accept]

end Search

/-- The paths of a tree that match a pattern, from the root or from the current directory. -/
def paths (pattern : Text) (glob : Glob) : List Text :=
  let scope := if Path.isAbsolute pattern then ['/'] else ['.']
  search tree glob.directoriesOnly glob.steps scope (tree.start pattern)

end Glob

end ApiNotes
