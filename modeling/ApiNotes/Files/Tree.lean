import ApiNotes.Files.Path
import ApiNotes.Keyed

/-! # File trees

A file tree holds files and directories at locations, which are lists of names from the root of the
file system. Paths lead to locations step by step, from the root or from the current directory.
-/

namespace ApiNotes

inductive Node where
  | directory
  | file (content : ByteArray)

instance : DecidableEq Node
  | .directory, .directory => isTrue rfl
  | .directory, .file _ => isFalse nofun
  | .file _, .directory => isFalse nofun
  | .file content, .file content' =>
    match ByteArray.decEq content content' with
    | isTrue h => isTrue (congrArg Node.file h)
    | isFalse h => isFalse fun he => h (Node.file.inj he)

structure FileTree where
  entries : List (Location × Node)
  distinct : (entries.map Prod.fst).Nodup
  /-- Where the current directory is. -/
  current : Location := []

inductive FileError where
  | notFound
  | exists
  | notDirectory
  | isDirectory
  | nameTooLong
  deriving DecidableEq, Repr

def FileError.message : FileError → Text
  | .notFound => "No such file or directory (os error 2)".toList
  | .exists => "File exists (os error 17)".toList
  | .notDirectory => "Not a directory (os error 20)".toList
  | .isDirectory => "Is a directory (os error 21)".toList
  | .nameTooLong => "File name too long (os error 36)".toList

namespace FileTree

def empty : FileTree := { entries := [], distinct := List.nodup_nil }

def put (tree : FileTree) (location : Location) (node : Node) : FileTree :=
  { tree with
    entries := Keyed.put Prod.fst (location, node) tree.entries
    distinct := Keyed.nodup_put _ tree.distinct }

/-- What is at a location; the root is a directory. -/
def get? (tree : FileTree) (location : Location) : Option Node :=
  if location.isEmpty then some .directory
  else (Keyed.get? Prod.fst location tree.entries).map Prod.snd

/-- Put a node and the directories that lead to it. -/
def graft (tree : FileTree) (location : Location) (node : Node) : FileTree :=
  let directories := (List.range (location.length - 1)).map fun n => location.take (n + 1)
  (directories.foldl (fun t d => t.put d .directory) tree).put location node

def maxName : Nat := 255

/-- One step of a path from a location, which has to be a directory. Above the root is the root. -/
def step (tree : FileTree) (location : Location) (piece : Text) : Except FileError Location :=
  match tree.get? location with
  | some .directory =>
    if piece = [] ∨ piece = ['.'] then .ok location
    else if piece = ['.', '.'] then .ok location.dropLast
    else if maxName < Text.byteOffset piece piece.length then .error .nameTooLong
    else if (tree.get? (location ++ [piece])).isSome then .ok (location ++ [piece])
    else .error .notFound
  | some (.file _) => .error .notDirectory
  | none => .error .notFound

def start (tree : FileTree) (path : Text) : Location :=
  if Path.isAbsolute path then [] else tree.current

/-- The location to which a path leads; an empty path leads nowhere. -/
def resolve (tree : FileTree) (path : Text) : Except FileError Location :=
  if path.isEmpty then .error .notFound
  else (Text.split '/' path).foldlM tree.step (tree.start path)

def node? (tree : FileTree) (path : Text) : Option Node :=
  match tree.resolve path with
  | .ok location => tree.get? location
  | .error _ => none

def isDirectory (tree : FileTree) (path : Text) : Bool :=
  match tree.node? path with
  | some .directory => true
  | _ => false

def content? (tree : FileTree) (path : Text) : Option ByteArray :=
  match tree.node? path with
  | some (.file content) => some content
  | _ => none

def isFile (tree : FileTree) (path : Text) : Bool := (tree.content? path).isSome

/-- The name of an entry that is directly in a directory. -/
def nameIn? (location : Location) (entry : Location) : Option Text :=
  match entry.getLast? with
  | some name => if entry = location ++ [name] then some name else none
  | none => none

def children (tree : FileTree) (location : Location) : List Text :=
  (tree.entries.filterMap fun e => nameIn? location e.1).mergeSort Text.le

/-- No location of the tree has more names. -/
def height (tree : FileTree) : Nat := (tree.entries.map fun e => e.1.length).foldr max 0

theorem length_le_height {tree : FileTree} {e : Location × Node} (h : e ∈ tree.entries) :
    e.1.length ≤ tree.height := by
  unfold height
  generalize tree.entries = es at h
  induction es with
  | nil => simp at h
  | cons x xs ih =>
    simp only [List.map_cons, List.foldr_cons]
    rcases List.mem_cons.1 h with rfl | h
    · exact Nat.le_max_left _ _
    · exact Nat.le_trans (ih h) (Nat.le_max_right _ _)

theorem length_lt_height {tree : FileTree} {location : Location} {name : Text}
    (h : name ∈ tree.children location) : location.length < tree.height := by
  simp only [children, List.mem_mergeSort, List.mem_filterMap] at h
  obtain ⟨e, he, hn⟩ := h
  have hlen := length_le_height he
  simp only [nameIn?] at hn
  split at hn
  · split at hn
    · next h => simp only [h, List.length_append, List.length_singleton] at hlen; omega
    · simp at hn
  · simp at hn

/-- The location of the directory in which a path ends; a bare name ends in the current one. -/
def resolveParent (tree : FileTree) (path : Text) : Except FileError Location :=
  let directory := (Path.splitLast path).1
  tree.resolve (if directory.isEmpty then ['.'] else directory)

/-- The location that a path leads to or would lead to if its last name was there. -/
def newLocation (tree : FileTree) (path : Text) : Except FileError Location := do
  let location ← tree.resolveParent path
  let name := (Path.splitLast path).2
  match tree.step location name with
  | .error .notFound => return location ++ [name]
  | found => found

def makeDirectory (tree : FileTree) (path : Text) : Except FileError FileTree := do
  let location ← tree.newLocation (Path.trimSlashes path)
  if (tree.get? location).isSome then throw .exists else return tree.put location .directory

/-- Make a directory where `parents` are the directories that lead to it, the innermost first. It
is no fault if it is there already. -/
def makePath (tree : FileTree) (path : Text) : (parents : List Text) → Except FileError FileTree
  | [] => settle tree path (tree.makeDirectory path)
  | parent :: parents =>
    match tree.makeDirectory path with
    | .error .notFound => do
      let tree ← tree.makePath parent parents
      settle tree path (tree.makeDirectory path)
    | made => settle tree path made
where
  settle (tree : FileTree) (path : Text) (made : Except FileError FileTree) :
      Except FileError FileTree :=
    match made with
    | .ok tree => .ok tree
    | .error e => if tree.isDirectory path then .ok tree else .error e

def makeDirectories (tree : FileTree) (path : Text) : Except FileError FileTree :=
  tree.makePath path (Path.parents path)

def write (tree : FileTree) (path : Text) (content : ByteArray) : Except FileError FileTree := do
  let location ← tree.newLocation path
  match tree.get? location with
  | some .directory => throw .isDirectory
  | _ => return tree.put location (.file content)

/-- The files of a tree that another tree does not have like that. -/
def changes (before after : FileTree) : List (Location × ByteArray) :=
  after.entries.filterMap fun (location, node) =>
    match node with
    | .file content => if before.get? location = some node then none else some (location, content)
    | .directory => none

end FileTree

end ApiNotes
