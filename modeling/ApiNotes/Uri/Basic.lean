import ApiNotes.Uri.Host
import ApiNotes.Uri.Path

/-! # The path of a URI

A URI is read as browsers read it: blanks around it and tabs and line ends inside it do not count,
and the scheme decides how the rest is read. The only thing kept is the path.
-/

namespace ApiNotes.Uri

inductive SchemeKind where
  /-- The schemes of the web, where a host follows any number of slashes. -/
  | web
  | file
  | other
  deriving DecidableEq

def webSchemes : List Text := ["http", "https", "ws", "wss", "ftp"].map String.toList

def kindOf (scheme : Text) : SchemeKind :=
  if scheme = "file".toList then .file
  else if webSchemes.contains scheme then .web
  else .other

/-- Spaces and controls do not count at the ends. -/
def isOuter (c : Char) : Bool := c ≤ ' '

/-- Tabs and line ends do not count anywhere. -/
def isInner (c : Char) : Bool := c == '\t' || c == '\n' || c == '\r'

def clean (s : Text) : Text :=
  (Text.dropEndWhile isOuter (s.dropWhile isOuter)).filter fun c => !isInner c

def scheme? (s : Text) : Option (Text × Text) :=
  let scheme := s.takeWhile fun c => c.isAlphanum || ['+', '-', '.'].contains c
  match s.drop scheme.length with
  | ':' :: rest => if s.head?.any Char.isAlpha then some (scheme.map Char.toLower, rest) else none
  | _ => none

def isSlash (backslash : Bool) (c : Char) : Bool := c == '/' || (backslash && c == '\\')

/-- The text up to the last at sign, if there is one, and the text after it. -/
def splitUser (authority : Text) : Option Text × Text :=
  let host := (authority.reverse.takeWhile (· != '@')).reverse
  if host.length = authority.length then (none, authority)
  else (some (authority.take (authority.length - host.length - 1)), host)

/-- The host, which ends at a colon outside brackets, and what follows it. -/
def splitHost (bracket : Bool) : Text → Text × Text
  | [] => ([], [])
  | c :: s =>
    if c = ':' && !bracket then ([], c :: s)
    else
      let (host, rest) := splitHost (c == '[' || (bracket && c != ']')) s
      (c :: host, rest)

/-- What follows a number below 2 ^ 16, which may be left out. It ends the authority, or a backslash
follows it. -/
def afterNumber? (s : Text) : Option Text :=
  let digits := s.takeWhile Char.isDigit
  let rest := s.drop digits.length
  let isPort := (Text.digitsValue? 10 digits).any (· < UInt16.size)
  if isPort && rest.head?.all (· == '\\') then some rest
  else none

def afterHost? (web credentials : Bool) (s : Text) : Option Text :=
  let (host, rest) := splitHost false s
  let right :=
    if web then !host.isEmpty && isHost host
    else isOpaqueHost host && (!host.isEmpty || (rest.isEmpty && !credentials))
  if right then
    match rest with
    | ':' :: number => afterNumber? number
    | _ => some rest
  else none

def pathFrom (web : Bool) (s : Text) : Text :=
  match s with
  | [] => if web then ['/'] else []
  | c :: s =>
    if web then addPath false true ['/'] (if isSlash true c then s else c :: s)
    else if c == '?' || c == '#' then []
    else addPath false false (if c == '/' then [] else ['/']) (c :: s)

def authorityPath? (web : Bool) (s : Text) : Option Text := do
  let ends := fun c => isSlash web c || c == '?' || c == '#'
  let authority := s.takeWhile fun c => !ends c
  let rest := s.drop authority.length
  let (user, host) := splitUser authority
  if user = some [] && host.isEmpty && !rest.isEmpty then none
  else
    let credentials := user.any fun u => u != [] && u != [':']
    let remainder ← afterHost? web credentials host
    return pathFrom web (remainder ++ rest)

def filePath (s : Text) : Text := '/' :: (addPath true true ['/'] s).dropWhile (· == '/')

def filePath? (s : Text) : Option Text :=
  match s with
  | a :: b :: rest =>
    if isSlash true a && isSlash true b then
      let host := rest.takeWhile fun c => !isDelimiter c
      let after := rest.drop host.length
      if isDriveLetter host then some (filePath rest)
      else if host.isEmpty || isHost host then
        some (filePath (if after.head?.any (isSlash true) then after.tail else after))
      else none
    else some (filePath (if isSlash true a then b :: rest else s))
  | [a] => some (filePath (if isSlash true a then [] else s))
  | [] => some (filePath [])

def path? (s : Text) : Option Text := do
  let (scheme, rest) ← scheme? (clean s)
  match kindOf scheme with
  | .web => authorityPath? true (rest.dropWhile (isSlash true))
  | .file => filePath? rest
  | .other =>
    match rest with
    | '/' :: '/' :: authority => authorityPath? false authority
    | '/' :: path => some (addPath false false ['/'] path)
    | _ => some ((beforeQuery rest).flatMap (percentEncode isControlOrWide))

/-- The path that a base URI mounts an interface under: nothing for the root, and a text that is
no URI mounts it under itself if it starts with a slash. -/
def basePath (s : Text) : Text :=
  match path? s with
  | some p => if p = ['/'] then [] else p
  | none => if s.head? = some '/' then s else []

end ApiNotes.Uri
