import ApiNotes.Uri.Percent

/-! # Paths of a URI

Segments are added to a path one by one. A segment of one dot adds nothing, a segment of two dots
takes the last segment back, and a drive letter is never taken back.
-/

namespace ApiNotes.Uri

def isSingleDot (s : Text) : Bool :=
  [".".toList, "%2e".toList].contains (s.map Char.toLower)

def isDoubleDot (s : Text) : Bool :=
  ["..".toList, "%2e.".toList, ".%2e".toList, "%2e%2e".toList].contains (s.map Char.toLower)

/-- A letter and a colon or a bar. -/
def isDriveLetter : Text → Bool
  | [c, d] => c.isAlpha && (d == ':' || d == '|')
  | _ => false

def isDelimiter (c : Char) : Bool := c == '/' || c == '\\' || c == '?' || c == '#'

def startsWithDrive : Text → Bool
  | c :: a :: b :: s => isDelimiter c && isDriveLetter [a, b] && s.head?.all isDelimiter
  | _ => false

def lastSegment (p : Text) : Text := (p.reverse.takeWhile (· != '/')).reverse

def uptoLastSlash (p : Text) : Text := Text.dropEndWhile (· != '/') p

/-- The slash at the end of a path goes before its last segment is taken back, unless it is the
first or follows a drive letter. -/
def dropFinalSlash (p : Text) : Text :=
  let before := p.dropLast
  if before.contains '/' && !startsWithDrive ('/' :: lastSegment before ++ ['/']) then before else p

def ascend (file : Bool) (p : Text) : Text :=
  let p := if p.getLast? = some '/' then dropFinalSlash p else p
  if file && isDriveLetter (lastSegment p) && (lastSegment p).getLast? = some ':' then p
  else uptoLastSlash p

def endWithSlash (p : Text) : Text := if p.getLast? = some '/' then p else p ++ ['/']

/-- Add a segment to a path; `more` says that a slash follows it. -/
def addSegment (file more : Bool) (p segment : Text) : Text :=
  let slash := if more then ['/'] else []
  if isDoubleDot segment then if more then endWithSlash (ascend file p) else ascend file p
  else if isSingleDot segment then endWithSlash p
  else if file && p.length == 1 && isDriveLetter segment then p ++ segment.take 1 ++ ':' :: slash
  else p ++ segment ++ slash

def addSegments (file : Bool) (p : Text) : List Text → Text
  | [] => p
  | [segment] => addSegment file false p segment
  | segment :: segments => addSegments file (addSegment file true p segment) segments

def beforeQuery (s : Text) : Text := s.takeWhile fun c => c != '?' && c != '#'

def encodeSegment (s : Text) : Text := s.flatMap (percentEncode escapedInPath)

/-- Add the path that a text starts with; `backslash` says that a backslash divides segments too. -/
def addPath (file backslash : Bool) (p s : Text) : Text :=
  let s := (beforeQuery s).map fun c => if backslash && c == '\\' then '/' else c
  addSegments file p ((Text.split '/' s).map encodeSegment)

end ApiNotes.Uri
