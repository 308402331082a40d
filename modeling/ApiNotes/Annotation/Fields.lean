import ApiNotes.Text.Basic

/-! # Fields

The text of a tag line carries up to three tokens in any order: a type in braces, a group in
parentheses and a name, which is a bare word, a bracketed chunk or, for routes, a word that starts
with a slash. The description is what follows the token that ends last.
-/

namespace ApiNotes

/-- A range of character positions, without its end. -/
structure Span where
  start : Nat
  stop : Nat
  deriving DecidableEq, Repr

namespace Span

def overlaps (a b : Span) : Bool := a.start < b.stop && b.start < a.stop

def slice (span : Span) (s : Text) : Text := (s.drop span.start).take (span.stop - span.start)

def bytes (span : Span) (s : Text) : Span := ⟨s.byteOffset span.start, s.byteOffset span.stop⟩

end Span

inductive NameShape where
  /-- A bare word or a bracketed chunk. -/
  | word
  /-- A word after a blank, or at the start, that begins with a slash. -/
  | path
  deriving DecidableEq, Repr

structure Token where
  value : Text
  span : Span
  deriving DecidableEq, Repr

structure Fields where
  type : Option Token
  group : Option Token
  name : Option Token
  description : Text
  deriving DecidableEq, Repr

namespace Fields

/-- The text between the brackets `l` and `r`, if one opens right here and the first of the
characters `stops` after it is `r`. -/
def enclosed? (l r : Char) (stops : List Char) : Text → Option Text
  | [] => none
  | c :: s =>
    let inner := s.takeWhile fun d => !stops.contains d
    if c = l ∧ (s.drop inner.length).head? = some r then some inner else none

def braced? : Text → Option Text := enclosed? '\x7b' '\x7d' ['\x7b', '\x7d', '\n']

def parenthesized? : Text → Option Text := enclosed? '(' ')' ['(', ')', '\n']

def bracketed? : Text → Option Text := enclosed? '[' ']' [']', '\n']

def isBracket (c : Char) : Bool := ['\x7b', '\x7d', '(', ')', '[', ']'].contains c

def isWordChar (c : Char) : Bool := !isBlank c && !isBracket c

/-- How many characters the delimited chunk takes that `inner?` reads here. -/
def chunkLength? (inner? : Text → Option Text) (s : Text) : Option Nat :=
  (inner? s).map fun inner => inner.length + 2

def wordLength? (s : Text) : Option Nat :=
  (chunkLength? bracketed? s).or <|
    match (s.takeWhile isWordChar).length with
    | 0 => none
    | n + 1 => some (n + 1)

/-- The spans that `length?` recognizes from left to right, none of which overlap. The first
`skip` characters are inside a span already recognized. -/
def occurrences (length? : Text → Option Nat) (position skip : Nat) : Text → List Span
  | [] => []
  | c :: s =>
    match skip with
    | skip + 1 => occurrences length? (position + 1) skip s
    | 0 =>
      match length? (c :: s) with
      | some n => ⟨position, position + n⟩ :: occurrences length? (position + 1) (n - 1) s
      | none => occurrences length? (position + 1) 0 s

/-- The first bracketed chunk at the start of the text or after a blank; `fresh` says that the
current position is such a place. -/
def optional? (fresh : Bool) (position : Nat) : Text → Option Span
  | [] => none
  | c :: s =>
    match if fresh then chunkLength? bracketed? (c :: s) else none with
    | some n => some ⟨position, position + n⟩
    | none => optional? (isBlank c) (position + 1) s

/-- The words at the start of the text or after a blank that begin with a slash. -/
def paths (fresh : Bool) (position : Nat) : Text → List Span
  | [] => []
  | c :: s =>
    let later := paths (isBlank c) (position + 1) s
    if fresh && c == '/' then
      ⟨position, position + ((c :: s).takeWhile fun d => !isBlank d).length⟩ :: later
    else later

def firstFree (taken spans : List Span) : Option Span :=
  spans.find? fun span => !taken.any span.overlaps

/-- The token of a delimited chunk: its value is what stands between the delimiters, trimmed. -/
def chunkToken (s : Text) (span : Span) : Token :=
  ⟨((Span.mk (span.start + 1) (span.stop - 1)).slice s).trim, span⟩

def nameToken (s : Text) (span : Span) : Token := ⟨span.slice s, span⟩

/-- Braces and parentheses inside the first bracketed word belong to its default value. -/
def reserved (shape : NameShape) (s : Text) : List Span :=
  match shape with
  | .word => (optional? true 0 s).toList
  | .path => []

def names (shape : NameShape) (s : Text) : List Span :=
  match shape with
  | .word => occurrences wordLength? 0 0 s
  | .path => paths true 0 s

def ofText (shape : NameShape) (s : Text) : Fields :=
  let skip := reserved shape s
  let type := firstFree skip (occurrences (chunkLength? braced?) 0 0 s)
  let group := firstFree skip (occurrences (chunkLength? parenthesized?) 0 0 s)
  let name := firstFree (type.toList ++ group.toList) (names shape s)
  let stops := (type.toList ++ group.toList ++ name.toList).map Span.stop
  { type := type.map (chunkToken s)
    group := group.map (chunkToken s)
    name := name.map (nameToken s)
    description := Text.trim (s.drop (stops.foldl max 0)) }

end Fields

end ApiNotes
