import ApiNotes.Text.Basic

/-! # Numeric addresses

A host whose last label is a number has to be an address of four bytes; a host in brackets has to
be an address of eight groups.
-/

namespace ApiNotes.Uri

/-- The number in a label: hexadecimal after `0x`, octal after `0`, else decimal. -/
def labelNumber? : Text → Option Nat
  | [] => none
  | '0' :: 'x' :: s => Text.digitsValue? 16 s
  | '0' :: 'X' :: s => Text.digitsValue? 16 s
  | '0' :: c :: s => Text.digitsValue? 8 (c :: s)
  | s => Text.digitsValue? 10 s

/-- The labels of a domain name, without the empty one after a final dot. -/
def labels (domain : Text) : List Text :=
  let ls := Text.split '.' domain
  if ls.getLast? = some [] then ls.dropLast else ls

/-- The last label is a number, so the name is an address or nothing. -/
def endsInNumber (domain : Text) : Bool :=
  match (labels domain).getLast? with
  | some l => (!l.isEmpty && l.all Char.isDigit) || (labelNumber? l).isSome
  | none => false

/-- Up to four numbers, where the last one fills the bytes that are left. -/
def isAddress4 (domain : Text) : Bool :=
  match (labels domain).mapM labelNumber? with
  | some numbers =>
    let early := numbers.dropLast
    numbers.length ≤ 4 && early.all (· ≤ 255) &&
      numbers.getLast?.any (· < Nat.pow 256 (4 - early.length))
  | none => false

def isDecimalByte (s : Text) : Bool :=
  (s == ['0'] || s.head?.any (· != '0')) && s.all Char.isDigit &&
    (Text.digitsValue? 10 s).any (· ≤ 255)

def isDottedBytes (s : Text) : Bool :=
  let parts := Text.split '.' s
  parts.length == 4 && parts.all isDecimalByte

def isHexGroup (s : Text) : Bool :=
  1 ≤ s.length && s.length ≤ 4 && s.all fun c => (hexValue? c).isSome

/-- How many groups of an address a text between colons is. Only the last text may be dotted
bytes, which are two groups. -/
def countGroups? (dottedEnd : Bool) : List Text → Option Nat
  | [] => some 0
  | [s] => if isHexGroup s then some 1 else if dottedEnd && isDottedBytes s then some 2 else none
  | s :: ss => if isHexGroup s then (countGroups? dottedEnd ss).map (· + 1) else none

def groups? (dottedEnd : Bool) (s : Text) : Option Nat :=
  if s.isEmpty then some 0 else countGroups? dottedEnd (Text.split ':' s)

def splitDoubleColon? : Text → Option (Text × Text)
  | ':' :: ':' :: s => some ([], s)
  | c :: s => (splitDoubleColon? s).map fun (a, b) => (c :: a, b)
  | [] => none

/-- Eight groups, or fewer around one double colon. -/
def isAddress6 (s : Text) : Bool :=
  match splitDoubleColon? s with
  | none => groups? true s == some 8
  | some (a, b) =>
    match groups? false a, groups? true b with
    | some m, some n => m + n ≤ 7
    | _, _ => false

end ApiNotes.Uri
