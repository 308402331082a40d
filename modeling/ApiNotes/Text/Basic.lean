/-! # Text

Text is a list of characters. This module has the operations that every rule of the annotation
language is made of: classes of characters, trimming, cutting at a character and joining, and the
forms of a text as digits and as bytes.
-/

namespace ApiNotes

abbrev Text := List Char

/-- A class of characters as ranges of code points, ends included. -/
def inRanges (ranges : List (Nat × Nat)) (c : Char) : Bool :=
  ranges.any fun (first, last) => first ≤ c.toNat && c.toNat ≤ last

/-- The characters with the Unicode property White_Space. -/
def isBlank (c : Char) : Bool :=
  let n := c.toNat
  (0x9 ≤ n && n ≤ 0xD) || n == 0x20 || n == 0x85 || n == 0xA0 || n == 0x1680 ||
    (0x2000 ≤ n && n ≤ 0x200A) || n == 0x2028 || n == 0x2029 || n == 0x202F || n == 0x205F ||
    n == 0x3000

def hexValue? (c : Char) : Option Nat :=
  if c.isDigit then some (c.toNat - '0'.toNat)
  else if 'a' ≤ c ∧ c ≤ 'f' then some (c.toNat - 'a'.toNat + 10)
  else if 'A' ≤ c ∧ c ≤ 'F' then some (c.toNat - 'A'.toNat + 10)
  else none

namespace Text

def dropEndWhile (p : Char → Bool) (s : Text) : Text := (s.reverse.dropWhile p).reverse

def trimStart (s : Text) : Text := s.dropWhile isBlank

def trimEnd (s : Text) : Text := dropEndWhile isBlank s

def trim (s : Text) : Text := trimEnd (trimStart s)

/-- Text that is empty counts as absent. -/
def nonEmpty? (s : Text) : Option Text := if s.isEmpty then none else some s

def cut (sep : Char) : Text → Text × List Text
  | [] => ([], [])
  | c :: s =>
    let (piece, pieces) := cut sep s
    if c = sep then ([], piece :: pieces) else (c :: piece, pieces)

/-- The pieces between the occurrences of `sep`; there is always at least one. -/
def split (sep : Char) (s : Text) : List Text := (cut sep s).1 :: (cut sep s).2

def splitOnce? (sep : Char) : Text → Option (Text × Text)
  | [] => none
  | c :: s => if c = sep then some ([], s) else (splitOnce? sep s).map fun (a, b) => (c :: a, b)

def join (sep : Text) (pieces : List Text) : Text := sep.intercalate pieces

/-- The rest of a text after `lead`, if it starts with it. -/
def after? : (lead : Text) → Text → Option Text
  | [], s => some s
  | _ :: _, [] => none
  | c :: lead, d :: s => if c = d then after? lead s else none

def replace (c : Char) (new s : Text) : Text := s.flatMap fun d => if d = c then new else [d]

/-- Lexicographic order by code point, which is also the order of the UTF-8 bytes. -/
def compare : Text → Text → Ordering
  | [], [] => .eq
  | [], _ :: _ => .lt
  | _ :: _, [] => .gt
  | c :: s, d :: t => (Ord.compare c d).then (compare s t)

def le (s t : Text) : Bool := compare s t != .gt

def byteOffset (s : Text) (n : Nat) : Nat :=
  (s.take n).foldr (fun c size => c.utf8Size + size) 0

def ofNat (n : Nat) : Text := Nat.toDigits 10 n

def digitsValue? (base : Nat) (s : Text) : Option Nat :=
  s.foldlM (fun n c => (hexValue? c).bind fun d => if d < base then some (base * n + d) else none) 0

def toBytes (s : Text) : ByteArray := (String.ofList s).toUTF8

def ofBytes? (bytes : ByteArray) : Option Text := (String.fromUTF8? bytes).map String.toList

end Text

end ApiNotes
