import ApiNotes.Text.Case
import ApiNotes.Text.Invisible
import ApiNotes.Uri.Address
import ApiNotes.Uri.Percent
import ApiNotes.Uri.Refused

/-! # Hosts

Which texts are hosts. In the schemes of the web a host is an address or a domain name, whose
letters may be outside ASCII or written in the ASCII form that starts with `xn--`. In other schemes
it is any text without delimiters, or an address in brackets.
-/

namespace ApiNotes.Uri

def isForbiddenInDomain (c : Char) : Bool :=
  c.toNat ≤ 0x20 || c.toNat == 0x7F ||
    ['%', '#', '/', ':', '<', '>', '?', '@', '[', '\\', ']', '^', '|'].contains c

def isWide (c : Char) : Bool := 0x80 ≤ c.toNat

/-- Digits outside ASCII: the first and last code point, and the value of the first. -/
def wideNumbers : List (Nat × Nat × Nat) :=
  [(0xB2, 0xB3, 2), (0xB9, 0xB9, 1), (0x2070, 0x2070, 0), (0x2074, 0x2079, 4),
    (0x2080, 0x2089, 0), (0x2460, 0x2473, 1), (0x24EA, 0x24EA, 0), (0x3251, 0x325F, 21),
    (0x32B1, 0x32BF, 36), (0x1D7CE, 0x1D7D7, 0), (0x1D7D8, 0x1D7E1, 0), (0x1D7E2, 0x1D7EB, 0),
    (0x1D7EC, 0x1D7F5, 0), (0x1D7F6, 0x1D7FF, 0), (0x1FBF0, 0x1FBF9, 0)]

/-- The form that a character takes in a domain name: numbers, dots and the wide forms of ASCII
become ASCII, and letters become small. -/
def domainForm (c : Char) : Text :=
  let n := c.toNat
  if n < 0x80 then [c.toLower]
  else if isDropped c then []
  else if n == 0x3002 || n == 0xFF61 then ['.']
  else if 0xFF01 ≤ n && n ≤ 0xFF5E then [(Char.ofNat (n - 0xFEE0)).toLower]
  else
    match wideNumbers.find? fun (first, last, _) => first ≤ n && n ≤ last with
    | some (first, _, value) => Text.ofNat (value + (n - first))
    | none => [c]

/-- The threshold of a digit at a position in the digits of one number. -/
def threshold (bias k : Nat) : Nat := if k ≤ bias then 1 else if bias + 26 ≤ k then 26 else k - bias

def punycodeDigit? (c : Char) : Option Nat :=
  if 'a' ≤ c ∧ c ≤ 'z' then some (c.toNat - 'a'.toNat)
  else if 'A' ≤ c ∧ c ≤ 'Z' then some (c.toNat - 'A'.toNat)
  else if c.isDigit then some (c.toNat - '0'.toNat + 26)
  else none

/-- A step divided by 35, at most `n` times, until it is no more than 455, and the number of
divisions. -/
def shrink : (n : Nat) → Nat → Nat × Nat
  | 0, delta => (delta, 0)
  | n + 1, delta =>
    if 455 < delta then
      let (delta, k) := shrink n (delta / 35)
      (delta, k + 1)
    else (delta, 0)

/-- The next bias, from the last step, the length so far and whether it was the first step. Steps
are below 2 ^ 32, so six divisions are enough. -/
def adapt (delta length : Nat) (first : Bool) : Nat :=
  let delta := if first then delta / 700 else delta / 2
  let (delta, k) := shrink 6 (delta + delta / length)
  36 * k + 36 * delta / (delta + 38)

/-- The state of decoding: the text so far, the code point, the position and the bias, and the
number that is being read, with its weight and the position of the next digit in it. -/
structure Punycode where
  text : Text
  code : Nat := 0x80
  position : Nat := 0
  bias : Nat := 72
  number : Nat := 0
  weight : Nat := 1
  k : Nat := 36

namespace Punycode

def insert? (st : Punycode) (number : Nat) : Option Punycode :=
  let length := st.text.length + 1
  let total := st.position + number
  let code := st.code + total / length
  let position := total % length
  if code < 0x110000 && !(0xD800 ≤ code && code < 0xE000) then
    some
      { text := st.text.take position ++ Char.ofNat code :: st.text.drop position
        code
        position := position + 1
        bias := adapt number length (st.position == 0) }
  else none

def digit? (st : Punycode) (c : Char) : Option Punycode := do
  let digit ← punycodeDigit? c
  let number := st.number + digit * st.weight
  if UInt32.size ≤ number then none
  else
    let t := threshold st.bias st.k
    if digit < t then st.insert? number
    else some { st with number, weight := st.weight * (36 - t), k := st.k + 36 }

end Punycode

/-- The text before the last hyphen and the text after it; without a hyphen nothing is before. -/
def splitLastHyphen (s : Text) : Text × Text :=
  let tail := (s.reverse.takeWhile (· != '-')).reverse
  (s.take (s.length - tail.length - 1), tail)

def decodePunycode? (s : Text) : Option Text := do
  let (basic, digits) := splitLastHyphen s
  let st ← digits.foldlM Punycode.digit? { text := basic }
  if st.k == 36 then some st.text else none

/-- A label is refused if one of its characters is, or if it starts with a mark. -/
def isLabel (l : Text) : Bool :=
  !l.any isRefused && !l.head?.any fun c => isWide c && isInvisible c

/-- A label in ASCII form has to stand for a label that needs one. -/
def isAsciiForm (l : Text) : Bool :=
  match Text.after? "xn--".toList l with
  | none => true
  | some s =>
    match decodePunycode? s with
    | none => false
    | some t => t.any isWide && isLabel t && t.flatMap domainForm == t

def isDomain (s : Text) : Bool :=
  !s.isEmpty && !s.any isForbiddenInDomain &&
    (Text.split '.' s).all fun l => isLabel l && isAsciiForm l

def bracketed6 (s : Text) : Bool := s.getLast? == some ']' && isAddress6 s.tail.dropLast

def isHost (s : Text) : Bool :=
  if s.head? = some '[' then bracketed6 s
  else
    match Text.ofBytes? ⟨(percentDecode s).toArray⟩ with
    | none => false
    | some decoded =>
      let domain := decoded.flatMap domainForm
      isDomain domain && (!endsInNumber domain || isAddress4 domain)

def isForbiddenInHost (c : Char) : Bool :=
  c.toNat == 0 ||
    ['\t', '\n', '\r', ' ', '#', '/', ':', '<', '>', '?', '@', '[', '\\', ']', '^', '|'].contains c

/-- The hosts in other schemes, which may be empty. -/
def isOpaqueHost (s : Text) : Bool :=
  if s.head? = some '[' then bracketed6 s else !s.any isForbiddenInHost

end ApiNotes.Uri
