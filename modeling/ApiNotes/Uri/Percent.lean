import ApiNotes.Text.Basic

/-! # Percent encoding

A byte is written as a percent sign and two hexadecimal digits.
-/

namespace ApiNotes.Uri

def hexByte (n : Nat) : Text :=
  [Nat.digitChar (n / 16), Nat.digitChar (n % 16)].map Char.toUpper

/-- A character as the percent-encoded bytes of its UTF-8 form, if `escaped` says so. -/
def percentEncode (escaped : Char → Bool) (c : Char) : Text :=
  if escaped c then (String.utf8EncodeChar c).flatMap fun b => '%' :: hexByte b.toNat else [c]

def isControlOrWide (c : Char) : Bool := c.toNat < 0x20 || 0x7F ≤ c.toNat

def escapedInPath (c : Char) : Bool :=
  isControlOrWide c || [' ', '"', '#', '<', '>', '?', '`', '\x7b', '\x7d'].contains c

/-- The bytes of a text, where a percent sign and two hexadecimal digits stand for one byte. -/
def percentDecode : Text → List UInt8
  | [] => []
  | '%' :: a :: b :: s =>
    match hexValue? a, hexValue? b with
    | some h, some l => UInt8.ofNat (16 * h + l) :: percentDecode s
    | _, _ => '%'.toUInt8 :: percentDecode (a :: b :: s)
  | c :: s => String.utf8EncodeChar c ++ percentDecode s

end ApiNotes.Uri
