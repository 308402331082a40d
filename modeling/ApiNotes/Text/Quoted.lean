import ApiNotes.Text.Basic
import ApiNotes.Text.Invisible

/-! # Quoted text

A text between double quotes in which every character can be told: quotes, backslashes and line
controls have short escapes, and what does not show by itself is written as its code point.
-/

namespace ApiNotes.Text

def codePoint (c : Char) : Text := "\\u\x7b".toList ++ Nat.toDigits 16 c.toNat ++ ['\x7d']

def quoteChar (c : Char) : Text :=
  if c = '"' then ['\\', '"']
  else if c = '\\' then ['\\', '\\']
  else if c = '\n' then ['\\', 'n']
  else if c = '\r' then ['\\', 'r']
  else if c = '\t' then ['\\', 't']
  else if c.toNat = 0 then ['\\', '0']
  else if c ≠ ' ' && isInvisible c then codePoint c
  else [c]

def quoted (s : Text) : Text := '"' :: s.flatMap quoteChar ++ ['"']

end ApiNotes.Text
