import ApiNotes.Text.Basic
import ApiNotes.Text.CaseContext
import ApiNotes.Text.CaseTable

/-! # Upper and lower case

Case mapping of a text is the mapping of its characters, except that a capital sigma at the end of
a word becomes the final small sigma.
-/

namespace ApiNotes.Text

/-- The first character that is not ignored by case rules is a cased letter. -/
def meetsCased (s : Text) : Bool := ((s.dropWhile isCaseIgnorable).head?.map isCased).getD false

/-- Lower case, where `before` is the text before, in reverse. -/
def lowerAfter (before : Text) : Text → Text
  | [] => []
  | c :: s =>
    let form :=
      if c = 'Σ' then if meetsCased before && !meetsCased s then ['ς'] else ['σ'] else lowerChar c
    form ++ lowerAfter (c :: before) s

def lower (s : Text) : Text := lowerAfter [] s

def upper (s : Text) : Text := s.flatMap upperChar

end ApiNotes.Text
