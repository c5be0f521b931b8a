/-!
# Splitting

Cuts a text at every occurrence of a character.  There is always one piece more than there are
cuts, so an empty text has one empty piece.
-/

namespace NumberedProse.Text

/-- **The pieces between the separators.** -/
def split (separator : Char) (text : List Char) : List (List Char) :=
  let (first, others) := text.foldr
    (fun c (first, others) =>
      if c == separator then ([], first :: others) else (c :: first, others)) ([], [])
  first :: others

end NumberedProse.Text
