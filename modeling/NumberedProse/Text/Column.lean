/-!
# Columns of a printed table

Padding counts characters, and a text wider than its column is kept whole.
-/

namespace NumberedProse.Text

/-- `count` copies of a character. -/
def fill (c : Char) (count : Nat) : String := String.ofList (List.replicate count c)

/-- The text at the left of a column of the given width. -/
def padRight (width : Nat) (text : String) : String := text ++ fill ' ' (width - text.length)

/-- The text at the right of a column of the given width. -/
def padLeft (width : Nat) (text : String) : String := fill ' ' (width - text.length) ++ text

/-- A number with at least the given number of digits. -/
def zeroPadded (width : Nat) (n : Nat) : String :=
  let digits := toString n
  fill '0' (width - digits.length) ++ digits

end NumberedProse.Text
