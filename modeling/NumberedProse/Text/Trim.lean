import NumberedProse.Text.Blank

/-!
# Trimming

Blank characters at the ends of a text carry no meaning anywhere in a program.
-/

namespace NumberedProse.Text

/-- A text without the blanks at its start. -/
def trimStart (text : List Char) : List Char := text.dropWhile isBlank

/-- A text without the blanks at its end. -/
def trimEnd (text : List Char) : List Char := (text.reverse.dropWhile isBlank).reverse

/-- A text without the blanks at either end. -/
def trim (text : List Char) : List Char := trimEnd (trimStart text)

end NumberedProse.Text
