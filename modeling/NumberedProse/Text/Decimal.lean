/-!
# Decimal numerals

Numbers are read from ASCII digits alone: no sign, no separators.  Leading zeros are welcome.
-/

namespace NumberedProse.Text

/-- **The number a numeral stands for,** if the text is one: at least one digit and nothing
else. -/
def decimal? (text : List Char) : Option Nat :=
  if !text.isEmpty && text.all Char.isDigit then some (Nat.ofDigitChars 10 text 0) else none

end NumberedProse.Text
