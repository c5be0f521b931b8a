/-!
# Numbered lines

A program is written as lines of prose, each with a number in front and perhaps a task hint in
parentheses: `10 (redis) load the cart`.
-/

namespace NumberedProse

/-- **The number of a line,** from 1 to 2³² - 1.  Zero names no line of a program, but it can be
asked for. -/
abbrev LineNumber := UInt32

/-- One line of a program. -/
structure Line where
  number : LineNumber
  /-- The task hint, lower-cased; without one the kind of task is left open. -/
  hint : Option String
  /-- The instruction: what remains after the number and the hint. -/
  text : String
deriving Repr, DecidableEq

/-- The line in the form it is written in. -/
def Line.render (line : Line) : String :=
  let hint := match line.hint with
    | some hint => s!" ({hint})"
    | none => ""
  let text := if line.text.isEmpty then "" else " " ++ line.text
  s!"{line.number}{hint}{text}"

end NumberedProse
