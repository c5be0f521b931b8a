import NumberedProse.Control
import NumberedProse.Program
import NumberedProse.Text.Column

/-!
# Overview of a program

One row for each line: its number, its hint, the kind of its control and where it leads, the
handler it installs, and its instruction.  Rows can be coloured for a terminal.
-/

namespace NumberedProse

/-- How an overview is printed. -/
structure OverviewStyle where
  /-- Whether the parts of a row are coloured. -/
  color : Bool
  /-- Whether the instruction ends the row. -/
  withText : Bool

namespace OverviewStyle

/-- The colours of an overview. -/
inductive Color where
  | dim | green | yellow | cyan | magenta
deriving Repr, DecidableEq

/-- The terminal's code for a colour. -/
def Color.code : Color → String
  | dim => "\x1b[2m"
  | green => "\x1b[32m"
  | yellow => "\x1b[33m"
  | cyan => "\x1b[36m"
  | magenta => "\x1b[35m"

/-- A text in a colour, if the style has colours. -/
def paint (style : OverviewStyle) (color : Color) (text : String) : String :=
  if style.color then color.code ++ text ++ "\x1b[0m" else text

/-- The colour of a kind of control. -/
def controlColor : Control → Color
  | .fallthrough => .dim
  | .jump _ | .branch _ _ => .cyan
  | .call _ | .ret => .green

/-- Where a line leads. -/
def destination : Control → String
  | .jump target | .call target => s!" -> {target}"
  | .branch target predicate => s!" -> {target} if ({predicate})"
  | .fallthrough | .ret => ""

/-- One row, ended by a line feed. -/
def row (style : OverviewStyle) (line : Line) (c : LineControl) : String :=
  let number := Text.zeroPadded 5 line.number.toNat
  let hint := style.paint .yellow (Text.padRight 10 (line.hint.getD "-"))
  let kind := style.paint (controlColor c.control) (Text.padRight 8 c.control.name)
  let handler := match c.handler with
    | some handler => " " ++ style.paint .magenta s!"on error -> {handler}"
    | none => ""
  let text :=
    if style.withText && !line.text.isEmpty then "  " ++ style.paint .dim line.text else ""
  s!"[{number}] {hint} {kind}" ++ destination c.control ++ handler ++ text ++ "\n"

end OverviewStyle

/-- **The overview of a program,** given the control of its lines in program order. -/
def Program.overview (program : Program) (controls : List LineControl) (style : OverviewStyle) :
    String :=
  String.join (List.zipWith style.row program.lines.toList controls)

end NumberedProse
