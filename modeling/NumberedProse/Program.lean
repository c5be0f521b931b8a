import NumberedProse.Numbered

/-!
# Programs

The lines of a program in the order of their numbers, whatever the order they were written in.
Program order always means this order.
-/

namespace NumberedProse

/-- At least one line, in strictly increasing order of number. -/
structure Program where
  lines : Array Line
  increasing : lines.toList.Pairwise (fun a b => a.number < b.number)
  nonempty : 0 < lines.size
deriving Repr, DecidableEq

namespace Program

/-- The number of the first line, where a run begins. -/
def entry (program : Program) : LineNumber :=
  have := program.nonempty
  program.lines[0].number

/-- The line numbers in program order. -/
def numbers (program : Program) : List LineNumber := program.lines.toList.map Line.number

/-- The position of a line number in program order. -/
def position? (program : Program) (n : LineNumber) : Option Nat :=
  Numbered.position? Line.number program.lines n

/-- Whether the program has a line with this number. -/
def contains (program : Program) (n : LineNumber) : Bool := (program.position? n).isSome

/-- The line with this number. -/
def get? (program : Program) (n : LineNumber) : Option Line :=
  (program.position? n).bind fun i => program.lines[i]?

/-- The number of the next line in program order; the last line has none. -/
def successor? (program : Program) (n : LineNumber) : Option LineNumber :=
  Numbered.successor? Line.number program.lines n

end Program

end NumberedProse
