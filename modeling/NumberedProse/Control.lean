import NumberedProse.Line

/-!
# Control

What a line does to the order of execution.  Installing an error handler does not move control,
so it stands beside the control of a line and not among its kinds.
-/

namespace NumberedProse

/-- Where control goes after a line. -/
inductive Control where
  /-- On to the next line in program order. -/
  | fallthrough
  /-- To the target. -/
  | jump (target : LineNumber)
  /-- To the target if the predicate holds, else on to the next line.  The predicate is the
  condition as it was written; nothing here interprets it. -/
  | branch (target : LineNumber) (predicate : String)
  /-- To the target, and later back to the next line. -/
  | call (target : LineNumber)
  /-- Back to the line after the latest open call. -/
  | ret
deriving Repr, DecidableEq

namespace Control

/-- The line the control names, if it names one. -/
def target? : Control → Option LineNumber
  | jump target | branch target _ | call target => some target
  | fallthrough | ret => none

/-- Whether execution can go on to the next line in program order. -/
def fallsThrough : Control → Bool
  | fallthrough | branch _ _ => true
  | jump _ | call _ | ret => false

/-- A short name for the kind of control. -/
def name : Control → String
  | fallthrough => "fallthrough"
  | jump _ => "goto"
  | branch _ _ => "if-goto"
  | call _ => "call"
  | ret => "return"

/-- The control spelled out. -/
def render : Control → String
  | fallthrough => "fallthrough"
  | jump target => s!"goto {target}"
  | branch target predicate => s!"if ({predicate}) goto {target}"
  | call target => s!"call {target}"
  | ret => "return"

end Control

/-- The control of one line. -/
structure LineControl where
  number : LineNumber
  control : Control
  /-- The line that handles errors from here on, if this line installs one. -/
  handler : Option LineNumber
deriving Repr, DecidableEq

/-- A line that neither moves control nor installs a handler. -/
def LineControl.plain (number : LineNumber) : LineControl := ⟨number, .fallthrough, none⟩

/-- The ways in which a line can name another. -/
inductive TransferKind where
  | jump | branch | call | handler
deriving Repr, DecidableEq

/-- The kind in words. -/
def TransferKind.render : TransferKind → String
  | jump => "goto"
  | branch => "conditional goto"
  | call => "call"
  | handler => "error handler"

end NumberedProse
