import NumberedProse.Control

/-!
# Faults of control

A program is checked as a whole: every fault of every line is reported, not only the first.
-/

namespace NumberedProse

/-- Why the control of a line cannot be carried out. -/
inductive ControlError where
  /-- The line named is not a line of the program. -/
  | unresolved (line : LineNumber) (target : LineNumber) (kind : TransferKind)
  /-- The number named is too large for a line number. -/
  | outOfRange (line : LineNumber) (target : Nat) (kind : TransferKind)
  /-- The line spells more than one transfer; their labels, in the order of the text. -/
  | ambiguous (line : LineNumber) (cues : List String)
deriving Repr, DecidableEq

namespace ControlError

/-- The line at fault. -/
def line : ControlError → LineNumber
  | unresolved line _ _ | outOfRange line _ _ | ambiguous line _ => line

/-- The wording of the error. -/
def message : ControlError → String
  | unresolved line target kind => s!"line {line}: {kind.render} target {target} does not exist"
  | outOfRange line target kind =>
      s!"line {line}: {kind.render} target {target} is not a valid line number"
  | ambiguous line cues =>
      let labels := ", ".intercalate cues
      s!"line {line}: ambiguous control transfer ({labels})\n" ++
        "  hint: split the transfers onto separate lines"

end ControlError

end NumberedProse
