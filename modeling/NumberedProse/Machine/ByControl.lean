import NumberedProse.Machine.Executor

/-!
# Execution by control alone

An executor that ignores the statements and does what the control of each block says.  Conditions
are put to a decider.  Lines can be set to fail the first time they run; a line that fails has
installed its error handler before.
-/

namespace NumberedProse

/-- Decides conditions, given the line and the predicate, and keeps a state. -/
abbrev Decider (π : Type) := π → LineNumber → String → Bool × π

/-- The state of an executor by control. -/
structure ControlState (π : Type) where
  /-- The state of the decider. -/
  decider : π
  /-- The lines that are to fail once. -/
  pending : List LineNumber
deriving Repr, DecidableEq

namespace ControlState

variable {π : Type}

/-- The operations of a control, once a condition has been decided. -/
def operations (decide : Decider π) (line : LineNumber) (asking : π) :
    Control → List Operation × π
  | .fallthrough => ([], asking)
  | .jump target => ([.jump target], asking)
  | .branch target predicate =>
      let (holds, asking) := decide asking line predicate
      (if holds then [.jump target] else [], asking)
  | .call target => ([.call target], asking)
  | .ret => ([.ret], asking)

end ControlState

/-- **The executor that goes by control alone.** -/
def Executor.byControl {π : Type} (decide : Decider π) : Executor (ControlState π) :=
  fun state block _ =>
    let line := block.number
    let installs := block.handler.toList.map Operation.setHandler
    if line ∈ state.pending then
      (⟨installs, some s!"injected fault at line {line}"⟩,
        { state with pending := state.pending.filter (· ≠ line) })
    else
      let (moves, decider) := ControlState.operations decide line state.decider block.control
      (⟨installs ++ moves, none⟩, { state with decider := decider })

/-- The decider that takes the branches of the given lines and no others. -/
def Decider.taking (lines : List LineNumber) : Decider Unit :=
  fun _ line _ => (lines.contains line, ())

end NumberedProse
