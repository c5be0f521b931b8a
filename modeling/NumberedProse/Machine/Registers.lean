import NumberedProse.Line

/-!
# Registers

The state of control that the blocks of a running program share: the stack of open calls and the
active error handler.
-/

namespace NumberedProse

/-- Where control goes: to a line, or out of the program. -/
inductive Destination where
  | line (number : LineNumber)
  | halt
deriving Repr, DecidableEq

namespace Destination

/-- The next line in program order; after the last line the program halts. -/
def ofSuccessor : Option LineNumber → Destination
  | some number => line number
  | none => halt

/-- The destination in words. -/
def render : Destination → String
  | line number => toString number
  | halt => "halt"

end Destination

/-- **The stack of open calls.**  Its depth is asked for at every step, so it is kept beside the
frames. -/
structure CallStack where
  /-- Where open calls come back to, the latest call first. -/
  returns : List Destination
  /-- The number of open calls. -/
  depth : Nat
  depth_eq : depth = returns.length
deriving Repr, DecidableEq

namespace CallStack

/-- No open call. -/
def empty : CallStack := ⟨[], 0, rfl⟩

/-- Where open calls come back to, the earliest call first. -/
def frames (stack : CallStack) : List Destination := stack.returns.reverse

/-- Opens a call that comes back to the given place. -/
def push (stack : CallStack) (back : Destination) : CallStack where
  returns := back :: stack.returns
  depth := stack.depth + 1
  depth_eq := by simp [stack.depth_eq]

/-- **Closes the latest call,** if one is open. -/
def pop? (stack : CallStack) : Option (Destination × CallStack) :=
  match h : stack.returns with
  | [] => none
  | top :: rest => some (top, ⟨rest, stack.depth - 1, by simp [stack.depth_eq, h]⟩)

end CallStack

/-- Open calls and the error handler. -/
structure Registers where
  stack : CallStack
  /-- The line that handles faults. -/
  handler : Option LineNumber
deriving Repr, DecidableEq

namespace Registers

/-- No open call, no handler. -/
def empty : Registers := ⟨.empty, none⟩

/-- Opens a call that comes back to the given place. -/
def push (registers : Registers) (back : Destination) : Registers :=
  { registers with stack := registers.stack.push back }

/-- Closes the latest call, if one is open. -/
def pop? (registers : Registers) : Option (Destination × Registers) :=
  registers.stack.pop?.map fun (top, stack) => (top, { registers with stack := stack })

/-- Forgets all open calls. -/
def clearStack (registers : Registers) : Registers := { registers with stack := .empty }

/-- Makes a line the error handler. -/
def setHandler (registers : Registers) (handler : LineNumber) : Registers :=
  { registers with handler := some handler }

/-- Forgets the error handler. -/
def clearHandler (registers : Registers) : Registers := { registers with handler := none }

/-- Forgets everything. -/
def reset (registers : Registers) : Registers := registers.clearStack.clearHandler

end Registers

end NumberedProse
