import NumberedProse.Machine.Error
import NumberedProse.Machine.Executor

/-!
# One step

In dispatch mode a program counter says which line comes next.  A step counts itself against the
limit, finds the block of the line, has it executed, and settles where control goes:

* **a fault** goes to the active handler, whatever transfer the block asked for;
* **a transfer** is carried out, a call remembering the next line in program order;
* **otherwise** control goes on to the next line, or out of the program after the last.

A fault stays visible to later blocks until the handler changes.
-/

namespace NumberedProse

/-- The limits of a run. -/
structure Limits where
  /-- How many steps are allowed; `none` allows any number. -/
  steps : Option Nat
  /-- How many calls may be open at once. -/
  depth : Nat
deriving Repr, DecidableEq

namespace Limits

/-- How many steps are allowed unless another number is given. -/
def standardSteps : Nat := 1000000

/-- The limits unless others are given. -/
def standard : Limits := ⟨some standardSteps, 1000⟩

/-- The limit on steps, if a count of steps is beyond it. -/
def exceeded? (limits : Limits) (count : Nat) : Option Nat :=
  match limits.steps with
  | some limit => if limit < count then some limit else none
  | none => none

/-- A count of steps that is not beyond the limit is within it. -/
theorem le_of_exceeded?_eq_none {limits : Limits} {count limit : Nat}
    (hlimit : limits.steps = some limit) (h : limits.exceeded? count = none) : count ≤ limit := by
  simp only [exceeded?, hlimit] at h
  by_cases hlt : limit < count
  · simp [hlt] at h
  · omega

end Limits

/-- The state of a machine. -/
structure MachineState where
  /-- The program counter. -/
  pc : Destination
  registers : Registers
  /-- The latest fault that was handed to a handler. -/
  lastFault : Option FaultRecord
  /-- The lines executed so far. -/
  visited : Array LineNumber
  /-- The steps begun so far. -/
  steps : Nat
deriving Repr, DecidableEq

namespace MachineState

/-- The state before the first step. -/
def start (pc : Destination) : MachineState := ⟨pc, .empty, none, #[], 0⟩

/-- Begins a step. -/
def tick (state : MachineState) : MachineState := { state with steps := state.steps + 1 }

/-- Records that a line is executed. -/
def visit (state : MachineState) (line : LineNumber) : MachineState :=
  { state with visited := state.visited.push line }

/-- Sends control to a place. -/
def goTo (state : MachineState) (pc : Destination) : MachineState := { state with pc := pc }

/-- What a block of a program in dispatch mode sees. -/
def view (state : MachineState) (line : LineNumber) : View where
  line := line
  mode := .dispatch
  depth := state.registers.stack.depth
  handler := state.registers.handler
  fault := state.lastFault

/-- Takes over the handler that a block leaves active.  A change of handler retires the fault. -/
def adopt (state : MachineState) (handler : Option LineNumber) : MachineState :=
  { state with
    registers := { state.registers with handler := handler }
    lastFault := if handler = state.registers.handler then state.lastFault else none }

/-- Hands a fault to the handler. -/
def routeFault (state : MachineState) (line : LineNumber) (message : String) :
    Except MachineError MachineState :=
  match state.registers.handler with
  | none => .error (.unhandledFault line message)
  | some handler =>
      .ok { state with pc := .line handler, lastFault := some ⟨line, message⟩ }

/-- Carries out the transfer that a line asked for. -/
def follow (state : MachineState) (limits : Limits) (line : LineNumber) (successor : Destination) :
    Option Transfer → Except MachineError MachineState
  | none => .ok (state.goTo successor)
  | some (.jump target) => .ok (state.goTo (.line target))
  | some (.call target) =>
      if limits.depth ≤ state.registers.stack.depth then .error (.callDepth line limits.depth)
      else .ok { state with pc := .line target, registers := state.registers.push successor }
  | some .ret =>
      match state.registers.pop? with
      | none => .error (.unbalancedReturn line)
      | some (back, registers) => .ok { state with pc := back, registers := registers }

/-- **Where control goes after a block.** -/
def settle (state : MachineState) (limits : Limits) (line : LineNumber) (successor : Destination)
    (transfer : Option Transfer) : (fault : Option String) → Except MachineError MachineState
  | some message => state.routeFault line message
  | none => state.follow limits line successor transfer

end MachineState

/-- What comes of a step. -/
inductive Progress (σ : Type) where
  /-- The run goes on. -/
  | next (state : MachineState) (executor : σ)
  /-- The program has halted. -/
  | halted (state : MachineState) (executor : σ)
  /-- The run has failed. -/
  | failed (error : MachineError) (state : MachineState) (executor : σ)

namespace Assembly

variable {σ : Type}

/-- The block of a line and where control goes when it falls through. -/
def locate? (assembly : Assembly) (line : LineNumber) : Option (Block × Destination) := do
  let i ← assembly.position? line
  let block ← assembly.blocks[i]?
  return (block, .ofSuccessor (assembly.blocks[i + 1]?.map Block.number))

/-- **Executes a block** and settles where control goes. -/
def execute (limits : Limits) (executor : Executor σ) (block : Block) (line : LineNumber)
    (successor : Destination) (state : MachineState) (x : σ) : Progress σ :=
  let view := state.view line
  let (turn, x) := executor x block view
  let effect := view.effect turn.operations
  let state := (state.visit line).adopt effect.handler
  match state.settle limits line successor effect.transfer turn.fault with
  | .ok next => .next next x
  | .error e => .failed e state x

/-- **One step of a program in dispatch mode.** -/
def advance (assembly : Assembly) (limits : Limits) (executor : Executor σ) (state : MachineState)
    (x : σ) : Progress σ :=
  match state.pc with
  | .halt => .halted state x
  | .line line =>
      let state := state.tick
      match limits.exceeded? state.steps with
      | some limit => .failed (.stepLimit limit) state x
      | none =>
          match assembly.locate? line with
          | none => .failed (.unknownLine (state.visited.back?.getD line) line) state x
          | some (block, successor) => execute limits executor block line successor state x

end Assembly

end NumberedProse
