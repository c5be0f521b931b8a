import NumberedProse.Assembly
import NumberedProse.Machine.Registers

/-!
# Executors

An executor carries out the statements of a block.  The machine shows it what the block may know
(`View`), and it answers with the operations the block performs on the state of control and with
the fault that stopped the block, if one did (`Turn`).
-/

namespace NumberedProse

/-- A fault that was handed to an error handler, and the line that raised it. -/
structure FaultRecord where
  line : LineNumber
  message : String
deriving Repr, DecidableEq

/-- What a block sees of the machine. -/
structure View where
  line : LineNumber
  mode : Mode
  /-- The number of open calls. -/
  depth : Nat
  handler : Option LineNumber
  /-- The latest fault that was handed to a handler. -/
  fault : Option FaultRecord
deriving Repr, DecidableEq

/-- What a block can do to the state of control. -/
inductive Operation where
  | jump (target : LineNumber)
  | call (target : LineNumber)
  | ret
  | setHandler (target : LineNumber)
deriving Repr, DecidableEq

/-- What a block did: its operations in order, and the fault that stopped it. -/
structure Turn where
  operations : List Operation
  fault : Option String
deriving Repr, DecidableEq

/-- Something that carries out blocks and keeps a state. -/
abbrev Executor (σ : Type) := σ → Block → View → Turn × σ

/-! ## The effect of operations -/

/-- The transfer a block asks for. -/
inductive Transfer where
  | jump (target : LineNumber)
  | call (target : LineNumber)
  | ret
deriving Repr, DecidableEq

/-- What the operations of a block come to. -/
structure Effect where
  /-- The last transfer asked for. -/
  transfer : Option Transfer
  /-- The handler that is active now. -/
  handler : Option LineNumber
  /-- The first operation that a linear program cannot perform. -/
  violation : Option String
deriving Repr, DecidableEq

namespace Effect

/-- Records a violation; the first one counts. -/
def violate (effect : Effect) (operation : String) : Effect :=
  { effect with violation := effect.violation <|> some operation }

/-- **One operation.**  A linear program has no program counter, calls or handlers, so there all but
a return are violations. -/
def perform (mode : Mode) (effect : Effect) : Operation → Effect
  | .ret => { effect with transfer := some .ret }
  | .jump target =>
      match mode with
      | .dispatch => { effect with transfer := some (.jump target) }
      | .linear => effect.violate "goto"
  | .call target =>
      match mode with
      | .dispatch => { effect with transfer := some (.call target) }
      | .linear => effect.violate "call"
  | .setHandler target =>
      match mode with
      | .dispatch => { effect with handler := some target }
      | .linear => effect.violate "on error goto"

end Effect

/-- **What operations come to** in a view. -/
def View.effect (view : View) (operations : List Operation) : Effect :=
  operations.foldl (Effect.perform view.mode) ⟨none, view.handler, none⟩

end NumberedProse
