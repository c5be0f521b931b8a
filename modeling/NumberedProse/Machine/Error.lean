import NumberedProse.Machine.Registers

/-!
# Failed runs

The errors that end a run.  No error handler of the program can catch them.
-/

namespace NumberedProse

/-- Why a run failed. -/
inductive MachineError where
  /-- A return with no open call. -/
  | unbalancedReturn (line : LineNumber)
  /-- A fault without a handler. -/
  | unhandledFault (line : LineNumber) (message : String)
  /-- A transfer to a line that does not exist. -/
  | unknownLine (source target : LineNumber)
  /-- More steps than allowed. -/
  | stepLimit (limit : Nat)
  /-- More open calls than allowed. -/
  | callDepth (line : LineNumber) (limit : Nat)
  /-- A transfer of control in a program that has no state of control. -/
  | needsDispatch (line : LineNumber) (operation : String)
deriving Repr, DecidableEq

/-- The wording of the error. -/
def MachineError.message : MachineError → String
  | unbalancedReturn line => s!"runtime error: line {line}: return with an empty call stack"
  | unhandledFault line message => s!"runtime error: line {line}: unhandled fault: {message}"
  | unknownLine source target =>
      s!"runtime error: transfer from line {source} to missing line {target}"
  | stepLimit limit => s!"runtime error: execution step limit exceeded ({limit})"
  | callDepth line limit =>
      s!"runtime error: line {line}: call depth limit exceeded ({limit})"
        ++ " - possible infinite recursion"
  | needsDispatch line operation =>
      s!"runtime error: line {line}: '{operation}' needs dispatch mode"

/-- A failed run: the error, the lines executed, and the calls left open, earliest first. -/
structure Failure where
  error : MachineError
  visited : List LineNumber
  frames : List Destination
deriving Repr, DecidableEq

/-- The error and the open calls, latest first. -/
def Failure.message (failure : Failure) : String :=
  let calls := match failure.frames with
    | [] => "(empty)"
    | frames => " <- ".intercalate (frames.reverse.map Destination.render)
  s!"{failure.error.message}\n  call stack: {calls}"

end NumberedProse
