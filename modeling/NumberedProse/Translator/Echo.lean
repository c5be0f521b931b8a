import NumberedProse.Translator

/-!
# The echoing translator

Answers a request with pseudo-code that repeats it: the resource, the error handler, the
instruction as a comment, and the transfer of control.  It never fails, which makes it the
translator for dry runs.
-/

namespace NumberedProse

namespace Request

/-- How the resource is acquired or referred to. -/
def echoUse : ResourceUse → List String
  | .first key => [s!"{key} = acquire(\"{key}\")"]
  | .again key => [s!"use {key}"]
  | .unneeded => []

/-- How control is transferred.  Without a dispatch loop only a return has a statement, and it
fails. -/
def echoControl : Mode → Control → List String
  | .dispatch, .jump target => [s!"next_line = {target}"]
  | .dispatch, .branch target predicate => [s!"if ({predicate}): next_line = {target}"]
  | .dispatch, .call target => [s!"call {target}"]
  | .dispatch, .ret => ["return"]
  | .linear, .ret => ["fail(\"unbalanced return\")"]
  | _, _ => []

/-- **The request as statements;** there is always at least one. -/
def echo (request : Request) : List String :=
  let handler := request.handler.toList.map fun handler => s!"on_error = {handler}"
  let text := if request.line.text.isEmpty then [] else ["# " ++ request.line.text]
  match echoUse request.use ++ handler ++ text
      ++ echoControl request.context.mode request.control with
  | [] => ["pass"]
  | statements => statements

end Request

/-- The translator that echoes. -/
def Translator.echo : Translator Unit := fun _ request => ⟨.ok request.echo, false, ()⟩

end NumberedProse
