import NumberedProse.Control.Reading
import NumberedProse.Flow.Reach
import NumberedProse.Program.Source
import NumberedProse.Resource.Usage
import NumberedProse.Translator

/-!
# Analysis

All that is known of a program before any line is translated.  A source that does not parse has no
analysis; a program with faults in its control has none either, and all faults are reported
together, in the order of their lines.
-/

namespace NumberedProse

/-- Why a source cannot be compiled. -/
inductive CompileError where
  | parse (error : ParseError)
  /-- The faults of control of the whole program. -/
  | validation (errors : List ControlError)
  /-- A line was not translated. -/
  | untranslated (line : LineNumber) (error : TranslateError)
  | cancelled
deriving Repr, DecidableEq

/-- The wording of the error. -/
def CompileError.message : CompileError → String
  | parse error => s!"parse error: {error.message}"
  | validation errors =>
      s!"validation failed with {errors.length} error(s):"
        ++ String.join (errors.map fun error => "\n  " ++ error.message)
  | untranslated line error => s!"translation of line {line} failed: {error.message}"
  | cancelled => "compilation cancelled"

namespace ControlError

/-- Puts an error before the first one of its line or of a later line. -/
def insertByLine (error : ControlError) : List ControlError → List ControlError
  | [] => [error]
  | first :: rest =>
      if error.line ≤ first.line then error :: first :: rest
      else first :: insertByLine error rest

/-- **Errors in the order of their lines;** those of one line stay in the order given. -/
def sortByLine (errors : List ControlError) : List ControlError :=
  errors.foldr insertByLine []

end ControlError

/-- The findings on a program. -/
structure Analysis where
  program : Program
  /-- The control of each line, in program order. -/
  controls : List LineControl
  graph : FlowGraph
  mode : Mode
  context : ResourceContext
  warnings : List Warning
deriving Repr, DecidableEq

namespace Analysis

/-- **The analysis of a program,** or all faults in its control. -/
def ofProgram (program : Program) (table : ResourceTable) : Except CompileError Analysis :=
  let controls := program.controls
  let errors := program.controlErrors
  match Flow.build program controls with
  | .error unresolved => .error (.validation (ControlError.sortByLine (errors ++ unresolved)))
  | .ok flow =>
      if errors.isEmpty then
        .ok {
          program, controls
          graph := flow.graph
          mode := flow.graph.mode
          context := .ofProgram program table
          warnings := flow.warnings }
      else .error (.validation errors)

/-- **The analysis of a source text.** -/
def ofSource (source : String) (table : ResourceTable) : Except CompileError Analysis :=
  match Program.parse source with
  | .error e => .error (.parse e)
  | .ok program => ofProgram program table

end Analysis

end NumberedProse
