import NumberedProse.Analysis
import NumberedProse.Translator.Echo

/-!
# Compilation

Every line of an analysed program is handed to a translator, and the answers become the blocks of
an assembly.  The first line that fails ends the compilation.  A compilation may also be cancelled:
the switch is looked at before each line and once more at the end.
-/

namespace NumberedProse

/-- The switch that cancels a compilation. -/
inductive CancelSwitch where
  /-- There is no switch, and nothing cancels the compilation. -/
  | absent
  | open_
  | thrown
deriving Repr, DecidableEq

namespace CancelSwitch

/-- Whether the compilation is cancelled. -/
def isThrown : CancelSwitch → Bool
  | thrown => true
  | absent | open_ => false

/-- Throws the switch, if there is one. -/
def throw : CancelSwitch → CancelSwitch
  | absent => absent
  | open_ | thrown => thrown

end CancelSwitch

/-- A finished compilation. -/
structure Compilation where
  assembly : Assembly
  warnings : List Warning
deriving Repr, DecidableEq

/-- What a stage of a compilation leaves behind: its result, the switch, and the state of the
translator. -/
structure Stage (σ α : Type) where
  result : Except CompileError α
  switch : CancelSwitch
  state : σ

namespace Analysis

/-- What all requests of this program have in common. -/
def programContext (analysis : Analysis) : ProgramContext where
  mode := analysis.mode
  entry := analysis.program.entry
  lines := analysis.program.numbers
  resources := analysis.context.entries

/-- The request for a line. -/
def request (analysis : Analysis) (line : Line) (control : LineControl) : Request where
  line := line
  control := control.control
  handler := control.handler
  use := analysis.context.use line.number
  successor := analysis.program.successor? line.number
  context := analysis.programContext

/-- The block that statements make of a request. -/
def block (request : Request) (statements : List String) : Block where
  line := request.line
  control := request.control
  handler := request.handler
  use := request.use
  statements := statements

/-- Accepts an answer.  An instruction cannot be carried out by no statement at all. -/
def accept (request : Request) :
    Except TranslateError (List String) → Except CompileError Block
  | .error error => .error (.untranslated request.line.number error)
  | .ok statements =>
      if statements.isEmpty && !request.line.text.isEmpty then
        .error (.untranslated request.line.number (.malformed "no statements returned"))
      else .ok (block request statements)

variable {σ : Type}

/-- **The job of one line:** it is not started once the compilation is cancelled. -/
def translateLine (analysis : Analysis) (translator : Translator σ) (switch : CancelSwitch)
    (state : σ) (line : Line) (control : LineControl) : Stage σ Block :=
  if switch.isThrown then ⟨.error .cancelled, switch, state⟩
  else
    let request := analysis.request line control
    let reply := translator state request
    ⟨accept request reply.answer, if reply.cancels then switch.throw else switch, reply.state⟩

/-- **The jobs of lines one after the other,** up to the first that fails. -/
def translateLines (analysis : Analysis) (translator : Translator σ) (switch : CancelSwitch)
    (state : σ) : List (Line × LineControl) → Stage σ (List Block)
  | [] => ⟨.ok [], switch, state⟩
  | (line, control) :: rest =>
      let first := analysis.translateLine translator switch state line control
      match first.result with
      | .error e => ⟨.error e, first.switch, first.state⟩
      | .ok block =>
          let others := analysis.translateLines translator first.switch first.state rest
          match others.result with
          | .error e => ⟨.error e, others.switch, others.state⟩
          | .ok blocks => ⟨.ok (block :: blocks), others.switch, others.state⟩

/-- The lines of the program with their controls. -/
def jobs (analysis : Analysis) : List (Line × LineControl) :=
  analysis.program.lines.toList.zip analysis.controls

/-- **Compiles an analysed program.**  A switch thrown during the last line still cancels. -/
def compile (analysis : Analysis) (translator : Translator σ) (switch : CancelSwitch) (state : σ) :
    Stage σ Compilation :=
  let stage := analysis.translateLines translator switch state analysis.jobs
  match stage.result with
  | .error e => ⟨.error e, stage.switch, stage.state⟩
  | .ok blocks =>
      if stage.switch.isThrown then ⟨.error .cancelled, stage.switch, stage.state⟩
      else
        let assembly := ⟨analysis.mode, analysis.context.entries, blocks.toArray⟩
        ⟨.ok ⟨assembly, analysis.warnings⟩, stage.switch, stage.state⟩

end Analysis

namespace Compilation

variable {σ : Type}

/-- **Analyses and compiles a source text.** -/
def ofSource (source : String) (table : ResourceTable) (translator : Translator σ)
    (switch : CancelSwitch) (state : σ) : Stage σ Compilation :=
  match Analysis.ofSource source table with
  | .error e => ⟨.error e, switch, state⟩
  | .ok analysis => analysis.compile translator switch state

/-- The compilation of a source text whose instructions are only echoed. -/
def echoed (source : String) (table : ResourceTable) : Except CompileError Compilation :=
  (ofSource source table .echo .absent ()).result

end Compilation

end NumberedProse
