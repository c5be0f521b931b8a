import NumberedProse.Assembly.Artifact
import NumberedProse.Assembly.Listing
import NumberedProse.CommandLine.Arguments
import NumberedProse.CommandLine.FileTree
import NumberedProse.Compilation
import NumberedProse.Machine.ByControl
import NumberedProse.Machine.Run
import NumberedProse.Program.Overview
import NumberedProse.Resource.TableText

/-!
# Sessions

A session carries out one command: it reads the source, compiles it with the echoing translator,
prints what was asked for, writes the artifact, and runs a simulation.  Files are reached through a
`FileAccess`, so the same session runs on a real file system and on a `FileTree`.
-/

namespace NumberedProse.CommandLine

/-- What a command prints, and its exit code. -/
structure Output where
  code : Nat
  stdout : String
  stderr : String
deriving Repr, DecidableEq

namespace Output

/-- Nothing printed yet, and nothing wrong. -/
def empty : Output := ⟨0, "", ""⟩

/-- Prints a text. -/
def print (output : Output) (text : String) : Output :=
  { output with stdout := output.stdout ++ text }

/-- Prints a text where errors go. -/
def complain (output : Output) (text : String) : Output :=
  { output with stderr := output.stderr ++ text }

/-- Ends the command with an error. -/
def fail (output : Output) (text : String) : Output := { output.complain text with code := 1 }

/-- The arguments make no sense. -/
def usageError : Output := ⟨2, "", ""⟩

end Output

/-- The means to read and write files.  What goes wrong is told in words. -/
structure FileAccess (m : Type → Type) where
  read : String → m (Except String (List UInt8))
  write : String → List UInt8 → m (Except String Unit)

/-! ## Parts of the output -/

/-- The mode and one row for each edge. -/
def graphText (analysis : Analysis) : String :=
  let edges := analysis.graph.edges.map fun e =>
    let source := Text.padLeft 5 (toString e.source)
    let target := Text.padRight 5 (toString e.target)
    s!"  {source} -> {target} {e.kind.render}\n"
  let rows := if edges.isEmpty then "  (no edges)\n" else String.join edges
  s!"mode: {analysis.mode.render}\n" ++ rows

/-- The lines a run visited and the number of its steps. -/
def traceText (trace : Trace) : String :=
  let visited := " -> ".intercalate (trace.visited.map toString)
  s!"visited: {visited}\nsteps: {trace.steps}\n"

/-- Adds what a simulation prints. -/
def simulate (output : Output) (assembly : Assembly) (take : List LineNumber) : Output :=
  let executor := Executor.byControl (.taking take)
  match (assembly.run .standard executor Limits.standardSteps rfl ⟨(), []⟩).outcome with
  | .ok trace => output.print (traceText trace)
  | .error failure => output.fail (failure.message ++ "\n")

/-- Adds what is printed before the program is compiled. -/
def printAnalysis (output : Output) (arguments : Arguments) (analysis : Analysis) : Output :=
  let output := analysis.warnings.foldl
    (fun output warning => output.complain (warning.message ++ "\n")) output
  let output :=
    if arguments.lines then
      output.print (analysis.program.overview analysis.controls ⟨!arguments.noColor, true⟩)
    else output
  if arguments.graph then output.print (graphText analysis) else output

/-- Whether the listing is printed: it was asked for, or nothing else was. -/
def wantsListing (arguments : Arguments) : Bool :=
  arguments.listing ||
    !(arguments.lines || arguments.graph || arguments.simulate || arguments.out.isSome)

/-! ## The session -/

/-- The text of a file. -/
def textOf : Except String (List UInt8) → Except String String
  | .error e => .error e
  | .ok bytes =>
      match String.fromUTF8? ⟨bytes.toArray⟩ with
      | some text => .ok text
      | none => .error "stream did not contain valid UTF-8"

/-- The known services with a table laid over them, or what is to be said about the table. -/
def tableOf : Except String String → Except String ResourceTable
  | .error e => .error s!"Error: {e}\n"
  | .ok text =>
      match ResourceTable.parse text with
      | .ok table => .ok (ResourceTable.builtin.extend table)
      | .error .json => .error s!"Error: {TableError.json.message}"
      | .error e => .error s!"Error: {e.message}\n"

variable {m : Type → Type} [Monad m]

/-- Reads the resource table that was asked for, if one was. -/
def readTable (files : FileAccess m) : Option String → m (Except String ResourceTable)
  | none => return .ok .builtin
  | some path => return tableOf (textOf (← files.read path))

/-- Writes the artifact, if it was asked for, and then simulates. -/
def finish (files : FileAccess m) (arguments : Arguments) (assembly : Assembly) (output : Output) :
    m Output := do
  if let some path := arguments.out then
    if let .error e ← files.write path assembly.toBytes then
      return output.fail s!"Failed to write '{path}': {e}\n"
  return if arguments.simulate then simulate output assembly arguments.take else output

/-- Compiles a source and prints what was asked for. -/
def process (files : FileAccess m) (arguments : Arguments) (source : String)
    (table : ResourceTable) : m Output := do
  match Analysis.ofSource source table with
  | .error e => return Output.empty.fail (e.message ++ "\n")
  | .ok analysis =>
      let output := printAnalysis .empty arguments analysis
      match (analysis.compile .echo .absent ()).result with
      | .error e => return output.fail (e.message ++ "\n")
      | .ok compilation =>
          let assembly := compilation.assembly
          let output := if wantsListing arguments then output.print assembly.listing else output
          finish files arguments assembly output

/-- **Carries out a command.** -/
def session (files : FileAccess m) (arguments : List String) : m Output := do
  match Arguments.parse? arguments with
  | none => return .usageError
  | some arguments =>
      let file := arguments.file
      if (Path.ofString file).extension? != some "nlb" then
        return Output.empty.fail s!"Error: expected a .nlb file, got {file}\n"
      match textOf (← files.read file) with
      | .error e => return Output.empty.fail s!"Failed to read '{file}': {e}\n"
      | .ok source =>
          match ← readTable files arguments.resources with
          | .error text => return Output.empty.fail text
          | .ok table => process files arguments source table

/-! ## In a modelled file system -/

/-- The files of a tree. -/
def FileTree.access : FileAccess (StateM FileTree) where
  read path := do
    match (← get).read path with
    | .ok bytes => return .ok bytes
    | .error e => return .error e.message
  write path bytes := do
    match (← get).write path bytes with
    | .ok tree =>
        set tree
        return .ok ()
    | .error e => return .error e.message

/-- **Carries out a command in the working directory of a tree** and gives the tree afterwards. -/
def FileTree.session (tree : FileTree) (arguments : List String) : Output × FileTree :=
  (CommandLine.session FileTree.access arguments).run tree

end NumberedProse.CommandLine
