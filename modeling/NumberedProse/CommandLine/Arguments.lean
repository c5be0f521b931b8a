import NumberedProse.Line
import NumberedProse.Text.Decimal
import NumberedProse.Text.Split

/-!
# Arguments of the command line

One source file and any number of options, in any order.  Switches and options with a single value
may be given once.  After a bare `--` every argument is a file.
-/

namespace NumberedProse.CommandLine

/-- What a command asks for. -/
structure Arguments where
  /-- The source file. -/
  file : String
  /-- Print the overview of the lines. -/
  lines : Bool
  /-- Print the flow graph and the mode. -/
  graph : Bool
  /-- Print the listing of the assembly. -/
  listing : Bool
  /-- Run the assembly by control alone. -/
  simulate : Bool
  /-- Translate one line at a time. -/
  sequential : Bool
  noColor : Bool
  /-- The lines whose branches a simulation takes. -/
  take : List LineNumber
  /-- A file with a resource table. -/
  resources : Option String
  /-- The file that the artifact goes to. -/
  out : Option String
deriving Repr, DecidableEq

/-- The switches. -/
inductive Switch where
  | lines | graph | listing | simulate | sequential | noColor
deriving Repr, DecidableEq

/-- The options that take a value. -/
inductive ValueOption where
  | take | resources | out
deriving Repr, DecidableEq

/-- The arguments read so far. -/
structure Draft where
  file : Option String
  switches : List Switch
  take : List LineNumber
  resources : Option String
  out : Option String
deriving Repr, DecidableEq

/-- The switch of a name. -/
def switch? : String → Option Switch
  | "lines" => some .lines
  | "cfg" => some .graph
  | "listing" => some .listing
  | "simulate" => some .simulate
  | "sequential" => some .sequential
  | "no-color" => some .noColor
  | _ => none

/-- The option of a name. -/
def valueOption? : String → Option ValueOption
  | "take" => some .take
  | "resources" => some .resources
  | "out" => some .out
  | _ => none

/-! ## Values -/

/-- The line number that digits stand for. -/
def unsigned? (digits : List Char) : Option LineNumber :=
  (Text.decimal? digits).bind fun n => if n < UInt32.size then some (UInt32.ofNat n) else none

/-- The line number a text stands for.  A sign is allowed, and zero may have either. -/
def lineNumber? : List Char → Option LineNumber
  | '-' :: digits => if Text.decimal? digits = some 0 then some 0 else none
  | '+' :: digits => unsigned? digits
  | digits => unsigned? digits

/-- Line numbers with commas between them. -/
def lineNumbers? (text : String) : Option (List LineNumber) :=
  (Text.split ',' text.toList).mapM lineNumber?

/-- Sets what can be set once, to a value that is not empty. -/
def once? (old : Option String) (new : String) : Option (Option String) :=
  if old.isSome || new.isEmpty then none else some (some new)

namespace Draft

/-- No argument read yet. -/
def empty : Draft := ⟨none, [], [], none, none⟩

/-- Takes a file. -/
def addFile (draft : Draft) (file : String) : Option Draft :=
  (once? draft.file file).map fun file => { draft with file := file }

/-- Takes a switch. -/
def addSwitch (draft : Draft) (switch : Switch) : Option Draft :=
  if draft.switches.contains switch then none
  else some { draft with switches := switch :: draft.switches }

/-- Takes an option and its value. -/
def addValue (draft : Draft) (value : String) : ValueOption → Option Draft
  | .take => (lineNumbers? value).map fun more => { draft with take := draft.take ++ more }
  | .resources =>
      (once? draft.resources value).map fun resources => { draft with resources := resources }
  | .out => (once? draft.out value).map fun out => { draft with out := out }

/-- The finished arguments, if a file is among them. -/
def finish (draft : Draft) : Option Arguments :=
  draft.file.map fun file => {
    file
    lines := draft.switches.contains .lines
    graph := draft.switches.contains .graph
    listing := draft.switches.contains .listing
    simulate := draft.switches.contains .simulate
    sequential := draft.switches.contains .sequential
    noColor := draft.switches.contains .noColor
    take := draft.take
    resources := draft.resources
    out := draft.out }

end Draft

/-! ## Arguments -/

/-- How an argument looks. -/
inductive Form where
  /-- The bare `--`. -/
  | endOfOptions
  /-- `--name`, or `--name=value`. -/
  | option (name : String) (value : Option String)
  /-- A dash and something else. -/
  | dashed
  /-- A file or the value of an option.  A dash alone counts as one. -/
  | plain
deriving Repr, DecidableEq

/-- **The form of an argument.** -/
def form (argument : String) : Form :=
  match argument.toList with
  | ['-', '-'] => .endOfOptions
  | '-' :: '-' :: rest =>
      let name := String.ofList (rest.takeWhile (· != '='))
      match rest.dropWhile (· != '=') with
      | [] => .option name none
      | _ :: value => .option name (some (String.ofList value))
  | '-' :: _ :: _ => .dashed
  | _ => .plain

/-- **Reads arguments from left to right.**  `awaiting` is an option whose value comes next.  `none`
means that the arguments make no sense. -/
def readArguments (draft : Draft) (awaiting : Option ValueOption) : List String → Option Draft
  | [] => if awaiting.isSome then none else some draft
  | argument :: rest =>
      match awaiting, form argument with
      | some option, .plain =>
          (draft.addValue argument option).bind fun draft => readArguments draft none rest
      | some _, _ => none
      | none, .endOfOptions => rest.foldlM Draft.addFile draft
      | none, .dashed => none
      | none, .plain => (draft.addFile argument).bind fun draft => readArguments draft none rest
      | none, .option name value =>
          match switch? name, valueOption? name, value with
          | some switch, _, none =>
              (draft.addSwitch switch).bind fun draft => readArguments draft none rest
          | none, some option, some value =>
              (draft.addValue value option).bind fun draft => readArguments draft none rest
          | none, some option, none => readArguments draft (some option) rest
          | _, _, _ => none

/-- **What the arguments of a command ask for.** -/
def Arguments.parse? (arguments : List String) : Option Arguments :=
  (readArguments .empty none arguments).bind Draft.finish

end NumberedProse.CommandLine
