import NumberedProse.Text.Split

/-!
# Paths

A path is names with slashes between them, read as a way through directories.  Slashes next to each
other count as one.  A slash at the end is kept in mind, because it says that the way ends in a
directory.
-/

namespace NumberedProse.CommandLine

/-- One step of a way through directories. -/
inductive Step where
  /-- A single dot. -/
  | stay
  /-- Two dots. -/
  | up
  | down (name : String)
deriving Repr, DecidableEq

/-- The step that a name asks for. -/
def Step.ofName (name : String) : Step :=
  if name == "." then .stay else if name == ".." then .up else .down name

/-- A way through directories. -/
structure Path where
  /-- It starts at the root, not in the working directory. -/
  absolute : Bool
  steps : List Step
  /-- A slash stands at its end. -/
  slashed : Bool
deriving Repr, DecidableEq

namespace Path

/-- The way that a text spells. -/
def ofString (text : String) : Path where
  absolute := text.toList.head? == some '/'
  steps := ((Text.split '/' text.toList).filter (!·.isEmpty)).map (Step.ofName <| String.ofList ·)
  slashed := text.toList.getLast? == some '/'

/-- The names by which a path goes down. -/
def names (path : Path) : List String :=
  path.steps.filterMap fun
    | .down name => some name
    | _ => none

/-- The name of the file that a path leads to, if its last step goes down. -/
def fileName? (path : Path) : Option String :=
  match (path.steps.filter (· != .stay)).getLast? with
  | some (.down name) => some name
  | _ => none

/-- **The extension of a path:** what follows the last dot of the file name, if anything stands
before that dot. -/
def extension? (path : Path) : Option String := do
  let name ← path.fileName?
  match (Text.split '.' name.toList).reverse with
  | last :: before :: earlier =>
      if before.isEmpty && earlier.isEmpty then none else some (String.ofList last)
  | _ => none

end Path

end NumberedProse.CommandLine
