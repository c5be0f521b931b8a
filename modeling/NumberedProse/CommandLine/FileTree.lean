import NumberedProse.CommandLine.Path
import NumberedProse.InsertionMap

/-!
# File trees

A small model of a file system, as a command sees it that reads and writes files by their paths.

* **Locations.**  A file is found below the working directory, below one of the directories above
  it, or below the root.  How far the working directory is from the root is not known, so going up
  from it never ends.
* **Following a path.**  Every step starts in a directory.  What can go wrong on the way goes wrong
  at the first step that cannot be taken.
* **Reading and writing.**  Reading a path with a slash at its end needs a directory there, and a
  directory cannot be read.  Writing to such a path fails even if nothing is there yet.
-/

namespace NumberedProse.CommandLine

/-! ## Errors -/

/-- Why a file cannot be read or written. -/
inductive FileError where
  | missing
  /-- The path goes on after a file. -/
  | notDirectory
  /-- The path leads to a directory. -/
  | isDirectory
  | noSpace
  /-- A name, or the whole path, is too long. -/
  | nameTooLong
deriving Repr, DecidableEq

namespace FileError

/-- All errors. -/
def all : List FileError := [missing, notDirectory, isDirectory, noSpace, nameTooLong]

/-- The number that the operating system gives to the error. -/
def code : FileError → Nat
  | missing => 2
  | notDirectory => 20
  | isDirectory => 21
  | noSpace => 28
  | nameTooLong => 36

/-- What the operating system calls the error. -/
def description : FileError → String
  | missing => "No such file or directory"
  | notDirectory => "Not a directory"
  | isDirectory => "Is a directory"
  | noSpace => "No space left on device"
  | nameTooLong => "File name too long"

/-- The wording of the error. -/
def message (error : FileError) : String := s!"{error.description} (os error {error.code})"

end FileError

/-! ## Locations -/

/-- A directory from which locations are counted. -/
inductive Base where
  /-- So many levels above the working directory. -/
  | above (levels : Nat)
  | root
deriving Repr, DecidableEq

/-- A location: the names on the way down from a base. -/
structure Location where
  base : Base
  names : List String
deriving Repr, DecidableEq

namespace Location

/-- A location below the working directory. -/
def working (names : List String) : Location := ⟨.above 0, names⟩

/-- Where a path starts. -/
def start (path : Path) : Location := if path.absolute then ⟨.root, []⟩ else working []

/-- One name further down. -/
def child (location : Location) (name : String) : Location :=
  { location with names := location.names ++ [name] }

/-- **The directory above.**  The root is above itself. -/
def parent (location : Location) : Location :=
  match location with
  | ⟨.root, names⟩ => ⟨.root, names.dropLast⟩
  | ⟨.above levels, []⟩ => ⟨.above (levels + 1), []⟩
  | ⟨.above levels, names⟩ => ⟨.above levels, names.dropLast⟩

/-- Whether the way to the other location leads through this one. -/
def leadsTo (location other : Location) : Bool :=
  location.base == other.base && location.names.isPrefixOf other.names

end Location

/-! ## Trees -/

/-- A file that is not stored.  It has nothing to read. -/
inductive Device where
  /-- It takes all that is written. -/
  | null
  /-- It has room for nothing. -/
  | full
deriving Repr, DecidableEq

/-- What stands at a location. -/
inductive Entry where
  | file (bytes : List UInt8)
  | directory
  | device (device : Device)
deriving Repr, DecidableEq

/-- What is known to stand at which location. -/
structure FileTree where
  entries : InsertionMap Location Entry
deriving Repr, DecidableEq

/-- The end of a way: a location, and what stands there. -/
structure Place where
  location : Location
  entry : Option Entry
deriving Repr, DecidableEq

/-- The location of a directory, from which a way may go on. -/
def Place.asDirectory (place : Place) : Except FileError Location :=
  match place.entry with
  | some .directory => .ok place.location
  | some _ => .error .notDirectory
  | none => .error .missing

namespace FileTree

/-- **What stands at a location.**  Bases are directories, and so is all that leads to an entry. -/
def lookup (tree : FileTree) (location : Location) : Place :=
  match tree.entries.get? location with
  | some entry => ⟨location, some entry⟩
  | none =>
      if location.names.isEmpty || tree.entries.toList.any fun (other, _) => location.leadsTo other
      then ⟨location, some .directory⟩
      else ⟨location, none⟩

/-- The most bytes that a name may have. -/
def nameLimit : Nat := 255

/-- The most bytes that a path may have. -/
def pathLimit : Nat := 4095

/-- The way that a text spells, unless it is too long.  An empty text leads nowhere. -/
def path (text : String) : Except FileError Path :=
  if text.isEmpty then .error .missing
  else if pathLimit < text.utf8ByteSize then .error .nameTooLong
  else .ok (.ofString text)

/-- Takes one step from a place, which has to be a directory. -/
def enter (tree : FileTree) (place : Place) (step : Step) : Except FileError Place := do
  let location ← place.asDirectory
  match step with
  | .stay => return place
  | .up => return ⟨location.parent, some .directory⟩
  | .down name =>
      if nameLimit < name.utf8ByteSize then .error .nameTooLong
      else return tree.lookup (location.child name)

/-- **Takes steps from a location** and gives the place where they end. -/
def follow (tree : FileTree) (location : Location) (steps : List Step) : Except FileError Place :=
  steps.foldlM tree.enter (tree.lookup location)

/-- **Reads a file.** -/
def read (tree : FileTree) (text : String) : Except FileError (List UInt8) := do
  let path ← path text
  let place ← tree.follow (.start path) path.steps
  if path.slashed then
    let _ ← place.asDirectory
  match place.entry with
  | some (.file bytes) => return bytes
  | some (.device _) => return []
  | some .directory => .error .isDirectory
  | none => .error .missing

/-- Stores bytes at a place. -/
def store (tree : FileTree) (place : Place) (bytes : List UInt8) : Except FileError FileTree :=
  match place.entry with
  | some .directory => .error .isDirectory
  | some (.device .null) => .ok tree
  | some (.device .full) => .error .noSpace
  | some (.file _) | none => .ok ⟨tree.entries.insert place.location (.file bytes)⟩

/-- **Writes a file,** which need not exist before, but its directory has to.  A path with a slash
at its end is taken for a directory as soon as the way to its last step is known. -/
def write (tree : FileTree) (text : String) (bytes : List UInt8) : Except FileError FileTree := do
  let path ← path text
  if path.slashed then
    let place ← tree.follow (.start path) path.steps.dropLast
    let _ ← place.asDirectory
    .error .isDirectory
  else
    tree.store (← tree.follow (.start path) path.steps) bytes

/-! ## What is usually there -/

/-- Directories that every system has. -/
def usualDirectories : List (List String) :=
  [["bin"], ["boot"], ["dev"], ["dev", "pts"], ["dev", "shm"], ["etc"], ["home"], ["lib"],
    ["media"], ["mnt"], ["opt"], ["proc"], ["root"], ["run"], ["sbin"], ["srv"], ["sys"], ["tmp"],
    ["usr"], ["usr", "bin"], ["usr", "include"], ["usr", "lib"], ["usr", "local"],
    ["usr", "local", "bin"], ["usr", "local", "lib"], ["usr", "sbin"], ["usr", "share"],
    ["usr", "src"], ["var"], ["var", "cache"], ["var", "lib"], ["var", "lock"], ["var", "log"],
    ["var", "run"], ["var", "spool"], ["var", "tmp"]]

/-- Devices that every system has. -/
def usualDevices : List (List String × Device) :=
  [(["dev", "null"], .null), (["dev", "full"], .full)]

/-- The usual surroundings of a working directory. -/
def usual : FileTree where
  entries := .ofList <|
    usualDirectories.map (fun names => (⟨.root, names⟩, .directory))
      ++ usualDevices.map (fun (names, device) => (⟨.root, names⟩, .device device))

/-- **A working directory with the given files,** in its usual surroundings.  The files are given by
paths, and the directories on the way to them exist. -/
def ofFiles (files : List (String × List UInt8)) : FileTree :=
  files.foldl (fun tree (path, bytes) =>
    ⟨tree.entries.insert (.working (Path.ofString path).names) (.file bytes)⟩) usual

end FileTree

end NumberedProse.CommandLine
