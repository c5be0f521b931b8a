import NumberedProse.CommandLine.Session

/-!
# The command

Carries out a session on the real file system and prints what it has to say.
-/

namespace NumberedProse.CommandLine

/-- The number that the operating system gives to an error.  Some of them arrive negated. -/
def systemCode? : IO.Error → Option Nat
  | .noFileOrDirectory _ code _ | .inappropriateType _ code _ | .invalidArgument _ code _
  | .resourceExhausted _ code _ => some (min code.toNat (-code).toNat)
  | _ => none

/-- What went wrong, in the words of the operating system. -/
def reason (e : IO.Error) : String :=
  match systemCode? e with
  | some code =>
      match FileError.all.find? (·.code == code) with
      | some known => known.message
      | none => toString e
  | none => toString e

/-- The files of the operating system. -/
def systemAccess : FileAccess IO where
  read path := do
    try return .ok (← IO.FS.readBinFile path).data.toList
    catch e => return .error (reason e)
  write path bytes := do
    try
      IO.FS.withFile path .write fun file => do
        file.write ⟨bytes.toArray⟩
        file.flush
      return .ok ()
    catch e => return .error (reason e)

end NumberedProse.CommandLine

/-- Runs the command. -/
def main (arguments : List String) : IO UInt32 := do
  let output ← NumberedProse.CommandLine.session NumberedProse.CommandLine.systemAccess arguments
  IO.print output.stdout
  IO.eprint output.stderr
  return UInt32.ofNat output.code
