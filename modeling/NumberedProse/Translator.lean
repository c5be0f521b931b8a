import NumberedProse.Assembly

/-!
# Translators

Turning an instruction into statements is the work of a translator, which the compiler knows only
as something that answers requests.  It may keep a state of its own, it may fail, and while it
answers it may ask for the compilation to be cancelled.
-/

namespace NumberedProse

/-- What every request of one compilation has in common. -/
structure ProgramContext where
  mode : Mode
  entry : LineNumber
  lines : List LineNumber
  resources : List ResourceEntry
deriving Repr, DecidableEq

/-- The request to translate one line. -/
structure Request where
  line : Line
  control : Control
  handler : Option LineNumber
  use : ResourceUse
  /-- The next line in program order. -/
  successor : Option LineNumber
  context : ProgramContext
deriving Repr, DecidableEq

/-! ## Failures -/

/-- A span of time. -/
structure Duration where
  nanoseconds : Nat
deriving Repr, DecidableEq

namespace Duration

/-- A span in seconds and nanoseconds. -/
def ofParts (seconds nanoseconds : Nat) : Duration := ⟨seconds * 1000000000 + nanoseconds⟩

/-- A number of parts, of which a unit has one followed by `places` zeros, as a decimal number of
units without zeros at the end. -/
def decimal (parts places : Nat) : String :=
  let unit := Nat.pow 10 places
  let whole := toString (parts / unit)
  let digits := (toString (parts % unit)).toList
  let padded := List.replicate (places - digits.length) '0' ++ digits
  match (padded.reverse.dropWhile (· == '0')).reverse with
  | [] => whole
  | fraction => whole ++ "." ++ String.ofList fraction

/-- **A span in the largest unit that it reaches:** seconds, or else milliseconds, microseconds or
nanoseconds. -/
def render (duration : Duration) : String :=
  let n := duration.nanoseconds
  if 1000000000 ≤ n then decimal n 9 ++ "s"
  else if 1000000 ≤ n then decimal n 6 ++ "ms"
  else if 1000 ≤ n then decimal n 3 ++ "µs"
  else decimal n 0 ++ "ns"

end Duration

/-- Why a line was not translated. -/
inductive TranslateError where
  | timeout (after : Duration)
  | malformed (reason : String)
  | unavailable (reason : String)
deriving Repr, DecidableEq

/-- The wording of the error. -/
def TranslateError.message : TranslateError → String
  | timeout after => s!"translation timed out after {after.render}"
  | malformed reason => s!"malformed translation: {reason}"
  | unavailable reason => s!"translator unavailable: {reason}"

/-! ## Translators -/

/-- What a translator does with a request. -/
structure Reply (σ : Type) where
  /-- The statements, or why there are none. -/
  answer : Except TranslateError (List String)
  /-- Whether the compilation is to be cancelled. -/
  cancels : Bool
  /-- The state of the translator afterwards. -/
  state : σ

/-- A translator with a state. -/
abbrev Translator (σ : Type) := σ → Request → Reply σ

end NumberedProse
