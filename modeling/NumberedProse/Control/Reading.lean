import NumberedProse.Control.Cue
import NumberedProse.Control.Error
import NumberedProse.Program
import NumberedProse.Token.Scan

/-!
# Reading the control of a line

A line with no cue falls through, a line with one cue does what the cue says, and a line with more
is rejected.  A jump is conditional if an `if` stands before it in the same clause; what stands
between is the predicate, kept as it was written.
-/

namespace NumberedProse

namespace LineControl

/-- Whether a token ends the clause before it. -/
def endsClause : Token → Bool
  | .punct mark => mark == '.' || mark == ';' || mark == '!' || mark == '?'
  | _ => false

/-- Whether a token only links a condition to the jump after it. -/
def isLink : Token → Bool
  | .keyword .then_ => true
  | .punct mark => mark == ',' || mark == ':'
  | _ => false

/-- Whether a token is the word `if`. -/
def isIf (token : Token) : Bool := token == .keyword .if_

/-- **The condition of a jump,** if it has one.  Going back from the jump, the nearest `if` of the
clause opens the condition; the links right before the jump do not belong to it. -/
def predicate? (text : List Char) (lexemes : List Lexeme) (place : Nat) : Option (List Char) :=
  match lexemes.drop place with
  | [] => none
  | jump :: _ =>
      let clause := (lexemes.take place).reverse.takeWhile fun l => !endsClause l.token
      match clause.dropWhile fun l => !isIf l.token with
      | [] => none
      | opening :: _ =>
          let between := clause.takeWhile fun l => !isIf l.token
          let links := between.takeWhile fun l => isLink l.token
          some (Token.slice text opening.stop (links.getLast?.getD jump).start)

/-- The line number a cue names. -/
def lineTarget (line : LineNumber) (n : Nat) (kind : TransferKind) :
    Except ControlError LineNumber :=
  if n < UInt32.size then .ok (UInt32.ofNat n) else .error (.outOfRange line n kind)

/-- What a line with a single cue does. -/
def ofCue (line : LineNumber) (text : List Char) (lexemes : List Lexeme) :
    Cue → Except ControlError LineControl
  | .handler n => do return ⟨line, .fallthrough, some (← lineTarget line n .handler)⟩
  | .call n => do return ⟨line, .call (← lineTarget line n .call), none⟩
  | .ret => return ⟨line, .ret, none⟩
  | .jump n place =>
      match predicate? text lexemes place with
      | some predicate => do
          return ⟨line, .branch (← lineTarget line n .branch) (String.ofList predicate), none⟩
      | none => do return ⟨line, .jump (← lineTarget line n .jump), none⟩

/-- **The control that a line's instruction spells.** -/
def ofLine (line : Line) : Except ControlError LineControl :=
  let text := line.text.toList
  let lexemes := (Token.scan text).filter fun l => l.token != .eof
  match Cue.scan (lexemes.map Lexeme.token) with
  | [] => .ok (plain line.number)
  | [cue] => ofCue line.number text lexemes cue
  | cues => .error (.ambiguous line.number (cues.map Cue.label))

/-- The control of a line, a faulty line falling through. -/
def ofLineOrPlain (line : Line) : LineControl :=
  match ofLine line with
  | .ok control => control
  | .error _ => plain line.number

/-- The fault of a line, if it has one. -/
def error? (line : Line) : Option ControlError :=
  match ofLine line with
  | .ok _ => none
  | .error e => some e

end LineControl

namespace Program

/-- **The control of every line** in program order.  Faulty lines fall through, so that the rest
of the program can still be checked. -/
def controls (program : Program) : List LineControl :=
  program.lines.toList.map LineControl.ofLineOrPlain

/-- **The faults of all lines** in program order. -/
def controlErrors (program : Program) : List ControlError :=
  program.lines.toList.filterMap LineControl.error?

end Program

end NumberedProse
