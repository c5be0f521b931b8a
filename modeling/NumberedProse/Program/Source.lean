import NumberedProse.Program
import NumberedProse.Text.Trim
import NumberedProse.Text.Lowercase
import NumberedProse.Text.Decimal
import NumberedProse.Text.Split

/-!
# Source text

A source is read line by line, cut at its line feeds.  Blank lines and lines that begin with `#` or
an apostrophe are skipped; every other line needs a number, may carry a hint, and ends with its
instruction.  The lines may stand in any order, but no number may be used twice.

Reading stops at the first fault.  Carriage returns need no care: they are blank, and every part
of a line is trimmed.
-/

namespace NumberedProse

/-- Why a source is not a program.  Source lines are counted from 1. -/
inductive ParseError where
  /-- The line does not begin with a digit. -/
  | missingNumber (sourceLine : Nat)
  /-- What stands in the number's place is not a number from 1 to 2³² - 1. -/
  | invalidNumber (sourceLine : Nat) (text : String)
  /-- An earlier source line has the number already. -/
  | duplicateNumber (sourceLine : Nat) (number : LineNumber) (earlier : Nat)
  /-- The hint's parenthesis is never closed. -/
  | unterminatedHint (sourceLine : Nat) (number : LineNumber)
  /-- No line has a number. -/
  | emptyProgram
deriving Repr, DecidableEq

namespace ParseError

/-- The source line the error is about. -/
def sourceLine? : ParseError → Option Nat
  | missingNumber at_ | invalidNumber at_ _ | duplicateNumber at_ _ _ | unterminatedHint at_ _ =>
      some at_
  | emptyProgram => none

/-- The wording of the error. -/
def message : ParseError → String
  | missingNumber at_ => s!"{at_}: expected a line number"
  | invalidNumber at_ text => s!"{at_}: invalid line number '{text}'"
  | duplicateNumber at_ number earlier =>
      s!"{at_}: duplicate line number {number} (first defined on source line {earlier})"
  | unterminatedHint at_ number =>
      s!"{at_}: unterminated task hint on line {number}, expected ')'"
  | emptyProgram => "empty program: no numbered lines"

end ParseError

namespace Source

/-! ## One line -/

/-- Whether a trimmed line is skipped: it is empty or a comment. -/
def isSkipped : List Char → Bool
  | [] => true
  | c :: _ => c == '#' || c == '\x27'

/-- Whether a character belongs to the text in the number's place. -/
def inNumeral (c : Char) : Bool := !(Text.isBlank c || c == '(')

/-- The line number a numeral stands for. -/
def lineNumber? (numeral : List Char) : Option LineNumber :=
  match Text.decimal? numeral with
  | some n => if 0 < n && n < UInt32.size then some (UInt32.ofNat n) else none
  | none => none

/-- A hint between parentheses: trimmed and lower-cased, and none at all if nothing remains. -/
def hintOf (inside : List Char) : Option String :=
  match Text.trim inside with
  | [] => none
  | hint => some (String.ofList (Text.lowercase hint))

/-- **What follows the number:** a hint, if a parenthesis opens, and the instruction.  `none` means
that the parenthesis is not closed. -/
def readBody (rest : List Char) : Option (Option String × String) :=
  match rest with
  | '(' :: inside =>
      match inside.dropWhile (· != ')') with
      | [] => none
      | _ :: text =>
          some (hintOf (inside.takeWhile (· != ')')), String.ofList (Text.trim text))
  | text => some (none, String.ofList (Text.trim text))

/-- **One trimmed line** that is neither blank nor a comment. -/
def readNumbered (sourceLine : Nat) (text : List Char) : Except ParseError Line :=
  let numeral := text.takeWhile inNumeral
  if !(numeral.head?.any Char.isDigit) then .error (.missingNumber sourceLine)
  else match lineNumber? numeral with
    | none => .error (.invalidNumber sourceLine (String.ofList numeral))
    | some number =>
        match readBody (Text.trimStart (text.dropWhile inNumeral)) with
        | none => .error (.unterminatedHint sourceLine number)
        | some (hint, text) => .ok ⟨number, hint, text⟩

/-- **One source line,** or nothing if it is skipped. -/
def readLine (sourceLine : Nat) (raw : List Char) : Except ParseError (Option Line) :=
  let text := Text.trim raw
  if isSkipped text then .ok none
  else match readNumbered sourceLine text with
    | .ok line => .ok (some line)
    | .error e => .error e

/-! ## All lines -/

/-- A line and the source line it was read from. -/
structure Placed where
  line : Line
  sourceLine : Nat
deriving Repr, DecidableEq

/-- Puts a line at its place in program order, or gives the source line that has its number. -/
def insertPlaced (new : Placed) : List Placed → Except Nat (List Placed)
  | [] => .ok [new]
  | old :: rest =>
      if new.line.number < old.line.number then .ok (new :: old :: rest)
      else if old.line.number < new.line.number then
        match insertPlaced new rest with
        | .ok rest => .ok (old :: rest)
        | .error earlier => .error earlier
      else .error old.sourceLine

/-- Program order on placed lines. -/
def Placed.Before (a b : Placed) : Prop := a.line.number < b.line.number

/-- Whatever comes before the new line and all the old ones comes before all after it is put in. -/
theorem before_insertPlaced {x new : Placed} {old all : List Placed}
    (h : insertPlaced new old = .ok all) (hnew : x.Before new) (hold : ∀ y ∈ old, x.Before y) :
    ∀ y ∈ all, x.Before y := by
  induction old generalizing all with
  | nil =>
      simp only [insertPlaced, Except.ok.injEq] at h
      subst h
      simpa using hnew
  | cons first rest ih =>
      simp only [insertPlaced] at h
      split at h
      · cases h
        simpa using ⟨hnew, by simpa using hold⟩
      · split at h
        · split at h
          · next placed hrest =>
              cases h
              have hall := ih hrest fun y hy => hold y (List.mem_cons_of_mem _ hy)
              simpa using ⟨hold first List.mem_cons_self, hall⟩
          · cases h
        · cases h

/-- **Insertion keeps program order.** -/
theorem insertPlaced_increasing {new : Placed} {old all : List Placed}
    (h : insertPlaced new old = .ok all) (hold : old.Pairwise Placed.Before) :
    all.Pairwise Placed.Before := by
  induction old generalizing all with
  | nil =>
      simp only [insertPlaced, Except.ok.injEq] at h
      subst h
      simp
  | cons first rest ih =>
      simp only [insertPlaced] at h
      have hfirst := List.pairwise_cons.mp hold
      split at h
      · next hlt =>
          cases h
          refine List.pairwise_cons.mpr ⟨?_, hold⟩
          intro y hy
          rcases List.mem_cons.mp hy with rfl | hy
          · exact hlt
          · exact UInt32.lt_trans hlt (hfirst.1 y hy)
      · split at h
        · next hgt =>
            split at h
            · next placed hrest =>
                cases h
                exact List.pairwise_cons.mpr
                  ⟨before_insertPlaced hrest hgt hfirst.1, ih hrest hfirst.2⟩
            · cases h
        · cases h

/-- The lines read so far, in program order. -/
structure Draft where
  placed : List Placed
  increasing : placed.Pairwise Placed.Before

namespace Draft

/-- Nothing read yet. -/
def empty : Draft := ⟨[], .nil⟩

/-- Adds a line, or gives the source line that has its number. -/
def insert (draft : Draft) (new : Placed) : Except Nat Draft :=
  match h : insertPlaced new draft.placed with
  | .ok placed => .ok ⟨placed, insertPlaced_increasing h draft.increasing⟩
  | .error earlier => .error earlier

/-- The finished program, if there is any line at all. -/
def toProgram? (draft : Draft) : Option Program :=
  if h : 0 < draft.placed.length then
    some {
      lines := (draft.placed.map Placed.line).toArray
      increasing := List.pairwise_map.mpr draft.increasing
      nonempty := by simpa using h }
  else none

end Draft

/-- Reads source lines, the first of which has the given place in the source. -/
def readLines (draft : Draft) (sourceLine : Nat) : List (List Char) → Except ParseError Draft
  | [] => .ok draft
  | raw :: rest =>
      match readLine sourceLine raw with
      | .error e => .error e
      | .ok none => readLines draft (sourceLine + 1) rest
      | .ok (some line) =>
          match draft.insert ⟨line, sourceLine⟩ with
          | .error earlier => .error (.duplicateNumber sourceLine line.number earlier)
          | .ok draft => readLines draft (sourceLine + 1) rest

end Source

/-- **The program a source text spells,** or the first thing wrong with it. -/
def Program.parse (source : String) : Except ParseError Program :=
  match Source.readLines .empty 1 (Text.split '\n' source.toList) with
  | .error e => .error e
  | .ok draft =>
      match draft.toProgram? with
      | some program => .ok program
      | none => .error .emptyProgram

end NumberedProse
