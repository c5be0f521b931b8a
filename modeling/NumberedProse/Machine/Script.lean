import NumberedProse.Machine.ByControl

/-!
# Scripted execution

An executor that follows a script on some lines and goes by control on all others.  It keeps a log
of what every block saw and did, and of the conditions it was asked.
-/

namespace NumberedProse

/-- How conditions are decided in a rehearsal. -/
inductive Decisions where
  /-- Every condition is false. -/
  | never
  /-- The conditions of these lines hold. -/
  | taking (lines : List LineNumber)
  /-- The answers for each line, used up one by one; without one left, the condition is false. -/
  | answering (answers : InsertionMap LineNumber (List Bool))
deriving Repr, DecidableEq

/-- A condition that was asked, and the answer. -/
structure Question where
  line : LineNumber
  predicate : String
  answer : Bool
deriving Repr, DecidableEq

/-- The decisions and the questions that were put to them.  Only prepared answers are logged. -/
structure Inquiry where
  decisions : Decisions
  asked : Array Question
deriving Repr, DecidableEq

/-- **Decides by the decisions.** -/
def Decider.rehearsed : Decider Inquiry := fun inquiry line predicate =>
  match inquiry.decisions with
  | .never => (false, inquiry)
  | .taking lines => (lines.contains line, inquiry)
  | .answering answers =>
      let (answer, left) := match (answers.get? line).getD [] with
        | [] => (false, answers)
        | answer :: rest => (answer, answers.insert line rest)
      (answer, ⟨.answering left, inquiry.asked.push ⟨line, predicate, answer⟩⟩)

/-- What a script has a block do. -/
inductive BlockAct where
  | perform (operation : Operation)
  /-- Stop with a fault. -/
  | fault (message : String)
  /-- Do what the control of the block says. -/
  | byControl
deriving Repr, DecidableEq

/-- What one block saw and did. -/
structure LogEntry where
  view : View
  handlerAfter : Option LineNumber
  raised : Option String
deriving Repr, DecidableEq

/-- An executor in rehearsal. -/
structure Rehearsal where
  /-- For each line the acts of its first visit, its second, and so on; the last ones repeat. -/
  script : List (LineNumber × List (List BlockAct))
  control : ControlState Inquiry
  /-- How often each line was visited. -/
  visits : InsertionMap LineNumber Nat
  log : Array LogEntry
deriving Repr, DecidableEq

namespace Rehearsal

/-- An executor that has not run yet. -/
def start (script : List (LineNumber × List (List BlockAct))) (decisions : Decisions)
    (failing : List LineNumber) : Rehearsal :=
  ⟨script, ⟨⟨decisions, #[]⟩, failing⟩, .empty, #[]⟩

/-- The same executor with empty logs. -/
def clearLogs (rehearsal : Rehearsal) : Rehearsal :=
  let inquiry := { rehearsal.control.decider with asked := #[] }
  { rehearsal with log := #[], control := { rehearsal.control with decider := inquiry } }

/-- How often a line was visited. -/
def visitsTo (rehearsal : Rehearsal) (line : LineNumber) : Nat :=
  (rehearsal.visits.get? line).getD 0

/-- The acts of the next visit to a line. -/
def actsOf (rehearsal : Rehearsal) (line : LineNumber) : List BlockAct :=
  match rehearsal.script.lookup line with
  | none => [.byControl]
  | some visits => (visits[min (rehearsal.visitsTo line) (visits.length - 1)]?).getD []

/-- Plays acts in order, up to the first fault. -/
def play (block : Block) (view : View) :
    List BlockAct → ControlState Inquiry → Turn × ControlState Inquiry
  | [], state => (⟨[], none⟩, state)
  | .fault message :: _, state => (⟨[], some message⟩, state)
  | .perform operation :: rest, state =>
      let (turn, state) := play block view rest state
      ({ turn with operations := operation :: turn.operations }, state)
  | .byControl :: rest, state =>
      let (first, state) := Executor.byControl .rehearsed state block view
      if first.fault.isSome then (first, state)
      else
        let (turn, state) := play block view rest state
        ({ turn with operations := first.operations ++ turn.operations }, state)

end Rehearsal

/-- **The executor of a rehearsal.** -/
def Executor.rehearsed : Executor Rehearsal := fun rehearsal block view =>
  let (turn, control) := Rehearsal.play block view (rehearsal.actsOf block.number) rehearsal.control
  let entry := ⟨view, (view.effect turn.operations).handler, turn.fault⟩
  (turn, { rehearsal with
    control := control
    visits := rehearsal.visits.insert block.number (rehearsal.visitsTo block.number + 1)
    log := rehearsal.log.push entry })

end NumberedProse
