import NumberedProse.Flow

/-!
# Returns that no call can reach

A return needs an open call.  Walking on from the targets of all calls finds every line that a
called line can lead to; a return outside that set draws a warning.  The walk treats a call as
coming back to the next line, and an error handler as reachable from the line that installs it,
because a fault in a called line lands there with the call still open.
-/

namespace NumberedProse

/-- How much work lines that have not been met can still cause: one for each of them, and one for
each line they lead to. -/
def work (next : LineNumber → List LineNumber) : (unseen : List LineNumber) → Nat
  | [] => 0
  | line :: rest => (next line).length + 1 + work next rest

/-- Meeting a line takes its own work away. -/
theorem work_erase (next : LineNumber → List LineNumber) {line : LineNumber}
    {unseen : List LineNumber} (h : line ∈ unseen) :
    work next (unseen.erase line) + (next line).length + 1 = work next unseen := by
  induction unseen with
  | nil => cases h
  | cons first rest ih =>
      by_cases hfirst : first = line
      · subst hfirst
        simp only [work, List.erase_cons_head]
        omega
      · have hrest : line ∈ rest := (List.mem_cons.mp h).resolve_left (Ne.symm hfirst)
        have hwork := ih hrest
        have htail : (first :: rest).erase line = first :: rest.erase line :=
          List.erase_cons_tail (by simpa using hfirst)
        rw [htail]
        simp only [work] at hwork ⊢
        omega

/-- **A breadth-first walk.**  Lists the lines reached from a queue, in the order in which they are
first met, where `unseen` holds the lines that may still be met. -/
def walk (next : LineNumber → List LineNumber) (unseen : List LineNumber) :
    (queue : List LineNumber) → List LineNumber
  | [] => []
  | line :: queue =>
      if h : line ∈ unseen then
        have _ := work_erase next h
        line :: walk next (unseen.erase line) (queue ++ next line)
      else walk next unseen queue
termination_by queue => work next unseen + queue.length
decreasing_by
  · simp only [List.length_append, List.length_cons]
    omega
  · simp

/-- A remark on a program that can be compiled all the same. -/
inductive Warning where
  /-- No call leads to this return. -/
  | unreachableReturn (line : LineNumber)
deriving Repr, DecidableEq

namespace Warning

/-- The line the warning is about. -/
def line : Warning → LineNumber
  | unreachableReturn line => line

/-- The wording of the warning. -/
def message : Warning → String
  | unreachableReturn line =>
      s!"warning: line {line}: return is not reachable from any call\n" ++
        "  hint: executing it will fail with an unbalanced return"

end Warning

/-- **Where a called line can lead** in one move. -/
def LineControl.continuations (program : Program) (c : LineControl) : List LineNumber :=
  let onwards := match c.control with
    | .fallthrough | .call _ => (program.successor? c.number).toList
    | .jump target => [target]
    | .branch target _ => target :: (program.successor? c.number).toList
    | .ret => []
  onwards ++ c.handler.toList

/-- The control of a line among many.  Of several entries for one line the last one counts. -/
def LineControl.lookup? (controls : List LineControl) (line : LineNumber) : Option LineControl :=
  controls.reverse.find? (·.number == line)

namespace FlowGraph

/-- **The lines that calls can lead to.** -/
def calledLines (graph : FlowGraph) (program : Program) (controls : List LineControl) :
    List LineNumber :=
  let next line := match LineControl.lookup? controls line with
    | some c => c.continuations program
    | none => []
  walk next program.numbers ((graph.edgesOfKind .call).map Edge.target)

/-- **The warnings on a graph** whose edges all lead to lines of the program. -/
def unreachableReturns (graph : FlowGraph) (program : Program) (controls : List LineControl) :
    List Warning :=
  let called := graph.calledLines program controls
  (controls.filter fun c => c.control == .ret && !called.contains c.number).map fun c =>
    .unreachableReturn c.number

end FlowGraph

/-- A graph that has been checked, and the remarks on it. -/
structure Flow where
  graph : FlowGraph
  warnings : List Warning
deriving Repr, DecidableEq

/-- **Builds and checks the flow graph** of a program whose lines have the given controls.  It fails
with every edge that leads nowhere. -/
def Flow.build (program : Program) (controls : List LineControl) :
    Except (List ControlError) Flow :=
  let graph := FlowGraph.ofControls controls
  match graph.unresolved program with
  | [] => .ok ⟨graph, graph.unreachableReturns program controls⟩
  | errors => .error errors

end NumberedProse
