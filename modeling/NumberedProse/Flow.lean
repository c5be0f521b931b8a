import NumberedProse.Control.Error
import NumberedProse.Program

/-!
# Flow graphs

A line that names another line makes an edge to it.  Falling through and returning make none:
the one follows program order, the other the calls that are open at the time.

A program without edges runs straight down and needs no program counter, call stack or error
handler.  One edge anywhere puts the whole program into dispatch mode.
-/

namespace NumberedProse

/-- A line names another. -/
structure Edge where
  source : LineNumber
  target : LineNumber
  kind : TransferKind
deriving Repr, DecidableEq

/-- How a whole program is executed. -/
inductive Mode where
  /-- Line after line, with no state of control. -/
  | linear
  /-- By a program counter, with calls and error handlers. -/
  | dispatch
deriving Repr, DecidableEq

/-- The mode in words. -/
def Mode.render : Mode → String
  | linear => "linear"
  | dispatch => "dispatch"

/-- The edge that a line's control makes. -/
def Control.edge? (source : LineNumber) : Control → Option Edge
  | .jump target => some ⟨source, target, .jump⟩
  | .branch target _ => some ⟨source, target, .branch⟩
  | .call target => some ⟨source, target, .call⟩
  | .fallthrough | .ret => none

/-- The edges of a line, the one to its error handler first. -/
def LineControl.edges (c : LineControl) : List Edge :=
  (c.handler.map fun handler => ⟨c.number, handler, .handler⟩).toList
    ++ (c.control.edge? c.number).toList

/-- The edges of a program, in the order of the lines that make them. -/
structure FlowGraph where
  edges : List Edge
deriving Repr, DecidableEq

namespace FlowGraph

/-- The graph that the controls of lines make. -/
def ofControls (controls : List LineControl) : FlowGraph :=
  ⟨controls.flatMap LineControl.edges⟩

/-- The edges that a line makes. -/
def edgesFrom (graph : FlowGraph) (line : LineNumber) : List Edge :=
  graph.edges.filter (·.source == line)

/-- The edges of one kind. -/
def edgesOfKind (graph : FlowGraph) (kind : TransferKind) : List Edge :=
  graph.edges.filter (·.kind == kind)

/-- **The mode a graph asks for.** -/
def mode (graph : FlowGraph) : Mode := if graph.edges.isEmpty then .linear else .dispatch

/-- **Every edge that leads nowhere,** as an error. -/
def unresolved (graph : FlowGraph) (program : Program) : List ControlError :=
  (graph.edges.filter fun e => !program.contains e.target).map fun e =>
    .unresolved e.source e.target e.kind

end FlowGraph

end NumberedProse
