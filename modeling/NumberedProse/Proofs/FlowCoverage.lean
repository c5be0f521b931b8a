import Mathlib.Tactic.Common
import NumberedProse.Proofs.CalledLines
import NumberedProse.Proofs.ControlSteps
import NumberedProse.Proofs.MatchedReturns
import NumberedProse.Proofs.Safety

/-!
# The flow graph covers every run

The analysis draws an edge for every line that names another.  Falling through and returning draw
none, and an edge to a handler starts at the line that installs it, not at the lines that fail.  So
a run takes steps for which no edge leads from the line it is at.  `Analysis.Explains` lists what
stands behind each of them, and `Analysis.graph_covers_runs` says that the list is complete.

**Returns.**  A return goes to a place that a call has pushed (`exists_openedBy`), and by control
only a line that calls makes a call, so the place follows an earlier line that calls.

**Faults.**  The active handler was installed by a line that the run has executed, at the latest the
line that fails (`exists_installer`), and that line has the edge.
-/

namespace NumberedProse

/-! ## Explanations -/

/-- The kind of edge that a control makes. -/
def Control.kind? : Control → Option TransferKind
  | jump _ => some .jump
  | branch _ _ => some .branch
  | call _ => some .call
  | fallthrough | ret => none

namespace Analysis

/-- The control of a line, by its number. -/
def controlOf? (analysis : Analysis) (line : LineNumber) : Option Control :=
  (LineControl.lookup? analysis.controls line).map LineControl.control

/-- **What stands behind the step from line `a` to line `b`,** given the lines executed before `a`
and the fault of `a`, if it failed. -/
inductive Explains (analysis : Analysis) (earlier : List LineNumber) (fault : Option String)
    (a b : LineNumber) : Prop where
  /-- `a` falls through, and `b` comes next in program order. -/
  | onwards {control : Control} (hfault : fault = none)
      (hcontrol : analysis.controlOf? a = some control) (hfalls : control.fallsThrough)
      (hnext : analysis.program.successor? a = some b)
  /-- `a` names `b`, and the graph has the edge of this kind. -/
  | edge {control : Control} {kind : TransferKind} (hfault : fault = none)
      (hcontrol : analysis.controlOf? a = some control) (hkind : control.kind? = some kind)
      (hedge : ⟨a, b, kind⟩ ∈ analysis.graph.edges)
  /-- `a` returns, and `b` comes after an earlier line that calls. -/
  | back {caller target : LineNumber} (hfault : fault = none)
      (hcontrol : analysis.controlOf? a = some .ret) (hearlier : caller ∈ earlier)
      (hcaller : analysis.controlOf? caller = some (.call target))
      (hnext : analysis.program.successor? caller = some b)
  /-- `a` fails, and `a` or an earlier line has an edge to its handler `b`. -/
  | handled {installer : LineNumber} (hfault : fault ≠ none)
      (hinstaller : installer = a ∨ installer ∈ earlier)
      (hedge : ⟨installer, b, .handler⟩ ∈ analysis.graph.edges)

variable {analysis : Analysis} {assembly : Assembly}

lemma Yields.controlOf?_eq (yields : analysis.Yields assembly) (checked : analysis.Checked)
    {block : Block} (h : block ∈ assembly.blocks) :
    analysis.controlOf? block.number = some block.control := by
  have hlookup := LineControl.lookup?_eq_some checked.nodup_controls (yields.lineControl_mem h)
  simp only [Block.lineControl] at hlookup
  rw [controlOf?, hlookup, Option.map_some]

lemma Yields.edge_mem (yields : analysis.Yields assembly) (checked : analysis.Checked)
    {block : Block} (h : block ∈ assembly.blocks) {e : Edge}
    (hedge : block.control.edge? block.number = some e) : e ∈ analysis.graph.edges := by
  rw [checked.graph]
  exact FlowGraph.mem_ofControls_of_edge? (yields.lineControl_mem h) hedge

lemma Yields.handler_edge_mem (yields : analysis.Yields assembly) (checked : analysis.Checked)
    {block : Block} (h : block ∈ assembly.blocks) {handler : LineNumber}
    (hinstalls : block.handler = some handler) :
    ⟨block.number, handler, .handler⟩ ∈ analysis.graph.edges := by
  rw [checked.graph]
  exact FlowGraph.mem_ofControls_of_handler (yields.lineControl_mem h) hinstalls

end Analysis

/-! ## Where handlers and return addresses come from -/

namespace Assembly

variable {π : Type} {assembly : Assembly} {limits : Limits} {decider : Decider π}
  {x y : ControlState π} {i j n : Nat} {head : MachineState} {line : LineNumber} {turn : Turn}

/-- A step by control that makes a call executes a line that calls. -/
lemma exists_block_of_call
    (hturn : assembly.turnAt? limits (.byControl decider) x n = some (line, turn))
    {target : LineNumber} (hcall : turn.transfer? = some (.call target)) :
    ∃ block ∈ assembly.blocks, block.number = line ∧ block.control = .call target := by
  obtain ⟨head, y, block, successor, z, -, hexecutes⟩ := turnAt?_eq_some_iff.mp hturn
  obtain ⟨hblock, hnumber, -⟩ := locate?_eq_some hexecutes.located
  obtain ⟨holds, hholds⟩ := hexecutes.transfer?_byControl (Turn.fault_eq_none hcall)
  rw [hcall] at hholds
  exact ⟨block, hblock, hnumber, Control.eq_call_of_transfer hholds.symm⟩

/-- The place that a return goes back to comes after a line that has been executed and calls. -/
lemma exists_caller (hhead : assembly.head? limits (.byControl decider) x n = some (head, y))
    {b : LineNumber} {rest : CallStack} (hpop : head.registers.stack.pop? = some (.line b, rest)) :
    ∃ j < n, ∃ turn target, ∃ block ∈ assembly.blocks, block.control = .call target ∧
      assembly.turnAt? limits (.byControl decider) x j = some (block.number, turn) ∧
      assembly.successor? block.number = some b := by
  have htop : head.registers.stack.frames[rest.depth]? = some (.line b) := by
    rw [CallStack.frames_of_pop? hpop, CallStack.depth_eq_length, List.getElem?_concat_length]
  obtain ⟨j, hopened⟩ := exists_openedBy hhead htop
  obtain ⟨line, turn, target, hturn, hcall, hplace⟩ := hopened.caller
  obtain ⟨block, hblock, rfl, hcontrol⟩ := exists_block_of_call hturn hcall
  exact ⟨j, hopened.before, turn, target, block, hblock, hcontrol, hturn,
    Destination.ofSuccessor_eq_line_iff.mp hplace.symm⟩

/-- A line of an earlier turn is among the lines visited before. -/
lemma Visits.mem_take {visited : List LineNumber} (hmode : assembly.mode = .dispatch)
    (h : assembly.Visits limits (.byControl decider) x visited) {a : LineNumber}
    (hi : visited[i]? = some a) (hj : j < i)
    (hturn : assembly.turnAt? limits (.byControl decider) x j = some (line, turn)) :
    line ∈ visited.take i := by
  obtain ⟨hlength, -⟩ := List.getElem?_eq_some_iff.mp hi
  obtain ⟨m, hm⟩ : ∃ m, visited[j]? = some m :=
    ⟨_, List.getElem?_eq_getElem (Nat.lt_trans hj hlength)⟩
  obtain ⟨_, hsame⟩ := h.turnAt? hmode hm
  rw [hturn] at hsame
  cases hsame
  refine List.mem_of_getElem? (i := j) ?_
  rw [List.getElem?_take_of_lt hj]
  exact hm

end Assembly

/-! ## Coverage -/

namespace Analysis

variable {analysis : Analysis} {assembly : Assembly} {π : Type} {limits : Limits}
  {decider : Decider π} {x : ControlState π} {visited : List LineNumber} {i : Nat}
  {a b : LineNumber}

/-- A move from the block of a visited line to the line visited next is explained. -/
lemma Yields.explains_of_moves (yields : analysis.Yields assembly) (checked : analysis.Checked)
    (hmode : assembly.mode = .dispatch)
    (hvisits : assembly.Visits limits (.byControl decider) x visited) (ha : visited[i]? = some a)
    {head : MachineState} {y : ControlState π}
    (hhead : assembly.head? limits (.byControl decider) x i = some (head, y)) {block : Block}
    (hblock : block ∈ assembly.blocks) {fault : Option String} (hfault : fault = none)
    {rest : CallStack}
    (hmoves : block.control.Moves (.ofSuccessor (assembly.successor? block.number))
      head.registers.stack (.line b) rest) :
    analysis.Explains (visited.take i) fault block.number b := by
  have hcontrol := yields.controlOf?_eq checked hblock
  have hedge := fun e => yields.edge_mem checked hblock (e := e)
  generalize block.control = control at hmoves hcontrol hedge
  generalize hplace : Destination.line b = place at hmoves
  cases hmoves with
  | onwards hfalls =>
      have hnext := Destination.ofSuccessor_eq_line_iff.mp hplace.symm
      rw [yields.successor?_eq] at hnext
      exact .onwards hfault hcontrol hfalls hnext
  | jump target =>
      cases hplace
      exact .edge hfault hcontrol rfl (hedge _ rfl)
  | branch target predicate =>
      cases hplace
      exact .edge hfault hcontrol rfl (hedge _ rfl)
  | call target =>
      cases hplace
      exact .edge hfault hcontrol rfl (hedge _ rfl)
  | ret hpop =>
      subst hplace
      obtain ⟨j, hj, turn, target, caller, hcaller, hcall, hturn, hnext⟩ :=
        Assembly.exists_caller hhead hpop
      rw [yields.successor?_eq] at hnext
      have hcalls := yields.controlOf?_eq checked hcaller
      rw [hcall] at hcalls
      exact .back hfault hcontrol (hvisits.mem_take hmode ha hj hturn) hcalls hnext

/-- **The flow graph covers every run.**  Of two lines that a run visits one after the other, the
second comes next in program order and the first falls through, or the graph has an edge of the
kind of the first line's control between them, or the first returns to the place after an earlier
line that calls, or it fails and a line executed by then has an edge to its handler, the second
line. -/
theorem graph_covers_runs {σ : Type} {source : String} {table : ResourceTable}
    (hanalysis : ofSource source table = .ok analysis) {translator : Translator σ}
    {switch : CancelSwitch} {state : σ} {compilation : Compilation}
    (hcompile : (analysis.compile translator switch state).result = .ok compilation)
    (hmode : compilation.assembly.mode = .dispatch) (limits : Limits) (decider : Decider π)
    (x : ControlState π)
    (hvisits : compilation.assembly.Visits limits (.byControl decider) x visited)
    (ha : visited[i]? = some a) (hb : visited[i + 1]? = some b) :
    ∃ turn, compilation.assembly.turnAt? limits (.byControl decider) x i = some (a, turn) ∧
      analysis.Explains (visited.take i) turn.fault a b := by
  have checked := checked_of_ofSource hanalysis
  obtain ⟨yields, -⟩ := checked.yields hcompile
  obtain ⟨turn, hturn⟩ := hvisits.turnAt? hmode ha
  refine ⟨turn, hturn, ?_⟩
  -- the step from `a` leads to the head that `b` is executed from
  obtain ⟨later, hlater⟩ := hvisits.turnAt? hmode hb
  obtain ⟨next, z, _, _, _, hnext, hfollows⟩ := Assembly.turnAt?_eq_some_iff.mp hlater
  obtain ⟨head, y, hhead⟩ := Assembly.exists_head?_of_le (Nat.le_succ i) hnext
  obtain ⟨line, block, successor, _, hexecutes, -, hmoves⟩ :=
    Assembly.next_byControl (Assembly.advance_of_head? hhead hnext)
  obtain ⟨hblock, rfl, rfl⟩ := Assembly.locate?_eq_some hexecutes.located
  have hsame := hexecutes.turnAt? hhead
  rw [hturn] at hsame
  cases hsame
  rcases hmoves with ⟨hfault, hmoves⟩ | ⟨hfault, -, handler, hactive, hpc⟩
  · rw [hfollows.pc] at hmoves
    exact yields.explains_of_moves checked hmode hvisits ha hhead hblock hfault hmoves
  · obtain rfl : b = handler := Destination.line.inj (hfollows.pc.symm.trans hpc)
    obtain ⟨j, hj, _, installer, hinstaller, hinstalls, hinstalled⟩ :=
      Assembly.exists_installer hnext hactive
    have hedge := yields.handler_edge_mem checked hinstaller hinstalls
    refine .handled hfault ?_ hedge
    rcases Nat.lt_or_eq_of_le (Nat.le_of_lt_succ hj) with hlt | rfl
    · exact Or.inr (hvisits.mem_take hmode ha hlt hinstalled)
    · rw [hturn] at hinstalled
      exact Or.inl (Prod.mk.inj (Option.some.inj hinstalled)).1.symm

/-- In the run of the sample with a fault in the called line 40, the third line visited is 40 and
the fourth is the handler 60, which line 10 has installed. -/
theorem graph_covers_runs_sampleSource :
    ∃ analysis compilation report, ofSource Compilation.sampleSource .empty = .ok analysis ∧
      (analysis.compile .echo .absent ()).result = .ok compilation ∧
      compilation.assembly.mode = .dispatch ∧
      compilation.assembly.run? .standard (.byControl (.taking [])) 10 ⟨(), [40]⟩ = some report ∧
      report.visited = [10, 20, 40, 60, 30, 70] ∧
      ∃ turn, compilation.assembly.turnAt? .standard (.byControl (.taking [])) ⟨(), [40]⟩ 2 =
        some (40, turn) ∧ analysis.Explains [10, 20] turn.fault 40 60 := by
  have hruns : (ofSource Compilation.sampleSource .empty).toOption.any (fun analysis =>
      (analysis.compile .echo .absent ()).result.toOption.any fun compilation =>
        (compilation.assembly.run? .standard (.byControl (.taking [])) 10 ⟨(), [40]⟩).any
          fun report => compilation.assembly.mode = .dispatch ∧
            report.visited = [10, 20, 40, 60, 30, 70]) = true := by
    decide +kernel
  obtain ⟨analysis, hanalysis, hruns⟩ := exists_ok_of_any hruns
  obtain ⟨compilation, hcompile, hruns⟩ := exists_ok_of_any hruns
  obtain ⟨report, hreport, hruns⟩ := (Option.any_eq_true _ _).mp hruns
  obtain ⟨hmode, hvisited⟩ := of_decide_eq_true hruns
  have hvisits : compilation.assembly.Visits .standard (.byControl (.taking [])) ⟨(), [40]⟩
      report.visited := Or.inr ⟨10, report, hreport, rfl⟩
  rw [hvisited] at hvisits
  exact ⟨analysis, compilation, report, hanalysis, hcompile, hmode, hreport, hvisited,
    graph_covers_runs hanalysis hcompile hmode .standard (.taking []) ⟨(), [40]⟩ hvisits rfl rfl⟩

end Analysis

end NumberedProse
