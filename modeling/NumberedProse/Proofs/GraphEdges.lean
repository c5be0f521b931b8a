import Mathlib.Tactic.Common
import NumberedProse.Proofs.LineByLine

/-!
# The graph mirrors the lines

The passes of an analysis hand lists to one another: the controls are read off the lines, the edges
are drawn from the controls, and the mode only looks at whether there is an edge.  This module says
what the lists have to do with each other once the analysis has succeeded.

**A line names at most one other.**  A line with two cues is refused, and a single cue either moves
control or installs a handler, so no line does both (`LineControl.exclusive_ofLine`).

**An edge for every name.**  Hence each line draws at most one edge, the edges stand in the order of
their lines (`FlowGraph.pairwise_ofControls`), and they are exactly what the lines name
(`FlowGraph.mem_ofControls_iff`).
-/

namespace NumberedProse

/-! ## One line -/

namespace LineControl

/-- **What a line names:** the target of a transfer of the given kind, or a handler. -/
def Names (c : LineControl) (target : LineNumber) : TransferKind → Prop
  | .jump => c.control = .jump target
  | .branch => ∃ predicate, c.control = .branch target predicate
  | .call => c.control = .call target
  | .handler => c.handler = some target

/-- A line does not both install a handler and move control. -/
def Exclusive (c : LineControl) : Prop := c.handler = none ∨ c.control = .fallthrough

lemma exclusive_ofCue {line : LineNumber} {text : List Char} {lexemes : List Lexeme} {cue : Cue}
    {c : LineControl} (h : ofCue line text lexemes cue = .ok c) : c.Exclusive := by
  cases cue with
  | handler n =>
      obtain ⟨target, -, rfl⟩ := eq_of_lineTarget h
      exact .inr rfl
  | call n =>
      obtain ⟨target, -, rfl⟩ := eq_of_lineTarget h
      exact .inl rfl
  | ret =>
      cases h
      exact .inl rfl
  | jump n place =>
      simp only [ofCue] at h
      split at h
      · obtain ⟨target, -, rfl⟩ := eq_of_lineTarget h
        exact .inl rfl
      · obtain ⟨target, -, rfl⟩ := eq_of_lineTarget h
        exact .inl rfl

lemma exclusive_ofLine {line : Line} {c : LineControl} (h : ofLine line = .ok c) :
    c.Exclusive := by
  rw [ofLine_eq] at h
  split at h
  · cases h
    exact .inl rfl
  · exact exclusive_ofCue h
  · cases h

lemma mem_edges_iff {c : LineControl} {e : Edge} :
    e ∈ c.edges ↔ c.number = e.source ∧ c.Names e.target e.kind := by
  obtain ⟨source, target, kind⟩ := e
  obtain ⟨number, control, handler⟩ := c
  cases control <;> cases kind <;> simp [edges, Control.edge?, Names, eq_comm, and_comm]

lemma Exclusive.pairwise_edges {c : LineControl} (h : c.Exclusive) (r : Edge → Edge → Prop) :
    c.edges.Pairwise r := by
  obtain ⟨number, control, handler⟩ := c
  rcases h with h | h <;> simp only at h <;> subst h
  · cases control <;> simp [edges, Control.edge?]
  · cases handler <;> simp [edges, Control.edge?]

end LineControl

/-! ## All lines -/

namespace FlowGraph

variable {controls : List LineControl}

lemma mem_ofControls_iff {e : Edge} :
    e ∈ (ofControls controls).edges ↔
      ∃ c ∈ controls, c.number = e.source ∧ c.Names e.target e.kind := by
  simp only [ofControls, List.mem_flatMap, LineControl.mem_edges_iff]

/-- **The edges stand in the order of their lines.** -/
lemma pairwise_ofControls (hexclusive : ∀ c ∈ controls, c.Exclusive)
    (hincreasing : controls.Pairwise fun a b => a.number < b.number) :
    (ofControls controls).edges.Pairwise fun a b => a.source < b.source := by
  rw [ofControls, List.pairwise_flatMap]
  constructor
  · intro c hc
    exact (hexclusive c hc).pairwise_edges _
  · refine hincreasing.imp ?_
    intro a b hlt e he f hf
    rw [← (LineControl.mem_edges_iff.mp he).1, ← (LineControl.mem_edges_iff.mp hf).1]
    exact hlt

lemma edges_eq_nil_iff :
    (ofControls controls).edges = [] ↔
      ∀ c ∈ controls, (c.control = .fallthrough ∨ c.control = .ret) ∧ c.handler = none := by
  simp only [ofControls, List.flatMap_eq_nil_iff]
  refine forall₂_congr fun c _ => ?_
  obtain ⟨number, control, handler⟩ := c
  cases control <;> simp [LineControl.edges, Control.edge?]

lemma mode_eq_linear_iff {graph : FlowGraph} : graph.mode = .linear ↔ graph.edges = [] := by
  cases h : graph.edges <;> simp [mode, h]

end FlowGraph

lemma Program.pairwise_controls (program : Program) :
    program.controls.Pairwise fun a b => a.number < b.number := by
  simpa [controls, List.pairwise_map] using program.increasing

namespace Analysis

/-- **The graph mirrors the lines.**  A successful analysis has one control for each line of the
program, in program order.  Its edges stand in strictly increasing order of the lines that make
them; there is an edge exactly where a line names another, and both its ends are lines of the
program.  No line both installs a handler and moves control, and the mode is linear exactly if no
line names another. -/
theorem graph_mirrors_lines {source : String} {table : ResourceTable} {analysis : Analysis}
    (h : ofSource source table = .ok analysis) :
    (Program.parse source = .ok analysis.program ∧
      List.Forall₂ (fun line c => LineControl.ofLine line = .ok c ∧ c.number = line.number)
        analysis.program.lines.toList analysis.controls) ∧
    analysis.graph.edges.Pairwise (fun a b => a.source < b.source) ∧
    (∀ source target kind, ⟨source, target, kind⟩ ∈ analysis.graph.edges ↔
      ∃ c ∈ analysis.controls, c.number = source ∧ c.Names target kind) ∧
    (∀ e ∈ analysis.graph.edges,
      e.source ∈ analysis.program.numbers ∧ e.target ∈ analysis.program.numbers) ∧
    (∀ c ∈ analysis.controls, c.handler = none ∨ c.control = .fallthrough) ∧
    (analysis.mode = .linear ↔
      ∀ c ∈ analysis.controls,
        (c.control = .fallthrough ∨ c.control = .ret) ∧ c.handler = none) := by
  have checked := checked_of_ofSource h
  obtain ⟨hparse, hprogram⟩ := parse_of_ofSource h
  have hread : List.Forall₂ (fun line c => LineControl.ofLine line = .ok c ∧ c.number = line.number)
      analysis.program.lines.toList analysis.controls := by
    rw [checked.controls, Program.controls, List.forall₂_map_right_iff, List.forall₂_same]
    intro line hline
    exact ⟨ofLine_eq_ok hprogram (Array.mem_toList_iff.mp hline),
      LineControl.number_ofLineOrPlain line⟩
  have hexclusive : ∀ c ∈ analysis.controls, c.Exclusive := by
    intro c hc
    rw [checked.controls, Program.controls] at hc
    obtain ⟨line, hline, rfl⟩ := List.mem_map.mp hc
    exact LineControl.exclusive_ofLine (ofLine_eq_ok hprogram (Array.mem_toList_iff.mp hline))
  refine ⟨⟨hparse, hread⟩, ?_, ?_, ?_, hexclusive, ?_⟩
  · rw [checked.graph]
    refine FlowGraph.pairwise_ofControls hexclusive ?_
    rw [checked.controls]
    exact analysis.program.pairwise_controls
  · intro source target kind
    rw [checked.graph]
    exact FlowGraph.mem_ofControls_iff
  · intro e he
    refine ⟨?_, checked.resolved e he⟩
    rw [checked.graph] at he
    obtain ⟨c, hc, hsource, -⟩ := FlowGraph.mem_ofControls_iff.mp he
    rw [← analysis.program.map_number_controls, ← checked.controls, ← hsource]
    exact List.mem_map_of_mem hc
  · rw [checked.mode, checked.graph, FlowGraph.mode_eq_linear_iff, FlowGraph.edges_eq_nil_iff]

/-- A program with an edge of every kind, and a line that returns. -/
def fourKindsSource : String :=
  "50 return\n10 On Error goto 40\n20 if x > 3, jump to line 40\n30 gosub 50\n40 goto 10"

/-- The edges of that program, one for each line but the last. -/
theorem graph_mirrors_lines_fourKindsSource :
    ∃ analysis, ofSource fourKindsSource .empty = .ok analysis ∧
      analysis.graph.edges =
        [⟨10, 40, .handler⟩, ⟨20, 40, .branch⟩, ⟨30, 50, .call⟩, ⟨40, 10, .jump⟩] ∧
      (∃ c ∈ analysis.controls, c.number = 20 ∧ c.Names 40 .branch) ∧
      analysis.graph.edges.Pairwise (fun a b => a.source < b.source) ∧
      ¬ ∀ c ∈ analysis.controls,
        (c.control = .fallthrough ∨ c.control = .ret) ∧ c.handler = none := by
  have hsucceeds : (ofSource fourKindsSource .empty).toOption.any (fun analysis =>
      analysis.graph.edges =
        [⟨10, 40, .handler⟩, ⟨20, 40, .branch⟩, ⟨30, 50, .call⟩, ⟨40, 10, .jump⟩] ∧
      analysis.mode = .dispatch) = true := by
    decide +kernel
  obtain ⟨analysis, hanalysis, hfound⟩ := exists_ok_of_any hsucceeds
  obtain ⟨hedges, hmode⟩ := of_decide_eq_true hfound
  obtain ⟨-, hpairwise, hnames, -, -, hlinear⟩ := graph_mirrors_lines hanalysis
  refine ⟨analysis, hanalysis, hedges, ?_, hpairwise, ?_⟩
  · exact (hnames 20 40 .branch).mp (by simp [hedges])
  · rw [← hlinear, hmode]
    simp

end Analysis

end NumberedProse
