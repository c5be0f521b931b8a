import Mathlib.Tactic.Common
import NumberedProse.Compilation
import NumberedProse.Proofs.Search

/-!
# What a compilation keeps

The facts that tie a compiled program to its source, in two groups.

**A successful analysis is checked.**  `Analysis.Checked` collects what the static passes leave
behind: one control for each line, a graph made of these controls, and no edge that leads out of the
program.  `Analysis.checked_of_ofSource` says that every analysis of a source text is of this kind.

**Compiling keeps the control of every line.**  A translator chooses the statements of a block and
nothing else, so the blocks carry the lines of the program and their controls in program order
(`Analysis.Yields`), whatever the translator answers.  Resources and their uses are kept as well
(`Analysis.Checked.resources_and_uses`).
-/

namespace NumberedProse

lemma exists_ok_of_any {ε α : Type} {result : Except ε α} {p : α → Bool}
    (h : result.toOption.any p = true) : ∃ a, result = .ok a ∧ p a = true := by
  cases result with
  | error e => cases h
  | ok a => exact ⟨a, rfl, h⟩

/-! ## Lines and their numbers -/

namespace LineControl

/-- A control made from a line number that a cue names has a line number behind it. -/
lemma eq_of_lineTarget {ε α β : Type} {target : Except ε α} {make : α → β} {b : β}
    (h : (do return make (← target)) = Except.ok b) : ∃ a, target = .ok a ∧ make a = b := by
  cases target with
  | error e => cases h
  | ok a =>
      cases h
      exact ⟨a, rfl, rfl⟩

/-- **A cue says what its own line does.** -/
lemma number_ofCue {line : LineNumber} {text : List Char} {lexemes : List Lexeme} {cue : Cue}
    {c : LineControl} (h : ofCue line text lexemes cue = .ok c) : c.number = line := by
  cases cue with
  | handler n =>
      obtain ⟨target, -, rfl⟩ := eq_of_lineTarget h
      rfl
  | call n =>
      obtain ⟨target, -, rfl⟩ := eq_of_lineTarget h
      rfl
  | ret =>
      cases h
      rfl
  | jump n place =>
      simp only [ofCue] at h
      split at h
      · obtain ⟨target, -, rfl⟩ := eq_of_lineTarget h
        rfl
      · obtain ⟨target, -, rfl⟩ := eq_of_lineTarget h
        rfl

/-- The control read from a line carries the number of the line, faulty or not. -/
@[simp] lemma number_ofLineOrPlain (line : Line) : (ofLineOrPlain line).number = line.number := by
  simp only [ofLineOrPlain]
  split
  · next c hc =>
      simp only [ofLine] at hc
      split at hc
      · cases hc
        rfl
      · exact number_ofCue hc
      · cases hc
  · rfl

end LineControl

namespace Program

/-- There is one control for each line, under the number of the line. -/
lemma map_number_controls (program : Program) :
    program.controls.map LineControl.number = program.numbers := by
  simp [controls, numbers, Function.comp_def]

end Program

/-! ## Edges -/

/-- A control that names a line makes an edge to it. -/
lemma Control.exists_edge? {control : Control} {target : LineNumber} (source : LineNumber)
    (h : control.target? = some target) :
    ∃ kind, control.edge? source = some ⟨source, target, kind⟩ := by
  cases control with
  | fallthrough => cases h
  | jump t =>
      cases h
      exact ⟨.jump, rfl⟩
  | branch t predicate =>
      cases h
      exact ⟨.branch, rfl⟩
  | call t =>
      cases h
      exact ⟨.call, rfl⟩
  | ret => cases h

namespace FlowGraph

variable {controls : List LineControl} {c : LineControl} {target : LineNumber}

lemma mem_ofControls_of_edge? {e : Edge} (hc : c ∈ controls)
    (h : c.control.edge? c.number = some e) : e ∈ (ofControls controls).edges := by
  refine List.mem_flatMap.mpr ⟨c, hc, ?_⟩
  simp [LineControl.edges, h]

lemma mem_ofControls_of_target? (hc : c ∈ controls) (h : c.control.target? = some target) :
    ∃ kind, ⟨c.number, target, kind⟩ ∈ (ofControls controls).edges := by
  obtain ⟨kind, hkind⟩ := Control.exists_edge? c.number h
  exact ⟨kind, mem_ofControls_of_edge? hc hkind⟩

lemma mem_ofControls_of_handler (hc : c ∈ controls) (h : c.handler = some target) :
    ⟨c.number, target, .handler⟩ ∈ (ofControls controls).edges := by
  refine List.mem_flatMap.mpr ⟨c, hc, ?_⟩
  simp [LineControl.edges, h]

/-- The call of a line is an edge of the graph. -/
lemma mem_ofControls_of_call (hc : c ∈ controls) (h : c.control = .call target) :
    ⟨c.number, target, .call⟩ ∈ (ofControls controls).edges :=
  mem_ofControls_of_edge? hc (by rw [h]; rfl)

end FlowGraph

/-! ## Checked analyses -/

namespace Analysis

/-- **What the static passes leave behind** when they find no fault. -/
structure Checked (analysis : Analysis) : Prop where
  controls : analysis.controls = analysis.program.controls
  graph : analysis.graph = .ofControls analysis.controls
  /-- Every edge leads to a line of the program. -/
  resolved : ∀ e ∈ analysis.graph.edges, e.target ∈ analysis.program.numbers
  mode : analysis.mode = analysis.graph.mode
  warnings : analysis.warnings =
    analysis.graph.unreachableReturns analysis.program analysis.controls

/-- A graph is built only if all its edges lead to lines of the program. -/
lemma resolved_of_unresolved_eq_nil {graph : FlowGraph} {program : Program}
    (h : graph.unresolved program = []) : ∀ e ∈ graph.edges, e.target ∈ program.numbers := by
  intro e he
  by_contra hmissing
  have hnot : program.contains e.target = false := by
    rw [Bool.eq_false_iff]
    exact fun hcontains => hmissing (program.contains_iff.mp hcontains)
  have herror : .unresolved e.source e.target e.kind ∈ graph.unresolved program :=
    List.mem_map.mpr ⟨e, List.mem_filter.mpr ⟨he, by simp [hnot]⟩, rfl⟩
  rw [h] at herror
  cases herror

/-- What an analysis is made of, if it succeeds. -/
lemma ofProgram_ok {program : Program} {table : ResourceTable} {analysis : Analysis}
    (h : ofProgram program table = .ok analysis) :
    (FlowGraph.ofControls program.controls).unresolved program = [] ∧
      analysis = {
        program
        controls := program.controls
        graph := .ofControls program.controls
        mode := (FlowGraph.ofControls program.controls).mode
        context := .ofProgram program table
        warnings := (FlowGraph.ofControls program.controls).unreachableReturns program
          program.controls } := by
  simp only [ofProgram, Flow.build] at h
  cases hunresolved : (FlowGraph.ofControls program.controls).unresolved program with
  | cons e rest =>
      rw [hunresolved] at h
      cases h
  | nil =>
      rw [hunresolved] at h
      simp only at h
      split at h
      · cases h
        exact ⟨rfl, rfl⟩
      · cases h

lemma exists_ofProgram_of_ofSource {source : String} {table : ResourceTable} {analysis : Analysis}
    (h : ofSource source table = .ok analysis) :
    ∃ program, ofProgram program table = .ok analysis := by
  simp only [ofSource] at h
  split at h
  · cases h
  · next program _ => exact ⟨program, h⟩

lemma parse_of_ofSource {source : String} {table : ResourceTable} {analysis : Analysis}
    (h : ofSource source table = .ok analysis) :
    Program.parse source = .ok analysis.program ∧
      ofProgram analysis.program table = .ok analysis := by
  simp only [ofSource] at h
  split at h
  · cases h
  · next program hprogram =>
      have hparts := (ofProgram_ok h).2
      rw [hparts] at h ⊢
      exact ⟨hprogram, h⟩

/-- **Every analysis of a source text is checked.** -/
theorem checked_of_ofSource {source : String} {table : ResourceTable} {analysis : Analysis}
    (h : ofSource source table = .ok analysis) : analysis.Checked := by
  obtain ⟨program, hprogram⟩ := exists_ofProgram_of_ofSource h
  obtain ⟨hunresolved, rfl⟩ := ofProgram_ok hprogram
  exact ⟨rfl, rfl, resolved_of_unresolved_eq_nil hunresolved, rfl, rfl⟩

lemma context_of_ofSource {source : String} {table : ResourceTable} {analysis : Analysis}
    (h : ofSource source table = .ok analysis) :
    analysis.context = .ofProgram analysis.program table := by
  obtain ⟨program, hprogram⟩ := exists_ofProgram_of_ofSource h
  obtain ⟨-, rfl⟩ := ofProgram_ok hprogram
  rfl

namespace Checked

variable {analysis : Analysis} (checked : analysis.Checked) {c : LineControl} {n : LineNumber}
include checked

lemma target?_mem (hc : c ∈ analysis.controls) (h : c.control.target? = some n) :
    n ∈ analysis.program.numbers := by
  obtain ⟨kind, hedge⟩ := FlowGraph.mem_ofControls_of_target? hc h
  rw [← checked.graph] at hedge
  exact checked.resolved _ hedge

lemma handler_mem (hc : c ∈ analysis.controls) (h : c.handler = some n) :
    n ∈ analysis.program.numbers := by
  have hedge := FlowGraph.mem_ofControls_of_handler hc h
  rw [← checked.graph] at hedge
  exact checked.resolved _ hedge

/-- **A linear program names no line:** a single edge would have put it into dispatch mode. -/
lemma names_nothing (hmode : analysis.mode = .linear) (hc : c ∈ analysis.controls) :
    c.control.target? = none ∧ c.handler = none := by
  have hempty : analysis.graph.edges = [] := by
    have hlinear := checked.mode.symm.trans hmode
    simp only [FlowGraph.mode] at hlinear
    split at hlinear
    · next hnil => exact List.isEmpty_iff.mp hnil
    · cases hlinear
  constructor
  · rw [Option.eq_none_iff_forall_ne_some]
    intro target htarget
    obtain ⟨kind, hedge⟩ := FlowGraph.mem_ofControls_of_target? hc htarget
    rw [← checked.graph, hempty] at hedge
    cases hedge
  · rw [Option.eq_none_iff_forall_ne_some]
    intro target htarget
    have hedge := FlowGraph.mem_ofControls_of_handler hc htarget
    rw [← checked.graph, hempty] at hedge
    cases hedge

end Checked

end Analysis

/-! ## Compiled assemblies -/

/-- The control of the line that a block was made from. -/
def Block.lineControl (block : Block) : LineControl :=
  ⟨block.number, block.control, block.handler⟩

namespace Analysis

/-- **What a compilation keeps of an analysis:** all but the statements. -/
structure Yields (analysis : Analysis) (assembly : Assembly) : Prop where
  mode : assembly.mode = analysis.mode
  lines : assembly.blocks.toList.map Block.line = analysis.program.lines.toList
  controls : assembly.blocks.toList.map Block.lineControl = analysis.controls

variable {σ : Type}

/-- An answer that is accepted leaves the line, its control and its use of a resource as they are.
-/
lemma translateLine_ok {analysis : Analysis} {translator : Translator σ} {switch : CancelSwitch}
    {state : σ} {line : Line} {control : LineControl} {block : Block}
    (hnumber : control.number = line.number)
    (h : (analysis.translateLine translator switch state line control).result = .ok block) :
    block.line = line ∧ block.lineControl = control ∧
      block.use = analysis.context.use line.number := by
  simp only [translateLine] at h
  split at h
  · cases h
  · simp only [accept] at h
    split at h
    · cases h
    · split at h
      · cases h
      · cases h
        refine ⟨rfl, ?_, rfl⟩
        simp only [Block.lineControl, Block.number, Analysis.block, request, ← hnumber]

lemma translateLines_ok {analysis : Analysis} {translator : Translator σ} {switch : CancelSwitch}
    {state : σ} {jobs : List (Line × LineControl)} {blocks : List Block}
    (hnumbers : ∀ job ∈ jobs, job.2.number = job.1.number)
    (h : (analysis.translateLines translator switch state jobs).result = .ok blocks) :
    blocks.map Block.line = jobs.map Prod.fst ∧
      blocks.map Block.lineControl = jobs.map Prod.snd ∧
      ∀ block ∈ blocks, block.use = analysis.context.use block.number := by
  induction jobs generalizing switch state blocks with
  | nil =>
      cases h
      exact ⟨rfl, rfl, fun block hblock => absurd hblock List.not_mem_nil⟩
  | cons job rest ih =>
      obtain ⟨line, control⟩ := job
      simp only [translateLines] at h
      split at h
      · cases h
      · next block hblock =>
          split at h
          · cases h
          · next others hothers =>
              cases h
              obtain ⟨hline, hcontrol, huse⟩ :=
                translateLine_ok (hnumbers _ List.mem_cons_self) hblock
              obtain ⟨hlines, hcontrols, huses⟩ :=
                ih (fun job hjob => hnumbers job (List.mem_cons_of_mem _ hjob)) hothers
              refine ⟨?_, ?_, List.forall_mem_cons.mpr ⟨?_, huses⟩⟩
              · rw [List.map_cons, List.map_cons, hline, hlines]
              · rw [List.map_cons, List.map_cons, hcontrol, hcontrols]
              · rw [huse, Block.number, hline]

/-- The jobs of a checked analysis pair every line with its own control. -/
lemma Checked.jobs_eq {analysis : Analysis} (checked : analysis.Checked) :
    analysis.jobs = analysis.program.lines.toList.map
      fun line => (line, LineControl.ofLineOrPlain line) := by
  rw [jobs, checked.controls, Program.controls, List.map_prod_left_eq_zip]

lemma Checked.number_of_job {analysis : Analysis} (checked : analysis.Checked) :
    ∀ job ∈ analysis.jobs, job.2.number = job.1.number := by
  intro job hjob
  rw [checked.jobs_eq] at hjob
  obtain ⟨line, -, rfl⟩ := List.mem_map.mp hjob
  exact LineControl.number_ofLineOrPlain line

/-- What a compilation is made of, if it succeeds. -/
lemma compile_ok {analysis : Analysis} {translator : Translator σ} {switch : CancelSwitch}
    {state : σ} {compilation : Compilation}
    (h : (analysis.compile translator switch state).result = .ok compilation) :
    ∃ blocks, (analysis.translateLines translator switch state analysis.jobs).result = .ok blocks ∧
      compilation =
        ⟨⟨analysis.mode, analysis.context.entries, blocks.toArray⟩, analysis.warnings⟩ := by
  simp only [compile] at h
  split at h
  · cases h
  · next blocks hblocks =>
      split at h
      · cases h
      · cases h
        exact ⟨blocks, hblocks, rfl⟩

/-- **Compiling keeps lines, controls and mode,** whatever the translator answers. -/
theorem Checked.yields {analysis : Analysis} (checked : analysis.Checked)
    {translator : Translator σ} {switch : CancelSwitch} {state : σ} {compilation : Compilation}
    (h : (analysis.compile translator switch state).result = .ok compilation) :
    analysis.Yields compilation.assembly ∧ compilation.warnings = analysis.warnings := by
  obtain ⟨blocks, hblocks, rfl⟩ := compile_ok h
  obtain ⟨hlines, hcontrols, -⟩ := translateLines_ok checked.number_of_job hblocks
  rw [checked.jobs_eq, List.map_map] at hlines hcontrols
  refine ⟨⟨rfl, ?_, ?_⟩, rfl⟩
  · simpa [Function.comp_def] using hlines
  · rw [checked.controls]
    simpa [Program.controls, Function.comp_def] using hcontrols

/-- **Compiling keeps the use of resources** as the analysis has it. -/
theorem Checked.resources_and_uses {analysis : Analysis} (checked : analysis.Checked)
    {translator : Translator σ} {switch : CancelSwitch} {state : σ} {compilation : Compilation}
    (h : (analysis.compile translator switch state).result = .ok compilation) :
    compilation.assembly.resources = analysis.context.entries ∧
      ∀ block ∈ compilation.assembly.blocks, block.use = analysis.context.use block.number := by
  obtain ⟨blocks, hblocks, rfl⟩ := compile_ok h
  obtain ⟨-, -, huses⟩ := translateLines_ok checked.number_of_job hblocks
  exact ⟨rfl, fun block hblock => huses block (by simpa using hblock)⟩

end Analysis

namespace Analysis.Yields

variable {analysis : Analysis} {assembly : Assembly} (yields : analysis.Yields assembly)
include yields

/-- The blocks carry the numbers of the lines. -/
lemma numbers_eq : assembly.numbers = analysis.program.numbers := by
  rw [Program.numbers, ← yields.lines, List.map_map]
  rfl

/-- The blocks stand in program order. -/
lemma ordered : assembly.Ordered := by
  have hlines := analysis.program.increasing
  rw [← yields.lines, List.pairwise_map] at hlines
  exact hlines

lemma successor?_eq (n : LineNumber) : assembly.successor? n = analysis.program.successor? n :=
  Numbered.successor?_congr yields.ordered analysis.program.increasing yields.numbers_eq

/-- Every block carries the control of a line. -/
lemma lineControl_mem {block : Block} (h : block ∈ assembly.blocks) :
    block.lineControl ∈ analysis.controls := by
  rw [← yields.controls]
  exact List.mem_map_of_mem (Array.mem_toList_iff.mpr h)

end Analysis.Yields

namespace Compilation

variable {σ : Type} {source : String} {table : ResourceTable} {translator : Translator σ}
  {switch : CancelSwitch} {state : σ} {compilation : Compilation}

lemma exists_compile_of_ofSource
    (h : (ofSource source table translator switch state).result = .ok compilation) :
    ∃ analysis, Analysis.ofSource source table = .ok analysis ∧
      (analysis.compile translator switch state).result = .ok compilation := by
  simp only [ofSource] at h
  split at h
  · cases h
  · next analysis hanalysis => exact ⟨analysis, hanalysis, h⟩

/-- **A source that compiles has a checked analysis,** and the assembly is what it yields. -/
theorem exists_analysis
    (h : (ofSource source table translator switch state).result = .ok compilation) :
    ∃ analysis : Analysis, analysis.Checked ∧ analysis.Yields compilation.assembly := by
  obtain ⟨analysis, hanalysis, hcompile⟩ := exists_compile_of_ofSource h
  have checked := Analysis.checked_of_ofSource hanalysis
  exact ⟨analysis, checked, (checked.yields hcompile).1⟩

end Compilation

end NumberedProse
