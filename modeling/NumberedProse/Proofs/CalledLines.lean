import Mathlib.Data.List.Nodup
import Mathlib.Tactic.Common
import NumberedProse.Proofs.Compiled

/-!
# The lines that calls can lead to

The walk behind the warnings, as a set of lines.

**The walk.**  `walk` takes every line at most once, so its answer is a set: it holds the lines of
the queue (`mem_walk_of_mem_queue`) and with every line all that it leads to (`walk_closed`), as far
as they are lines of the program.

**On a compiled program** both conditions are always met, because every edge leads to a line.  Hence
`Assembly.CalledClosed`: the target of every call is a called line, and control that is at a called
line and does not return stays among the called lines, a call counting as coming back to the line
after it.
-/

namespace NumberedProse

/-! ## The walk -/

variable {next : LineNumber → List LineNumber} {unseen queue : List LineNumber}

lemma mem_walk_of_mem_queue {line : LineNumber} (hqueue : line ∈ queue) (hunseen : line ∈ unseen) :
    line ∈ walk next unseen queue := by
  fun_induction walk next unseen queue with
  | case1 unseen => cases hqueue
  | case2 unseen first queue hfirst hwork ih =>
      by_cases heq : line = first
      · rw [heq]
        exact List.mem_cons_self
      · refine List.mem_cons_of_mem _ (ih ?_ ((List.mem_erase_of_ne heq).mpr hunseen))
        rcases List.mem_cons.mp hqueue with hhead | htail
        · exact absurd hhead heq
        · exact List.mem_append_left _ htail
  | case3 unseen first queue hfirst ih =>
      refine ih ?_ hunseen
      rcases List.mem_cons.mp hqueue with hhead | htail
      · rw [hhead] at hunseen
        exact absurd hunseen hfirst
      · exact htail

/-- **The walk leads to all that its lines lead to.** -/
theorem walk_closed {line onward : LineNumber} (hline : line ∈ walk next unseen queue)
    (honward : onward ∈ next line) (hunseen : onward ∈ unseen) :
    onward ∈ walk next unseen queue := by
  fun_induction walk next unseen queue with
  | case1 unseen => cases hline
  | case2 unseen first queue hfirst hwork ih =>
      by_cases heq : onward = first
      · rw [heq]
        exact List.mem_cons_self
      · have hleft : onward ∈ unseen.erase first := (List.mem_erase_of_ne heq).mpr hunseen
        refine List.mem_cons_of_mem _ ?_
        rcases List.mem_cons.mp hline with rfl | hlater
        · -- the first line has just put what it leads to at the end of the queue
          exact mem_walk_of_mem_queue (List.mem_append_right _ honward) hleft
        · exact ih hlater hleft
  | case3 unseen first queue hfirst ih => exact ih hline hunseen

/-! ## Controls by number -/

/-- With one entry for each line, the look-up finds the entry. -/
lemma LineControl.lookup?_eq_some {controls : List LineControl} {c : LineControl}
    (hdistinct : (controls.map LineControl.number).Nodup) (hc : c ∈ controls) :
    lookup? controls c.number = some c := by
  have hfound : (lookup? controls c.number).isSome := by
    rw [lookup?, List.find?_isSome]
    exact ⟨c, List.mem_reverse.mpr hc, by simp⟩
  obtain ⟨found, hlookup⟩ := Option.isSome_iff_exists.mp hfound
  have hmem : found ∈ controls := List.mem_reverse.mp (List.mem_of_find?_eq_some hlookup)
  have hnumber : found.number = c.number := by simpa using List.find?_some hlookup
  rw [hlookup, List.inj_on_of_nodup_map hdistinct hmem hc hnumber]

/-- **Every continuation of a line is a line of the program,** if all edges lead to lines. -/
lemma FlowGraph.continuations_mem {program : Program} {controls : List LineControl}
    (resolved : ∀ e ∈ (ofControls controls).edges, e.target ∈ program.numbers) {c : LineControl}
    (hc : c ∈ controls) {n : LineNumber} (h : n ∈ c.continuations program) :
    n ∈ program.numbers := by
  have htarget : c.control.target? = some n → n ∈ program.numbers := by
    intro htarget
    obtain ⟨kind, hedge⟩ := mem_ofControls_of_target? hc htarget
    exact resolved _ hedge
  have hsuccessor : n ∈ (program.successor? c.number).toList → n ∈ program.numbers :=
    fun hn => Program.mem_of_successor? (Option.mem_toList.mp hn)
  rcases List.mem_append.mp h with honward | hhandler
  · cases hcontrol : c.control with
    | fallthrough =>
        simp only [hcontrol] at honward
        exact hsuccessor honward
    | call target =>
        simp only [hcontrol] at honward
        exact hsuccessor honward
    | jump target =>
        simp only [hcontrol, List.mem_singleton] at honward
        exact htarget (by rw [hcontrol, honward]; rfl)
    | branch target predicate =>
        simp only [hcontrol, List.mem_cons] at honward
        rcases honward with htaken | honward
        · exact htarget (by rw [hcontrol, htaken]; rfl)
        · exact hsuccessor honward
    | ret =>
        simp only [hcontrol] at honward
        cases honward
  · exact resolved _ (mem_ofControls_of_handler hc (Option.mem_toList.mp hhandler))

namespace Analysis

/-- **The lines that calls can lead to,** as the analysis walks them. -/
def called (analysis : Analysis) : List LineNumber :=
  analysis.graph.calledLines analysis.program analysis.controls

namespace Checked

variable {analysis : Analysis} (checked : analysis.Checked) {c : LineControl}
include checked

lemma nodup_controls : (analysis.controls.map LineControl.number).Nodup := by
  rw [checked.controls, Program.map_number_controls]
  exact analysis.program.nodup_numbers

lemma call_mem_called (hc : c ∈ analysis.controls) {target : LineNumber}
    (h : c.control = .call target) : target ∈ analysis.called := by
  have hedge := FlowGraph.mem_ofControls_of_call hc h
  rw [← checked.graph] at hedge
  refine mem_walk_of_mem_queue ?_ (checked.resolved _ hedge)
  exact List.mem_map.mpr ⟨_, List.mem_filter.mpr ⟨hedge, rfl⟩, rfl⟩

lemma continuations_mem (hc : c ∈ analysis.controls) {n : LineNumber}
    (h : n ∈ c.continuations analysis.program) : n ∈ analysis.program.numbers := by
  refine FlowGraph.continuations_mem ?_ hc h
  rw [← checked.graph]
  exact checked.resolved

/-- **The called lines are closed under continuation.** -/
lemma called_closed (hc : c ∈ analysis.controls) (hcalled : c.number ∈ analysis.called)
    {n : LineNumber} (h : n ∈ c.continuations analysis.program) : n ∈ analysis.called := by
  refine walk_closed hcalled ?_ (checked.continuations_mem hc h)
  simp only [LineControl.lookup?_eq_some checked.nodup_controls hc]
  exact h

end Checked

end Analysis

/-! ## Warnings -/

lemma FlowGraph.mem_unreachableReturns {graph : FlowGraph} {program : Program}
    {controls : List LineControl} {line : LineNumber} :
    .unreachableReturn line ∈ graph.unreachableReturns program controls ↔
      ∃ c ∈ controls, c.number = line ∧ c.control = .ret ∧
        line ∉ graph.calledLines program controls := by
  simp only [unreachableReturns, List.mem_map, List.mem_filter, Bool.and_eq_true, beq_iff_eq,
    Bool.not_eq_true', List.contains_eq_mem, decide_eq_false_iff_not,
    Warning.unreachableReturn.injEq]
  constructor
  · rintro ⟨c, ⟨hc, hret, hcalled⟩, rfl⟩
    exact ⟨c, hc, rfl, hret, hcalled⟩
  · rintro ⟨c, hc, rfl, hret, hcalled⟩
    exact ⟨c, ⟨hc, hret, hcalled⟩, rfl⟩

/-! ## On a compiled program -/

/-- **A set of lines that control does not leave while a call is open,** unless it returns or
fails. -/
structure Assembly.CalledClosed (assembly : Assembly) (called : List LineNumber) : Prop where
  call : ∀ block ∈ assembly.blocks, ∀ n, block.control = .call n → n ∈ called
  target : ∀ block ∈ assembly.blocks, block.number ∈ called →
    ∀ n, block.control.target? = some n → n ∈ called
  /-- A block that falls through leads to the next line, and so does a call once it is over. -/
  onward : ∀ block ∈ assembly.blocks, block.number ∈ called →
    (block.control.fallsThrough = true ∨ ∃ m, block.control = .call m) →
      ∀ n, assembly.successor? block.number = some n → n ∈ called

/-- **The called lines of an analysis are such a set** for every assembly compiled from it. -/
theorem Analysis.Yields.calledClosed {analysis : Analysis} {assembly : Assembly}
    (yields : analysis.Yields assembly) (checked : analysis.Checked) :
    assembly.CalledClosed analysis.called where
  call block hblock n hn := checked.call_mem_called (yields.lineControl_mem hblock) hn
  target block hblock hcalled n hn := by
    have hc := yields.lineControl_mem hblock
    cases hcontrol : block.control with
    | fallthrough => simp [hcontrol, Control.target?] at hn
    | ret => simp [hcontrol, Control.target?] at hn
    | call m =>
        simp only [hcontrol, Control.target?, Option.some.injEq] at hn
        exact checked.call_mem_called hc (hn ▸ hcontrol)
    | jump m =>
        simp only [hcontrol, Control.target?, Option.some.injEq] at hn
        refine checked.called_closed hc hcalled (List.mem_append_left _ ?_)
        simp [Block.lineControl, hcontrol, hn]
    | branch m predicate =>
        simp only [hcontrol, Control.target?, Option.some.injEq] at hn
        refine checked.called_closed hc hcalled (List.mem_append_left _ ?_)
        simp [Block.lineControl, hcontrol, hn]
  onward block hblock hcalled hleads n hn := by
    rw [yields.successor?_eq] at hn
    refine checked.called_closed (yields.lineControl_mem hblock) hcalled
      (List.mem_append_left _ ?_)
    cases hcontrol : block.control with
    | fallthrough => simp [Block.lineControl, hcontrol, hn]
    | branch m predicate => simp [Block.lineControl, hcontrol, hn]
    | call m => simp [Block.lineControl, hcontrol, hn]
    | jump m => simp [hcontrol, Control.fallsThrough] at hleads
    | ret => simp [hcontrol, Control.fallsThrough] at hleads

/-- **A warning is about a return outside the called lines.** -/
lemma Analysis.Yields.of_warned {analysis : Analysis} {assembly : Assembly}
    (yields : analysis.Yields assembly) (checked : analysis.Checked) {line : LineNumber}
    (h : .unreachableReturn line ∈ analysis.warnings) :
    line ∉ analysis.called ∧
      ∀ block ∈ assembly.blocks, block.number = line → block.control = .ret := by
  rw [checked.warnings] at h
  obtain ⟨c, hc, rfl, hret, hcalled⟩ := FlowGraph.mem_unreachableReturns.mp h
  refine ⟨hcalled, fun block hblock hnumber => ?_⟩
  have hsame : block.lineControl = c := List.inj_on_of_nodup_map checked.nodup_controls
    (yields.lineControl_mem hblock) hc hnumber
  rw [← hret, ← hsame]
  rfl

end NumberedProse
