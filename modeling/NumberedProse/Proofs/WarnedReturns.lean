import Mathlib.Tactic.Common
import NumberedProse.Proofs.OpenCalls

/-!
# What a warning on a return is worth

The compiler warns about a return that the walk over the called lines does not meet, and says that
executing it will fail.

**In linear mode** this is so: no line of a linear program calls, so no return gets past its line
(`error_straight_of_visited`).

**In dispatch mode** it is so with one exception.  A return outside the called lines finds an open
call exactly if that call has gone astray (`CalledClosed.return_outside`): a fault in a called line
went to a handler that no called line installs.  The return of that handler then closes the call and
the run goes on.  A program whose handlers are all called lines is safe from this
(`not_astray_of_handlers_called`).
-/

namespace NumberedProse

/-! ## Returns in linear mode -/

namespace Assembly

variable {π : Type}

/-- A return without a fault is among the operations of its turn. -/
lemma ret_mem_of_byControl {decider : Decider π} {x y : ControlState π} {block : Block}
    {view : View} {turn : Turn} (h : Executor.byControl decider x block view = (turn, y))
    (hret : block.control = .ret) (hfault : turn.fault = none) : .ret ∈ turn.operations := by
  simp only [Executor.byControl, hret, ControlState.operations] at h
  split at h
  · cases h
    cases hfault
  · cases h
    simp

lemma linearError?_of_ret {decider : Decider π} {x y : ControlState π} {block : Block} {view : View}
    {turn : Turn} (h : Executor.byControl decider x block view = (turn, y))
    (honly : turn.OnlyReturns) (hret : block.control = .ret) :
    ∃ error, linearError? block.number (view.effect turn.operations) turn.fault = some error ∧
      (error = .unbalancedReturn block.number ∨
        ∃ message, error = .unhandledFault block.number message) := by
  rw [linearError?_of_onlyReturns view honly]
  cases hfault : turn.fault with
  | some message => exact ⟨_, rfl, Or.inr ⟨message, rfl⟩⟩
  | none =>
      have hsome : turn.operations ≠ [] := List.ne_nil_of_mem (ret_mem_of_byControl h hret hfault)
      exact ⟨_, by simp [hsome], Or.inl rfl⟩

/-- **A linear run does not get past a return:** it fails there, by the return or by a fault. -/
lemma error_straight_of_visited {limits : Limits} {decider : Decider π} {blocks : List Block}
    {state : MachineState} {x : ControlState π} {line : LineNumber}
    (honly : ∀ block ∈ blocks, ∀ x view, (Executor.byControl decider x block view).1.OnlyReturns)
    (hret : ∀ block ∈ blocks, block.number = line → block.control = .ret)
    (hnew : line ∉ state.visited)
    (h : line ∈ (straight limits (.byControl decider) blocks state x).state.visited) :
    ∃ error, (straight limits (.byControl decider) blocks state x).error = some error ∧
      (error = .unbalancedReturn line ∨ ∃ message, error = .unhandledFault line message) := by
  induction blocks generalizing state x with
  | nil => exact absurd h hnew
  | cons block rest ih =>
      obtain ⟨turn, y, hturn⟩ : ∃ turn y,
          Executor.byControl decider x block (linearView block.number) = (turn, y) := ⟨_, _, rfl⟩
      have hblock : turn.OnlyReturns := by
        have hturns := honly block List.mem_cons_self x (linearView block.number)
        rw [hturn] at hturns
        exact hturns
      cases hlimit : limits.exceeded? state.tick.steps with
      | some limit =>
          simp only [straight, hlimit] at h
          exact absurd h hnew
      | none =>
          by_cases hline : block.number = line
          · obtain ⟨error, herror, hkind⟩ :=
              linearError?_of_ret hturn hblock (hret block List.mem_cons_self hline)
            rw [hline] at herror hkind hturn
            simp only [straight, hlimit, hline, hturn, herror]
            exact ⟨error, rfl, hkind⟩
          · have hpushed : line ∉ (state.tick.visit block.number).visited := by
              intro hmem
              rcases Array.mem_push.mp hmem with hbefore | hhere
              · exact hnew hbefore
              · exact hline hhere.symm
            cases herror : linearError? block.number
                ((linearView block.number).effect turn.operations) turn.fault with
            | some error =>
                simp only [straight, hlimit, hturn, herror] at h
                exact absurd h hpushed
            | none =>
                simp only [straight, hlimit, hturn, herror] at h ⊢
                exact ih (fun b hb => honly b (List.mem_cons_of_mem _ hb))
                  (fun b hb => hret b (List.mem_cons_of_mem _ hb)) hpushed h

variable {assembly : Assembly} {limits : Limits} {decider : Decider π} {x : ControlState π}
  {line : LineNumber}

/-- A linear run that executes a return ends there. -/
lemma linear_return_fails (hmode : assembly.mode = .linear)
    (honly : ∀ block ∈ assembly.blocks, ∀ x view,
      (Executor.byControl decider x block view).1.OnlyReturns)
    (hret : ∀ block ∈ assembly.blocks, block.number = line → block.control = .ret)
    {patience : Nat} {report : Report (ControlState π)}
    (hrun : assembly.run? limits (.byControl decider) patience x = some report)
    (hvisited : line ∈ report.visited) :
    ∃ failure, report.outcome = .error failure ∧ failure.frames = [] ∧
      (failure.error = .unbalancedReturn line ∨
        ∃ message, failure.error = .unhandledFault line message) := by
  simp only [run?, hmode, Option.some.injEq] at hrun
  subst hrun
  rw [visited_report] at hvisited
  obtain ⟨error, herror, hkind⟩ := error_straight_of_visited
    (fun block hblock => honly block (Array.mem_toList_iff.mp hblock))
    (fun block hblock => hret block (Array.mem_toList_iff.mp hblock))
    (by simp [MachineState.start]) (Array.mem_toList_iff.mp hvisited)
  refine ⟨_, outcome_of_error herror .linear, ?_, hkind⟩
  rw [registers_straight]
  rfl

end Assembly

/-! ## Returns in dispatch mode -/

namespace Assembly

variable {π : Type} {assembly : Assembly} {limits : Limits} {decider : Decider π}
  {x y z : ControlState π} {line : LineNumber} {n : Nat} {head : MachineState} {block : Block}
  {successor : Destination} {turn : Turn} {called : List LineNumber}

/-- A block that returns and does not fail makes a return. -/
lemma Executes.transfer?_of_ret
    (h : assembly.Executes limits (.byControl decider) head y line block successor turn z)
    (hret : block.control = .ret) (hfault : turn.fault = none) : turn.transfer? = some .ret := by
  obtain ⟨holds, hholds⟩ := h.transfer?_byControl hfault
  rw [hholds, hret]
  rfl

/-- **A return outside the called lines succeeds exactly if the latest open call has gone astray,**
and fails otherwise. -/
lemma CalledClosed.return_outside (closed : assembly.CalledClosed called)
    (hmode : assembly.mode = .dispatch) (houtside : line ∉ called)
    (hhead : assembly.head? limits (.byControl decider) x n = some (head, y))
    (hexecutes :
      assembly.Executes limits (.byControl decider) head y line block successor turn z)
    (hret : block.control = .ret) (hfault : turn.fault = none) :
    (assembly.ReturnFailsAt limits (.byControl decider) x line n ↔
      ¬ assembly.Astray limits (.byControl decider) x called n head.registers.stack.depth) ∧
    (assembly.ReturnsAt limits (.byControl decider) x n ↔
      assembly.Astray limits (.byControl decider) x called n head.registers.stack.depth) := by
  -- both come down to whether a call is open, and outside the called lines only an astray one is
  have hastray : assembly.Astray limits (.byControl decider) x called n head.registers.stack.depth ↔
      head.registers.stack.frames ≠ [] := by
    constructor
    · rintro ⟨hpositive, -⟩
      exact CallStack.depth_pos_iff.mp hpositive
    · intro hopen
      exact ((closed.sheltered_head? hhead).pc line hexecutes.pc
        (CallStack.depth_pos_iff.mpr hopen)).resolve_left houtside
  rw [hastray]
  constructor
  · constructor
    · rintro ⟨⟨s, w, hs, hempty⟩, -⟩
      rw [hhead] at hs
      cases hs
      exact not_not_intro hempty
    · intro hempty
      exact hexecutes.returnFailsAt hmode hhead (hexecutes.transfer?_of_ret hret hfault)
        (not_not.mp hempty)
  · constructor
    · rintro ⟨s, w, next, v, hs, -, hframes⟩
      rw [hhead] at hs
      cases hs
      rw [hframes]
      exact List.concat_ne_nil _ _
    · exact hexecutes.returnsAt hhead (hexecutes.transfer?_of_ret hret hfault)

/-- **If every handler is a called line, no call goes astray.** -/
theorem not_astray_of_handlers_called
    (h : ∀ block ∈ assembly.blocks, ∀ m, block.handler = some m → m ∈ called) (depth : Nat) :
    ¬ assembly.Astray limits (.byControl decider) x called n depth := by
  rintro ⟨-, m, -, ⟨⟨s, y, line, block, successor, turn, z, hs, hexecutes, hfault⟩,
    next, w, handler, hnext, hpc, houtside⟩, -⟩
  obtain ⟨-, hsettle⟩ := hexecutes.settle_of_next (advance_of_head? hs hnext)
  rcases (MachineState.settle_ok hsettle).2 with ⟨hnone, -⟩ | ⟨-, -, active, hactive, hplace⟩
  · exact hfault hnone
  · obtain rfl : handler = active := Destination.line.inj (hpc.symm.trans hplace)
    obtain ⟨_, _, _, installer, hinstaller, hinstalls, -⟩ := exists_installer hnext hactive
    exact houtside (h installer hinstaller handler hinstalls)

end Assembly

/-! ## Warned returns -/

/-- **A warned return fails, unless the latest open call has gone astray.**  In a linear program the
run ends at the return.  In dispatch mode a warned return that takes effect finds no open call and
ends the run as unbalanced, except if a fault has taken the latest open call to a handler outside
the called lines: then the return closes that call. -/
theorem Analysis.warned_return_fails_iff {σ π : Type} {source : String} {table : ResourceTable}
    {analysis : Analysis} (hanalysis : ofSource source table = .ok analysis)
    {translator : Translator σ} {switch : CancelSwitch} {state : σ} {compilation : Compilation}
    (hcompile : (analysis.compile translator switch state).result = .ok compilation)
    (limits : Limits) (decider : Decider π) (x : ControlState π) {line : LineNumber}
    (hwarned : .unreachableReturn line ∈ compilation.warnings) :
    (compilation.assembly.mode = .linear → ∀ patience report,
      compilation.assembly.run? limits (.byControl decider) patience x = some report →
      line ∈ report.visited →
        ∃ failure, report.outcome = .error failure ∧ failure.frames = [] ∧
          (failure.error = .unbalancedReturn line ∨
            ∃ message, failure.error = .unhandledFault line message)) ∧
    (compilation.assembly.mode = .dispatch → ∀ n head y block successor turn z,
      compilation.assembly.head? limits (.byControl decider) x n = some (head, y) →
      compilation.assembly.Executes limits (.byControl decider) head y line block successor turn z →
      turn.fault = none →
        (compilation.assembly.ReturnFailsAt limits (.byControl decider) x line n ↔
          ¬ compilation.assembly.Astray limits (.byControl decider) x analysis.called n
            head.registers.stack.depth) ∧
        (compilation.assembly.ReturnsAt limits (.byControl decider) x n ↔
          compilation.assembly.Astray limits (.byControl decider) x analysis.called n
            head.registers.stack.depth)) := by
  have checked := checked_of_ofSource hanalysis
  obtain ⟨yields, hwarnings⟩ := checked.yields hcompile
  rw [hwarnings] at hwarned
  obtain ⟨houtside, hreturns⟩ := yields.of_warned checked hwarned
  constructor
  · intro hmode patience report hrun hvisited
    exact Assembly.linear_return_fails hmode
      (fun block hblock => yields.byControl_onlyReturns checked hmode decider hblock) hreturns hrun
      hvisited
  · intro hmode n head y block successor turn z hhead hexecutes hfault
    obtain ⟨hblock, hnumber, -⟩ := Assembly.locate?_eq_some hexecutes.located
    exact (yields.calledClosed checked).return_outside hmode houtside hhead hexecutes
      (hreturns block hblock hnumber) hfault

/-- The return of the sample's line 60 is warned about.  After a fault in the called line 40 it is
executed at the fourth head and succeeds, so the call of line 20 had gone astray. -/
theorem Analysis.warned_return_fails_iff_sampleSource :
    ∃ analysis compilation head y, ofSource Compilation.sampleSource .empty = .ok analysis ∧
      (analysis.compile .echo .absent ()).result = .ok compilation ∧
      .unreachableReturn 60 ∈ compilation.warnings ∧ compilation.assembly.mode = .dispatch ∧
      compilation.assembly.head? .standard (.byControl (.taking [])) ⟨(), [40]⟩ 3 = some (head, y) ∧
      head.pc = .line 60 ∧ compilation.assembly.Astray .standard (.byControl (.taking []))
        ⟨(), [40]⟩ analysis.called 3 head.registers.stack.depth := by
  have hruns : (ofSource Compilation.sampleSource .empty).toOption.any (fun analysis =>
      (analysis.compile .echo .absent ()).result.toOption.any fun compilation =>
        let head? := compilation.assembly.head? .standard (.byControl (.taking [])) ⟨(), [40]⟩
        (head? 3).any fun head => (head? 4).any fun next =>
          .unreachableReturn 60 ∈ compilation.warnings ∧
            compilation.assembly.mode = .dispatch ∧ head.1.pc = .line 60 ∧
            head.2.pending = [] ∧ head.1.registers.stack.frames =
              next.1.registers.stack.frames ++ [next.1.pc]) = true := by
    decide +kernel
  obtain ⟨analysis, hanalysis, hruns⟩ := exists_ok_of_any hruns
  obtain ⟨compilation, hcompile, hruns⟩ := exists_ok_of_any hruns
  obtain ⟨⟨head, y⟩, hhead, hruns⟩ := (Option.any_eq_true _ _).mp hruns
  obtain ⟨⟨next, z⟩, hnext, hruns⟩ := (Option.any_eq_true _ _).mp hruns
  obtain ⟨hwarned, hmode, hpc, hpending, hframes⟩ := of_decide_eq_true hruns
  obtain ⟨line, block, successor, turn, hexecutes, -⟩ :=
    Assembly.next_byControl (Assembly.advance_of_head? hhead hnext)
  obtain rfl : 60 = line := Destination.line.inj (hpc.symm.trans hexecutes.pc)
  have hfault := (Assembly.fault_eq_none_of_pending hpending hexecutes.turn).1
  have hastray := ((warned_return_fails_iff hanalysis hcompile .standard (.taking []) ⟨(), [40]⟩
    hwarned).2 hmode 3 head y block successor turn z hhead hexecutes hfault).2
  exact ⟨analysis, compilation, head, y, hanalysis, hcompile, hwarned, hmode, hhead, hpc,
    hastray.mp ⟨head, y, next, z, hhead, hnext, hframes⟩⟩

/-- **A warned return can succeed.**  The sample compiles with a warning on line 60; its run with a
fault in line 40 executes that return and ends without an error. -/
theorem Compilation.warned_return_can_succeed :
    ∃ compilation report trace,
      (ofSource sampleSource .empty .echo .absent ()).result = .ok compilation ∧
      .unreachableReturn 60 ∈ compilation.warnings ∧
      compilation.assembly.run? .standard (.byControl (.taking [])) 10 ⟨(), [40]⟩ = some report ∧
      report.outcome = .ok trace ∧ trace.visited = [10, 20, 40, 60, 30, 70] := by
  have hruns : (ofSource sampleSource .empty .echo .absent ()).result.toOption.any
      (fun compilation =>
        (compilation.assembly.run? .standard (.byControl (.taking [])) 10 ⟨(), [40]⟩).any
          fun report => report.outcome.toOption.any fun trace =>
            .unreachableReturn 60 ∈ compilation.warnings ∧
              trace.visited = [10, 20, 40, 60, 30, 70]) = true := by
    decide +kernel
  obtain ⟨compilation, hcompile, hruns⟩ := exists_ok_of_any hruns
  obtain ⟨report, hreport, hruns⟩ := (Option.any_eq_true _ _).mp hruns
  obtain ⟨trace, htrace, hruns⟩ := exists_ok_of_any hruns
  obtain ⟨hwarned, hvisited⟩ := of_decide_eq_true hruns
  exact ⟨compilation, report, trace, hcompile, hwarned, hreport, htrace, hvisited⟩

end NumberedProse
