import Mathlib.Tactic.Common
import NumberedProse.Proofs.Compiled
import NumberedProse.Proofs.ControlSteps
import NumberedProse.Proofs.LinearRuns

/-!
# Compiled programs do not go wrong

A run can meet a line that has no block, or an operation that its mode does not allow.  Neither
happens to a program that was compiled.

**The invariant.**  `MachineState.Placed` says that the program counter, every return address and
the active handler name blocks.  A step by control keeps it (`Assembly.Closed.placed_of_next`): a
transfer goes to a line that a block names, a return to an address that was the successor of a call,
and a fault to a handler that a block installed.  All three are numbers of blocks, because the
analysis has checked every edge and the blocks carry the numbers of the program.

**The mode.**  A program gets linear mode only if no line names another, and then no block can do
more than return (`byControl_onlyReturns`).
-/

namespace NumberedProse

/-! ## Placed states -/

/-- Every return address and the handler are among the numbers. -/
structure Registers.Placed (registers : Registers) (numbers : List LineNumber) : Prop where
  frames : ∀ n, .line n ∈ registers.stack.frames → n ∈ numbers
  handler : ∀ n, registers.handler = some n → n ∈ numbers

/-- **The program counter and the registers name only the given numbers.** -/
structure MachineState.Placed (state : MachineState) (numbers : List LineNumber) : Prop where
  pc : ∀ n, state.pc = .line n → n ∈ numbers
  registers : state.registers.Placed numbers

lemma Registers.placed_empty (numbers : List LineNumber) : Registers.empty.Placed numbers where
  frames n h := by cases h
  handler n h := by cases h

namespace Assembly

/-- Every line that a block names has a block. -/
structure Closed (assembly : Assembly) : Prop where
  target : ∀ block ∈ assembly.blocks, ∀ n, block.control.target? = some n → n ∈ assembly.numbers
  handler : ∀ block ∈ assembly.blocks, ∀ n, block.handler = some n → n ∈ assembly.numbers

variable {π : Type} {assembly : Assembly} {limits : Limits} {decider : Decider π}

/-- The handler after a block is one that was active before or one that the block installs. -/
lemma Closed.handler_mem (closed : assembly.Closed) {block : Block}
    (hblock : block ∈ assembly.blocks) {registers : Registers}
    (placed : registers.Placed assembly.numbers) {n : LineNumber}
    (h : block.handler.or registers.handler = some n) : n ∈ assembly.numbers := by
  rcases Option.or_eq_some_iff.mp h with hinstalled | ⟨-, hactive⟩
  · exact closed.handler block hblock n hinstalled
  · exact placed.handler n hactive

/-- **A move keeps to the blocks,** if the frames and the successor did. -/
lemma Closed.placed_of_moves (closed : assembly.Closed) {block : Block}
    (hblock : block ∈ assembly.blocks) {successor pc : Destination} {stack rest : CallStack}
    (hsuccessor : ∀ n, successor = .line n → n ∈ assembly.numbers)
    (hframes : ∀ n, .line n ∈ stack.returns → n ∈ assembly.numbers)
    (h : block.control.Moves successor stack pc rest) :
    (∀ n, pc = .line n → n ∈ assembly.numbers) ∧
      ∀ n, .line n ∈ rest.returns → n ∈ assembly.numbers := by
  have htarget := closed.target block hblock
  generalize block.control = control at h htarget
  cases h with
  | onwards hfalls => exact ⟨hsuccessor, hframes⟩
  | jump target =>
      refine ⟨?_, hframes⟩
      rintro n ⟨⟩
      exact htarget target rfl
  | branch target predicate =>
      refine ⟨?_, hframes⟩
      rintro n ⟨⟩
      exact htarget target rfl
  | call target =>
      refine ⟨?_, ?_⟩
      · rintro n ⟨⟩
        exact htarget target rfl
      · intro n hn
        rcases List.mem_cons.mp hn with hback | hopen
        · exact hsuccessor n hback.symm
        · exact hframes n hopen
  | ret hpop =>
      rw [CallStack.returns_of_pop? hpop] at hframes
      refine ⟨?_, fun n hn => hframes n (List.mem_cons_of_mem _ hn)⟩
      rintro n rfl
      exact hframes n List.mem_cons_self

/-- **A step by control keeps to the blocks.** -/
theorem Closed.placed_of_next (closed : assembly.Closed) {state next : MachineState}
    {x y : ControlState π} (placed : state.Placed assembly.numbers)
    (h : assembly.advance limits (.byControl decider) state x = .next next y) :
    next.Placed assembly.numbers := by
  obtain ⟨line, block, successor, turn, hexecutes, hhandler, hmoves⟩ := next_byControl h
  obtain ⟨hblock, -, rfl⟩ := locate?_eq_some hexecutes.located
  have hactive : ∀ n, next.registers.handler = some n → n ∈ assembly.numbers := by
    intro n hn
    rw [hhandler] at hn
    exact closed.handler_mem hblock placed.registers hn
  rcases hmoves with ⟨-, hmoves⟩ | ⟨-, hstack, handler, hactiveHandler, hpc⟩
  · obtain ⟨hpc, hframes⟩ := closed.placed_of_moves hblock
      (fun n hn => mem_numbers_of_successor? (Destination.ofSuccessor_eq_line_iff.mp hn))
      (fun n hn => placed.registers.frames n (List.mem_reverse.mpr hn)) hmoves
    exact ⟨hpc, fun n hn => hframes n (List.mem_reverse.mp hn), hactive⟩
  · refine ⟨?_, ?_, hactive⟩
    · intro n hn
      rw [hpc] at hn
      cases hn
      exact hactive handler hactiveHandler
    · rw [hstack]
      exact placed.registers.frames

/-- **Every head of every run keeps to the blocks.** -/
theorem Closed.placed_head? (closed : assembly.Closed) {x y : ControlState π} {n : Nat}
    {state : MachineState} (h : assembly.head? limits (.byControl decider) x n = some (state, y)) :
    state.Placed assembly.numbers := by
  refine head?_induction (P := fun s _ => s.Placed assembly.numbers) ?_ ?_ h
  · refine ⟨?_, Registers.placed_empty assembly.numbers⟩
    intro m hm
    exact mem_numbers_of_entry? (Destination.ofSuccessor_eq_line_iff.mp hm)
  · intro s z next w hs hstep
    exact closed.placed_of_next hs hstep

/-- **A run that ends at a placed head ends well:** its last registers keep to the blocks, and no
line was missing. -/
lemma Closed.ended_of_placed (closed : assembly.Closed) (ordered : assembly.Ordered)
    {state : MachineState} {x : ControlState π} {ended : Ended (ControlState π)}
    (placed : state.Placed assembly.numbers)
    (h : (assembly.advance limits (.byControl decider) state x).ended? = some ended) :
    ended.state.registers.Placed assembly.numbers ∧ ∀ error, ended.error = some error →
      (∀ source target, error ≠ .unknownLine source target) ∧
        ∀ line operation, error ≠ .needsDispatch line operation := by
  rcases advance_cases assembly limits (.byControl decider) state x with
    ⟨-, hhalt⟩ | ⟨limit, hlimit⟩ | ⟨line, hpc, hmissing, -⟩ |
      ⟨line, block, successor, turn, y, hexecutes⟩
  · rw [hhalt] at h
    cases h
    refine ⟨placed.registers, ?_⟩
    rintro error ⟨⟩
  · rw [hlimit] at h
    cases h
    refine ⟨placed.registers, ?_⟩
    rintro error ⟨⟩
    exact ⟨fun _ _ => by simp, fun _ _ => by simp⟩
  · -- the line of a placed program counter has a block
    obtain ⟨block, successor, hfound⟩ := ordered.exists_locate? (placed.pc line hpc)
    rw [hmissing] at hfound
    cases hfound
  · obtain ⟨error, rfl, hsettle⟩ := hexecutes.settle_of_ended h
    obtain ⟨hblock, -, -⟩ := locate?_eq_some hexecutes.located
    obtain ⟨hinstalls, -⟩ := byControl_effect rfl hexecutes.turn
    refine ⟨⟨placed.registers.frames, ?_⟩, ?_⟩
    · intro n hn
      exact closed.handler_mem hblock placed.registers (hinstalls.symm.trans hn)
    · rintro e ⟨⟩
      rcases MachineState.settle_error hsettle with
        ⟨message, -, -, rfl⟩ | ⟨-, -, -, rfl⟩ | ⟨-, -, -, rfl⟩
      · exact ⟨fun _ _ => by simp, fun _ _ => by simp⟩
      · exact ⟨fun _ _ => by simp, fun _ _ => by simp⟩
      · exact ⟨fun _ _ => by simp, fun _ _ => by simp⟩

end Assembly

/-! ## Compiled programs -/

namespace Analysis.Yields

variable {analysis : Analysis} {assembly : Assembly}

/-- **An assembly that was compiled is closed:** every line it names was found by the analysis. -/
lemma closed (yields : analysis.Yields assembly) (checked : analysis.Checked) :
    assembly.Closed where
  target block hblock n hn := by
    rw [yields.numbers_eq]
    exact checked.target?_mem (yields.lineControl_mem hblock) hn
  handler block hblock n hn := by
    rw [yields.numbers_eq]
    exact checked.handler_mem (yields.lineControl_mem hblock) hn

/-- A block of a linear program can do no more than return. -/
lemma byControl_onlyReturns (yields : analysis.Yields assembly) (checked : analysis.Checked)
    (hmode : assembly.mode = .linear) {π : Type} (decider : Decider π) {block : Block}
    (hblock : block ∈ assembly.blocks) (x : ControlState π) (view : View) :
    (Executor.byControl decider x block view).1.OnlyReturns := by
  obtain ⟨htarget, hhandler⟩ :=
    checked.names_nothing (yields.mode.symm.trans hmode) (yields.lineControl_mem hblock)
  intro operation hoperation
  have hnone : block.handler = none := hhandler
  have hcontrol : block.control.target? = none := htarget
  simp only [Executor.byControl, hnone, Option.toList_none, List.map_nil, List.nil_append]
    at hoperation
  split at hoperation
  · cases hoperation
  · cases hblockControl : block.control with
    | fallthrough => simp [hblockControl, ControlState.operations] at hoperation
    | ret => simpa [hblockControl, ControlState.operations] using hoperation
    | jump target => simp [hblockControl, Control.target?] at hcontrol
    | branch target predicate => simp [hblockControl, Control.target?] at hcontrol
    | call target => simp [hblockControl, Control.target?] at hcontrol

end Analysis.Yields

namespace Compilation

/-- **Compiled programs do not go wrong.**  Whatever the translator, the limits, the answers to
conditions and the faults, the program counter, the return addresses and the handler name blocks at
every head and when the run has ended, and no run fails for a missing line or for an operation that
needs another mode. -/
theorem run_never_goes_wrong {σ π : Type} {source : String} {table : ResourceTable}
    {translator : Translator σ} {switch : CancelSwitch} {state : σ} {compilation : Compilation}
    (h : (ofSource source table translator switch state).result = .ok compilation)
    (limits : Limits) (decider : Decider π) (x : ControlState π) :
    (∀ n head y, compilation.assembly.head? limits (.byControl decider) x n = some (head, y) →
      head.Placed compilation.assembly.numbers) ∧
    ∀ patience report,
      compilation.assembly.run? limits (.byControl decider) patience x = some report →
        report.registers.Placed compilation.assembly.numbers ∧
        ∀ failure, report.outcome = .error failure →
          (∀ source target, failure.error ≠ .unknownLine source target) ∧
          ∀ line operation, failure.error ≠ .needsDispatch line operation := by
  obtain ⟨analysis, checked, yields⟩ := exists_analysis h
  have closed := yields.closed checked
  refine ⟨fun n head y hhead => closed.placed_head? hhead, ?_⟩
  intro patience report hrun
  cases hmode : compilation.assembly.mode with
  | dispatch =>
      obtain ⟨n, -, head, y, ended, hhead, hended, rfl⟩ :=
        (Assembly.run?_dispatch_eq_some_iff hmode).mp hrun
      obtain ⟨hregisters, herror⟩ :=
        closed.ended_of_placed yields.ordered (closed.placed_head? hhead) hended
      exact ⟨hregisters, fun failure hfailure =>
        herror failure.error (Assembly.error_of_report hfailure)⟩
  | linear =>
      simp only [Assembly.run?, hmode, Option.some.injEq] at hrun
      subst hrun
      refine ⟨?_, fun failure hfailure => ?_⟩
      · have hregisters := Assembly.registers_straight limits (.byControl decider)
          compilation.assembly.blocks.toList (.start .halt) x
        simp only [Ended.report, hregisters]
        exact Registers.placed_empty _
      · have honly : ∀ block ∈ compilation.assembly.blocks.toList, ∀ x view,
            (Executor.byControl decider x block view).1.OnlyReturns := fun block hblock =>
          yields.byControl_onlyReturns checked hmode decider (Array.mem_toList_iff.mp hblock)
        rcases Assembly.error_straight honly (Assembly.error_of_report hfailure) with
          ⟨limit, hlimit⟩ | ⟨line, message, hfault⟩ | ⟨line, hreturn⟩
        · rw [hlimit]
          exact ⟨fun _ _ => by simp, fun _ _ => by simp⟩
        · rw [hfault]
          exact ⟨fun _ _ => by simp, fun _ _ => by simp⟩
        · rw [hreturn]
          exact ⟨fun _ _ => by simp, fun _ _ => by simp⟩

/-- A program with a handler, a call, a jump and two returns. -/
def sampleSource : String :=
  "10 on error goto 60\n20 gosub 40\n30 goto 70\n40 work\n50 return\n60 return\n70 print done"

/-- The sample compiles, and its run with a fault in the called line 40 keeps to the blocks. -/
theorem run_never_goes_wrong_sampleSource :
    ∃ compilation, (ofSource sampleSource .empty .echo .absent ()).result = .ok compilation ∧
      ∀ n head y, compilation.assembly.head? .standard (.byControl (.taking [])) ⟨(), [40]⟩ n =
        some (head, y) → head.Placed compilation.assembly.numbers := by
  have hok : (ofSource sampleSource .empty .echo .absent ()).result.toOption.any
      (fun _ => true) = true := by decide +kernel
  obtain ⟨compilation, hresult, -⟩ := exists_ok_of_any hok
  exact ⟨compilation, hresult,
    (run_never_goes_wrong hresult .standard (.taking []) ⟨(), [40]⟩).1⟩

end Compilation

end NumberedProse
