import Mathlib.Tactic.Common
import NumberedProse.Proofs.CalledLines
import NumberedProse.Proofs.Safety
import NumberedProse.Proofs.Turns

/-!
# Open calls and called lines

A return is warned about if the walk over the called lines does not meet it.  The warning is worth
something only if the lines that run while a call is open are the lines of that walk.

**Where open calls are.**  While a call is open, control is at a called line, and so is every return
address but the earliest, which may come from code that no call leads to (`Sheltered`).  Moves keep
this: a call made at a called line comes back to a called line, because the walk treats a call as
coming back to the next line.

**How a call goes astray.**  A fault keeps the open calls and takes control to the active handler.
The walk follows a handler only from the line that installs it, and that line need not be a called
one.  A fault that goes to a handler outside the called lines leads the latest open call astray, and
it stays astray until it returns (`Assembly.Astray`).  There is no other way: `sheltered_head?`.
-/

namespace NumberedProse

/-! ## Places of open calls -/

/-- **Open calls are at called lines,** as far as they have not gone astray.  The place of the
latest call is the program counter; the place of every other is the return address of the call
after it. -/
structure Sheltered (called : List LineNumber) (astray : Nat → Prop) (pc : Destination)
    (stack : CallStack) : Prop where
  pc : ∀ line, pc = .line line → 0 < stack.depth → line ∈ called ∨ astray stack.depth
  frames : ∀ depth line, 0 < depth → stack.frames[depth]? = some (.line line) →
    line ∈ called ∨ astray depth

namespace Sheltered

variable {called : List LineNumber} {astray : Nat → Prop} {pc : Destination}
  {stack rest : CallStack}

lemma mono (h : Sheltered called astray pc stack) {astray' : Nat → Prop}
    (himp : ∀ depth ≤ stack.depth, astray depth → astray' depth) :
    Sheltered called astray' pc stack where
  pc line hline hopen := (h.pc line hline hopen).imp_right (himp _ (Nat.le_refl _))
  frames depth line hdepth hframe := by
    refine (h.frames depth line hdepth hframe).imp_right (himp _ ?_)
    obtain ⟨hlt, -⟩ := List.getElem?_eq_some_iff.mp hframe
    rw [stack.depth_eq_length]
    exact Nat.le_of_lt hlt

/-- **Moves keep open calls at called lines.** -/
lemma of_moves {assembly : Assembly} (closed : assembly.CalledClosed called) {block : Block}
    (hblock : block ∈ assembly.blocks) (h : Sheltered called astray (.line block.number) stack)
    (hmoves : block.control.Moves (.ofSuccessor (assembly.successor? block.number)) stack pc rest) :
    Sheltered called astray pc rest := by
  have hcall := closed.call block hblock
  have hplace := h.pc block.number rfl
  have htarget : ∀ n, block.control.target? = some n → 0 < stack.depth →
      n ∈ called ∨ astray stack.depth := fun n hn hopen =>
    (hplace hopen).imp_left fun hcalled => closed.target block hblock hcalled n hn
  have honward : (block.control.fallsThrough = true ∨ ∃ m, block.control = .call m) →
      ∀ n, Destination.ofSuccessor (assembly.successor? block.number) = .line n →
        0 < stack.depth → n ∈ called ∨ astray stack.depth := by
    intro hleads n hn hopen
    exact (hplace hopen).imp_left fun hcalled =>
      closed.onward block hblock hcalled hleads n (Destination.ofSuccessor_eq_line_iff.mp hn)
  generalize block.control = control at hmoves hcall htarget honward
  cases hmoves with
  | onwards hfalls => exact ⟨fun n hn hopen => honward (Or.inl hfalls) n hn hopen, h.frames⟩
  | jump target =>
      refine ⟨?_, h.frames⟩
      rintro n ⟨⟩ hopen
      exact htarget target rfl hopen
  | branch target predicate =>
      refine ⟨?_, h.frames⟩
      rintro n ⟨⟩ hopen
      exact htarget target rfl hopen
  | call target =>
      refine ⟨?_, ?_⟩
      · rintro n ⟨⟩ -
        exact Or.inl (hcall target rfl)
      · intro depth n hdepth hframe
        rcases CallStack.getElem?_frames_push hframe with hold | ⟨rfl, hback⟩
        · exact h.frames depth n hdepth hold
        · exact honward (Or.inr ⟨target, rfl⟩) n hback.symm hdepth
  | ret hpop =>
      have hframes := CallStack.frames_of_pop? hpop
      refine ⟨?_, ?_⟩
      · rintro n rfl hopen
        refine h.frames rest.depth n hopen ?_
        rw [hframes, rest.depth_eq_length]
        simp
      · intro depth n hdepth hframe
        refine h.frames depth n hdepth ?_
        obtain ⟨hlt, -⟩ := List.getElem?_eq_some_iff.mp hframe
        rw [hframes, List.getElem?_append_left hlt]
        exact hframe

end Sheltered

/-! ## Going astray -/

namespace Assembly

section

variable {σ : Type} (assembly : Assembly) (limits : Limits) (executor : Executor σ) (x : σ)

/-- The step from a head raises a fault that goes to a handler outside the called lines. -/
def StrayAt (called : List LineNumber) (n : Nat) : Prop :=
  assembly.FaultAt limits executor x n ∧
    ∃ head y handler, assembly.head? limits executor x (n + 1) = some (head, y) ∧
      head.pc = .line handler ∧ handler ∉ called

/-- **The call at a depth has gone astray** before a head: a fault left the called lines when this
call was the latest open one, and the call has been open ever since. -/
def Astray (called : List LineNumber) (n depth : Nat) : Prop :=
  0 < depth ∧ ∃ m < n, assembly.StrayAt limits executor x called m ∧
    assembly.depthAt? limits executor x m = some depth ∧
    ∀ k, m ≤ k → k ≤ n → ∃ open_, assembly.depthAt? limits executor x k = some open_ ∧
      depth ≤ open_

end

variable {σ π : Type} {assembly : Assembly} {limits : Limits} {called : List LineNumber}

/-- A call that has gone astray is astray for as long as it is open. -/
lemma Astray.succ {executor : Executor σ} {x y : σ} {n depth : Nat} {next : MachineState}
    (h : assembly.Astray limits executor x called n depth)
    (hnext : assembly.head? limits executor x (n + 1) = some (next, y))
    (hopen : depth ≤ next.registers.stack.depth) :
    assembly.Astray limits executor x called (n + 1) depth := by
  obtain ⟨hpositive, m, hm, hstray, hdepth, hsince⟩ := h
  refine ⟨hpositive, m, by omega, hstray, hdepth, ?_⟩
  intro k hmk hkn
  rcases Nat.lt_or_eq_of_le hkn with hlt | rfl
  · exact hsince k hmk (by omega)
  · exact ⟨_, depthAt?_eq_some hnext, hopen⟩

/-- The fault that has just been raised leads the latest open call astray. -/
lemma astray_of_strayAt {executor : Executor σ} {x y z : σ} {n : Nat} {head next : MachineState}
    (hstray : assembly.StrayAt limits executor x called n)
    (hhead : assembly.head? limits executor x n = some (head, y))
    (hnext : assembly.head? limits executor x (n + 1) = some (next, z))
    (hstack : next.registers.stack = head.registers.stack)
    (hopen : 0 < next.registers.stack.depth) :
    assembly.Astray limits executor x called (n + 1) next.registers.stack.depth := by
  refine ⟨hopen, n, by omega, hstray, by rw [hstack]; exact depthAt?_eq_some hhead, ?_⟩
  intro k hnk hkn
  rcases Nat.lt_or_eq_of_le hkn with hlt | rfl
  · have hk : k = n := by omega
    subst hk
    exact ⟨_, depthAt?_eq_some hhead, Nat.le_of_eq (by rw [hstack])⟩
  · exact ⟨_, depthAt?_eq_some hnext, Nat.le_refl _⟩

/-- **At every head, open calls are at called lines or have gone astray.** -/
theorem CalledClosed.sheltered_head? (closed : assembly.CalledClosed called) {decider : Decider π}
    {x y : ControlState π} {n : Nat} {head : MachineState}
    (h : assembly.head? limits (.byControl decider) x n = some (head, y)) :
    Sheltered called (assembly.Astray limits (.byControl decider) x called n) head.pc
      head.registers.stack := by
  induction n generalizing head y with
  | zero =>
      cases h
      refine ⟨fun line _ hopen => absurd hopen (Nat.lt_irrefl 0), ?_⟩
      intro depth line _ hframe
      cases hframe
  | succ n ih =>
      obtain ⟨before, z, hbefore, hstep⟩ := headFrom?_succ_iff.mp h
      have hsheltered := ih hbefore
      obtain ⟨line, block, successor, turn, hexecutes, -, hmoves⟩ := next_byControl hstep
      obtain ⟨hblock, hnumber, rfl⟩ := locate?_eq_some hexecutes.located
      subst hnumber
      rw [hexecutes.pc] at hsheltered
      rcases hmoves with ⟨-, hmoves⟩ | ⟨hfault, hstack, handler, -, hpc⟩
      · exact (hsheltered.of_moves closed hblock hmoves).mono
          fun depth hdepth hastray => hastray.succ h hdepth
      · -- a fault keeps the calls open; only the place of the latest one changes
        have hkept : Sheltered called
            (assembly.Astray limits (.byControl decider) x called (n + 1)) (.line block.number)
            head.registers.stack := by
          rw [← hstack] at hsheltered
          exact hsheltered.mono fun depth hdepth hastray => hastray.succ h hdepth
        refine ⟨?_, hkept.frames⟩
        intro m hm hopen
        rw [hpc] at hm
        cases hm
        by_cases hcalled : handler ∈ called
        · exact Or.inl hcalled
        · have hstray : assembly.StrayAt limits (.byControl decider) x called n :=
            ⟨⟨before, z, block.number, block, _, turn, y, hbefore, hexecutes, hfault⟩,
              head, y, handler, h, hpc, hcalled⟩
          exact Or.inr (astray_of_strayAt hstray hbefore h hstack hopen)

/-- Once no line is left to fail, no line fails. -/
lemma fault_eq_none_of_pending {decider : Decider π} {x y : ControlState π} {block : Block}
    {view : View} {turn : Turn} (hpending : x.pending = [])
    (h : Executor.byControl decider x block view = (turn, y)) :
    turn.fault = none ∧ y.pending = [] := by
  simp only [Executor.byControl, hpending, List.not_mem_nil, if_false] at h
  cases h
  exact ⟨rfl, rfl⟩

/-- A run with no line to fail has no fault. -/
lemma not_faultAt_of_pending {decider : Decider π} {x : ControlState π} (hpending : x.pending = [])
    (n : Nat) : ¬ assembly.FaultAt limits (.byControl decider) x n := by
  rintro ⟨head, y, line, block, successor, turn, z, hhead, hexecutes, hfault⟩
  have hnone : y.pending = [] := by
    refine head?_induction (P := fun _ y => y.pending = []) hpending ?_ hhead
    intro s w next v hw hstep
    obtain ⟨_, _, _, _, hturn, -⟩ := next_byControl hstep
    exact (fault_eq_none_of_pending hw hturn.turn).2
  exact hfault (fault_eq_none_of_pending hnone hexecutes.turn).1

/-- Without a fault nothing goes astray. -/
lemma not_astray_of_faultless {executor : Executor σ} {x : σ} {n : Nat}
    (h : ∀ m < n, ¬ assembly.FaultAt limits executor x m) (depth : Nat) :
    ¬ assembly.Astray limits executor x called n depth := by
  rintro ⟨-, m, hm, ⟨hfault, -⟩, -⟩
  exact h m hm hfault

end Assembly

/-! ## Runs without a fault -/

/-- **While a call is open and nothing has failed, control is at a called line.**  Of the return
addresses only the earliest may lie elsewhere. -/
theorem Analysis.open_calls_at_called_lines {σ π : Type} {source : String} {table : ResourceTable}
    {analysis : Analysis} (hanalysis : ofSource source table = .ok analysis)
    {translator : Translator σ} {switch : CancelSwitch} {state : σ} {compilation : Compilation}
    (hcompile : (analysis.compile translator switch state).result = .ok compilation)
    (limits : Limits) (decider : Decider π) (x : ControlState π) {n : Nat} {head : MachineState}
    {y : ControlState π}
    (hhead : compilation.assembly.head? limits (.byControl decider) x n = some (head, y))
    (hfaultless : ∀ m < n, ¬ compilation.assembly.FaultAt limits (.byControl decider) x m)
    (hopen : head.registers.stack.frames ≠ []) :
    (∀ line, head.pc = .line line → line ∈ analysis.called) ∧
      ∀ frame ∈ head.registers.stack.frames.tail,
        frame = .halt ∨ ∃ line ∈ analysis.called, frame = .line line := by
  have checked := checked_of_ofSource hanalysis
  have closed := (checked.yields hcompile).1.calledClosed checked
  have hsheltered := closed.sheltered_head? hhead
  have hnever : ∀ depth, ¬ compilation.assembly.Astray limits (.byControl decider) x
      analysis.called n depth := Assembly.not_astray_of_faultless hfaultless
  have hdepth := CallStack.depth_pos_iff.mpr hopen
  constructor
  · intro line hline
    exact (hsheltered.pc line hline hdepth).resolve_right (hnever _)
  · intro frame hframe
    cases frame with
    | halt => exact Or.inl rfl
    | line line =>
        obtain ⟨depth, hget⟩ := List.mem_iff_getElem?.mp hframe
        rw [List.getElem?_tail] at hget
        have hcalled := hsheltered.frames (depth + 1) line (Nat.succ_pos depth) hget
        exact Or.inr ⟨line, hcalled.resolve_right (hnever _), rfl⟩

/-- A call within a call. -/
def Compilation.nestedSource : String :=
  "10 gosub 30\n20 goto 70\n30 gosub 50\n40 return\n50 work\n60 return\n70 done"

/-- At the third head both calls are open.  Control is at a called line, and so is the place that
the inner call comes back to; the place after the outer call is not one. -/
theorem Analysis.open_calls_at_called_lines_nestedSource :
    ∃ analysis compilation head y, ofSource Compilation.nestedSource .empty = .ok analysis ∧
      (analysis.compile .echo .absent ()).result = .ok compilation ∧
      compilation.assembly.head? .standard (.byControl (.taking [])) ⟨(), []⟩ 2 = some (head, y) ∧
      head.registers.stack.frames = [.line 20, .line 40] ∧ head.pc = .line 50 ∧
      50 ∈ analysis.called ∧ 40 ∈ analysis.called ∧ 20 ∉ analysis.called := by
  have hruns : (ofSource Compilation.nestedSource .empty).toOption.any (fun analysis =>
      20 ∉ analysis.called ∧
      (analysis.compile .echo .absent ()).result.toOption.any fun compilation =>
        (compilation.assembly.head? .standard (.byControl (.taking [])) ⟨(), []⟩ 2).any fun head =>
          head.1.registers.stack.frames = [.line 20, .line 40] ∧ head.1.pc = .line 50) = true := by
    decide +kernel
  obtain ⟨analysis, hanalysis, hruns⟩ := exists_ok_of_any hruns
  obtain ⟨houter, hruns⟩ := of_decide_eq_true hruns
  obtain ⟨compilation, hcompile, hruns⟩ := exists_ok_of_any hruns
  obtain ⟨⟨head, y⟩, hhead, hplace⟩ := (Option.any_eq_true _ _).mp hruns
  obtain ⟨hframes, hpc⟩ := of_decide_eq_true hplace
  obtain ⟨hcalled, hinner⟩ := open_calls_at_called_lines hanalysis hcompile .standard (.taking [])
    ⟨(), []⟩ hhead (fun m _ => Assembly.not_faultAt_of_pending rfl m) (by simp [hframes])
  obtain hhalt | ⟨line, hline, hback⟩ := hinner (.line 40) (by simp [hframes])
  · cases hhalt
  · cases hback
    exact ⟨analysis, compilation, head, y, hanalysis, hcompile, hhead, hframes, hpc,
      hcalled 50 hpc, hline, houter⟩

end NumberedProse
