import Mathlib.Tactic.Common
import NumberedProse.Machine.ByControl
import NumberedProse.Proofs.Turns

/-!
# Steps by control alone

What a step does under the executor that goes by the control of each block.

**The turn of a block.**  It installs the handler of the block, fault or no fault, and without a
fault it asks for the transfer that the control spells (`byControl_effect`).  The decider enters
only through the answer to a condition.

**The step.**  `next_byControl` puts this together with `MachineState.settle_ok`: the handler of the
next head is the one the block installs, or else the one before, and control moves as
`Control.Moves` says unless a fault took it to the handler.  Every later fact about runs by control
is an induction over the cases of this one lemma.

**The history of the handler.**  The active handler was installed by a line that the run has
executed, at the latest by the line before the head (`exists_installer`).
-/

namespace NumberedProse

/-! ## Turns -/

/-- The transfer that a control asks for, once its condition is decided. -/
def Control.transfer (holds : Bool) : Control → Option Transfer
  | fallthrough => none
  | jump target => some (.jump target)
  | branch target _ => if holds then some (.jump target) else none
  | call target => some (.call target)
  | ret => some .ret

lemma foldl_installs (handler active : Option LineNumber) :
    (handler.toList.map Operation.setHandler).foldl (Effect.perform .dispatch)
      ⟨none, active, none⟩ = ⟨none, handler.or active, none⟩ := by
  cases handler <;> rfl

lemma foldl_operations {π : Type} (decider : Decider π) (line : LineNumber) (asking : π)
    (control : Control) (active : Option LineNumber) :
    ∃ holds, (ControlState.operations decider line asking control).1.foldl
      (Effect.perform .dispatch) ⟨none, active, none⟩ = ⟨control.transfer holds, active, none⟩ := by
  cases control with
  | fallthrough => exact ⟨true, rfl⟩
  | jump target => exact ⟨true, rfl⟩
  | call target => exact ⟨true, rfl⟩
  | ret => exact ⟨true, rfl⟩
  | branch target predicate =>
      refine ⟨(decider asking line predicate).1, ?_⟩
      simp only [ControlState.operations, Control.transfer]
      split <;> rfl

/-- **What the turn of a block comes to.**  The handler is installed in any case; the transfer is
asked for unless the line fails. -/
lemma byControl_effect {π : Type} {decider : Decider π} {x y : ControlState π} {block : Block}
    {view : View} {turn : Turn} (hmode : view.mode = .dispatch)
    (h : Executor.byControl decider x block view = (turn, y)) :
    (view.effect turn.operations).handler = block.handler.or view.handler ∧
      (turn.fault = none →
        ∃ holds, (view.effect turn.operations).transfer = block.control.transfer holds) := by
  simp only [Executor.byControl] at h
  split at h
  · cases h
    simp [View.effect, hmode, foldl_installs]
  · cases h
    obtain ⟨holds, hmoves⟩ := foldl_operations decider block.number x.decider block.control
      (block.handler.or view.handler)
    refine ⟨?_, fun _ => ⟨holds, ?_⟩⟩
    · simp only [View.effect, hmode, List.foldl_append, foldl_installs, hmoves]
    · simp only [View.effect, hmode, List.foldl_append, foldl_installs, hmoves]

/-- Only a call asks for a call. -/
lemma Control.eq_call_of_transfer {control : Control} {holds : Bool} {target : LineNumber}
    (h : control.transfer holds = some (.call target)) : control = .call target := by
  cases control with
  | call m =>
      cases h
      rfl
  | branch m predicate => cases holds <;> cases h
  | fallthrough => cases h
  | jump m => cases h
  | ret => cases h

/-! ## Steps -/

/-- **Where the control of a block takes the machine** from a stack of open calls, if the block does
not fail. -/
inductive Control.Moves (successor : Destination) (stack : CallStack) :
    Control → Destination → CallStack → Prop where
  | onwards {control : Control} (h : control.fallsThrough = true) :
      Moves successor stack control successor stack
  | jump (target : LineNumber) : Moves successor stack (.jump target) (.line target) stack
  | branch (target : LineNumber) (predicate : String) :
      Moves successor stack (.branch target predicate) (.line target) stack
  | call (target : LineNumber) :
      Moves successor stack (.call target) (.line target) (stack.push successor)
  | ret {back : Destination} {rest : CallStack} (h : stack.pop? = some (back, rest)) :
      Moves successor stack .ret back rest

/-- The transfer a control asks for moves control as the control says. -/
lemma Control.moves_of_transfer {successor pc : Destination} {stack rest : CallStack}
    {control : Control} {holds : Bool}
    (h : Transfer.Moves successor stack (control.transfer holds) pc rest) :
    control.Moves successor stack pc rest := by
  cases control with
  | fallthrough =>
      cases h
      exact .onwards rfl
  | jump target =>
      cases h
      exact .jump target
  | branch target predicate =>
      cases holds with
      | false =>
          cases h
          exact .onwards rfl
      | true =>
          cases h
          exact .branch target predicate
  | call target =>
      cases h
      exact .call target
  | ret =>
      cases h with
      | ret hpop => exact .ret hpop

namespace Assembly

variable {π : Type} {assembly : Assembly} {limits : Limits} {decider : Decider π}
  {state next : MachineState} {x y : ControlState π}

/-- **A step by control.**  A block is executed, its handler is the active one from then on, and
control moves as the block's control says, or to the handler after a fault. -/
theorem next_byControl
    (h : assembly.advance limits (.byControl decider) state x = .next next y) :
    ∃ line block successor turn,
      assembly.Executes limits (.byControl decider) state x line block successor turn y ∧
      next.registers.handler = block.handler.or state.registers.handler ∧
      ((turn.fault = none ∧ block.control.Moves successor state.registers.stack
          next.pc next.registers.stack) ∨
        (turn.fault ≠ none ∧ next.registers.stack = state.registers.stack ∧
          ∃ handler, next.registers.handler = some handler ∧ next.pc = .line handler)) := by
  obtain ⟨line, block, successor, turn, z, hexecutes⟩ := exists_executes_of_next h
  obtain ⟨rfl, hsettle⟩ := hexecutes.settle_of_next h
  obtain ⟨hinstalls, htransfer⟩ := byControl_effect rfl hexecutes.turn
  obtain ⟨hhandler, hmoves⟩ := MachineState.settle_ok hsettle
  refine ⟨line, block, successor, turn, hexecutes, hhandler.trans hinstalls, ?_⟩
  rcases hmoves with ⟨hfault, hmoves⟩ | hrouted
  · obtain ⟨holds, hholds⟩ := htransfer hfault
    rw [hholds] at hmoves
    exact Or.inl ⟨hfault, Control.moves_of_transfer hmoves⟩
  · exact Or.inr hrouted

/-- A block that does not fail makes the transfer that its control asks for. -/
lemma Executes.transfer?_byControl {line : LineNumber} {block : Block} {successor : Destination}
    {turn : Turn}
    (h : assembly.Executes limits (.byControl decider) state x line block successor turn y)
    (hfault : turn.fault = none) : ∃ holds, turn.transfer? = block.control.transfer holds := by
  obtain ⟨holds, hholds⟩ := (byControl_effect rfl h.turn).2 hfault
  exact ⟨holds, by rw [← state.effect_transfer line hfault, hholds]⟩

/-- **The active handler was installed by a line that has been executed.** -/
theorem exists_installer {n : Nat} {head : MachineState}
    (hhead : assembly.head? limits (.byControl decider) x n = some (head, y))
    {handler : LineNumber} (hactive : head.registers.handler = some handler) :
    ∃ j < n, ∃ turn, ∃ block ∈ assembly.blocks, block.handler = some handler ∧
      assembly.turnAt? limits (.byControl decider) x j = some (block.number, turn) := by
  induction n generalizing head y with
  | zero =>
      cases hhead
      cases hactive
  | succ n ih =>
      obtain ⟨before, z, hbefore, hstep⟩ := headFrom?_succ_iff.mp hhead
      obtain ⟨line, block, successor, turn, hexecutes, hhandler, -⟩ := next_byControl hstep
      obtain ⟨hblock, rfl, -⟩ := locate?_eq_some hexecutes.located
      rw [hhandler] at hactive
      rcases Option.or_eq_some_iff.mp hactive with hinstalled | ⟨-, hkept⟩
      · exact ⟨n, Nat.lt_succ_self n, turn, block, hblock, hinstalled, hexecutes.turnAt? hbefore⟩
      · obtain ⟨j, hj, installer⟩ := ih hbefore hkept
        exact ⟨j, Nat.lt_succ_of_lt hj, installer⟩

end Assembly

end NumberedProse
