import NumberedProse.Machine.Step

/-!
# Runs

A program in dispatch mode is stepped until it halts or fails; a linear one has its blocks executed
one after the other.  Programs loop freely, so the number of steps to follow a run for is a
parameter.  Under a limit on steps one more than the limit is always enough
(`Assembly.stepped?_isSome`), and `Assembly.run` needs no such parameter.
-/

namespace NumberedProse

/-- A run that has come to its end. -/
structure Ended (σ : Type) where
  /-- The error that ended it; `none` if the program halted. -/
  error : Option MachineError
  state : MachineState
  executor : σ

/-- What a run looked like from outside, if it did not fail. -/
structure Trace where
  mode : Mode
  /-- The lines in the order of execution, with repetitions. -/
  visited : List LineNumber
  steps : Nat
  handler : Option LineNumber
  lastFault : Option FaultRecord
deriving Repr, DecidableEq

/-- The outcome of a run and what it left behind. -/
structure Report (σ : Type) where
  outcome : Except Failure Trace
  registers : Registers
  executor : σ

namespace Ended

variable {σ : Type}

/-- The report on a run that has ended. -/
def report (ended : Ended σ) (mode : Mode) : Report σ :=
  let state := ended.state
  let outcome := match ended.error with
    | some error => .error ⟨error, state.visited.toList, state.registers.stack.frames⟩
    | none =>
        .ok ⟨mode, state.visited.toList, state.steps, state.registers.handler, state.lastFault⟩
  ⟨outcome, state.registers, ended.executor⟩

end Ended

namespace Assembly

variable {σ : Type}

/-! ## Dispatch mode -/

/-- **Steps until the run ends,** for at most the given number of steps. -/
def stepped? (assembly : Assembly) (limits : Limits) (executor : Executor σ) :
    (patience : Nat) → MachineState → σ → Option (Ended σ)
  | 0, _, _ => none
  | patience + 1, state, x =>
      match assembly.advance limits executor state x with
      | .next state x => assembly.stepped? limits executor patience state x
      | .halted state x => some ⟨none, state, x⟩
      | .failed error state x => some ⟨some error, state, x⟩

/-- A turn that is settled counts no step. -/
theorem settle_steps {state next : MachineState} {limits : Limits} {line : LineNumber}
    {successor : Destination} {transfer : Option Transfer} {fault : Option String}
    (h : state.settle limits line successor transfer fault = .ok next) :
    next.steps = state.steps := by
  cases fault with
  | some message =>
      simp only [MachineState.settle, MachineState.routeFault] at h
      split at h <;> cases h
      rfl
  | none =>
      simp only [MachineState.settle, MachineState.follow] at h
      split at h
      · cases h; rfl
      · cases h; rfl
      · split at h <;> cases h
        rfl
      · split at h <;> cases h
        rfl

/-- **A step that does not end the run counts one,** and stays within the limit. -/
theorem advance_next_steps {assembly : Assembly} {limits : Limits} {executor : Executor σ}
    {state next : MachineState} {x y : σ}
    (h : assembly.advance limits executor state x = .next next y) :
    next.steps = state.steps + 1 ∧ ∀ limit, limits.steps = some limit → next.steps ≤ limit := by
  simp only [advance] at h
  split at h
  · cases h
  · split at h
    · cases h
    · next hlimit =>
        split at h
        · cases h
        · simp only [execute] at h
          split at h
          · next hsettled =>
              cases h
              have hsteps := settle_steps hsettled
              simp only [MachineState.adopt, MachineState.visit, MachineState.tick] at hsteps
              refine ⟨hsteps, fun limit hlim => ?_⟩
              rw [hsteps]
              exact Limits.le_of_exceeded?_eq_none hlim hlimit
          · cases h

/-- **A limit on steps ends every run.** -/
theorem stepped?_isSome {assembly : Assembly} {limits : Limits} {executor : Executor σ}
    {limit : Nat} (hlimit : limits.steps = some limit) (patience : Nat) (state : MachineState)
    (x : σ) (hwithin : state.steps ≤ limit) (henough : limit < state.steps + patience) :
    (assembly.stepped? limits executor patience state x).isSome := by
  induction patience generalizing state x with
  | zero => omega
  | succ patience ih =>
      simp only [stepped?]
      split
      · next next y hnext =>
          obtain ⟨hcount, hbound⟩ := advance_next_steps hnext
          exact ih next y (hbound limit hlimit) (by omega)
      · rfl
      · rfl

/-! ## Linear mode -/

/-- What a block of a linear program sees. -/
def linearView (line : LineNumber) : View := ⟨line, .linear, 0, none, none⟩

/-- The error, if any, of a block in a linear program.  An operation that needs dispatch mode comes
before a fault, and a fault before a return. -/
def linearError? (line : LineNumber) (effect : Effect) (fault : Option String) :
    Option MachineError :=
  match effect.violation, fault, effect.transfer with
  | some operation, _, _ => some (.needsDispatch line operation)
  | none, some message, _ => some (.unhandledFault line message)
  | none, none, some .ret => some (.unbalancedReturn line)
  | none, none, _ => none

/-- **Executes blocks one after the other,** up to the first error. -/
def straight (limits : Limits) (executor : Executor σ) :
    List Block → MachineState → σ → Ended σ
  | [], state, x => ⟨none, state, x⟩
  | block :: rest, state, x =>
      let state := state.tick
      match limits.exceeded? state.steps with
      | some limit => ⟨some (.stepLimit limit), state, x⟩
      | none =>
          let view := linearView block.number
          let (turn, x) := executor x block view
          let state := state.visit block.number
          match linearError? block.number (view.effect turn.operations) turn.fault with
          | some error => ⟨some error, state, x⟩
          | none => straight limits executor rest state x

/-! ## Either mode -/

/-- **Runs an assembly,** following it for at most the given number of steps in dispatch mode. -/
def run? (assembly : Assembly) (limits : Limits) (executor : Executor σ) (patience : Nat) (x : σ) :
    Option (Report σ) :=
  match assembly.mode with
  | .linear =>
      some ((straight limits executor assembly.blocks.toList (.start .halt) x).report .linear)
  | .dispatch =>
      let start := MachineState.start (.ofSuccessor assembly.entry?)
      (assembly.stepped? limits executor patience start x).map (·.report .dispatch)

/-- **Every run ends** in as many steps as the limit allows and one more. -/
theorem run?_isSome (assembly : Assembly) {limits : Limits} (executor : Executor σ) {limit : Nat}
    (hlimit : limits.steps = some limit) (x : σ) :
    (assembly.run? limits executor (limit + 1) x).isSome := by
  simp only [run?]
  split
  · rfl
  · rw [Option.isSome_map]
    exact stepped?_isSome hlimit (limit + 1) _ x (Nat.zero_le _) (by simp [MachineState.start])

/-- **Runs an assembly under a limit on steps.** -/
def run (assembly : Assembly) (limits : Limits) (executor : Executor σ) (limit : Nat)
    (hlimit : limits.steps = some limit) (x : σ) : Report σ :=
  (assembly.run? limits executor (limit + 1) x).get (assembly.run?_isSome executor hlimit x)

end Assembly

end NumberedProse
