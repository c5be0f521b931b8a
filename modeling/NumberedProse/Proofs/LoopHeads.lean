import Mathlib.Tactic.Common
import NumberedProse.Machine.Run
import NumberedProse.Proofs.Search

/-!
# Runs, head by head

A run in dispatch mode comes back to the head of its loop after every step.  `Assembly.head?`
numbers these heads, so that "at every point of every run" is a statement about all numbers; a run
without end has a head for each of them.

**From heads to outcomes.**  A run ends at the first head whose step does not lead to another one
(`stepped?_eq_some_iff`), so whatever is known of all heads is known of every outcome.

**From steps to heads.**  What holds at the start and is kept by every step holds at every head
(`head?_induction`).

**What a step does.**  `Executes` says that a block is executed from a head: the line has a block
and the limit on steps allows it.  `advance_cases` is the inversion of a step that all later proofs
use: nothing else here or later unfolds `Assembly.advance`.
-/

namespace NumberedProse

/-! ## The stack of open calls -/

namespace CallStack

@[simp] lemma returns_push (stack : CallStack) (back : Destination) :
    (stack.push back).returns = back :: stack.returns := rfl

/-- Closing a call gives back the latest place and leaves the others. -/
lemma returns_of_pop? {stack rest : CallStack} {back : Destination}
    (h : stack.pop? = some (back, rest)) : stack.returns = back :: rest.returns := by
  simp only [pop?] at h
  split at h
  · cases h
  · next hreturns =>
      cases h
      exact hreturns

lemma pop?_eq_none_iff {stack : CallStack} : stack.pop? = none ↔ stack.returns = [] := by
  simp only [pop?]
  split
  · next hreturns => simp [hreturns]
  · next hreturns => simp [hreturns]

lemma depth_eq_length (stack : CallStack) : stack.depth = stack.frames.length := by
  simp [frames, stack.depth_eq]

@[simp] lemma frames_push (stack : CallStack) (back : Destination) :
    (stack.push back).frames = stack.frames ++ [back] := by
  simp [frames]

lemma depth_pos_iff {stack : CallStack} : 0 < stack.depth ↔ stack.frames ≠ [] := by
  rw [depth_eq_length, List.length_pos_iff]

/-- The place that a call pushes stands at the old depth; the others are where they were. -/
lemma getElem?_frames_push {stack : CallStack} {back place : Destination} {depth : Nat}
    (h : (stack.push back).frames[depth]? = some place) :
    stack.frames[depth]? = some place ∨ depth = stack.depth ∧ place = back := by
  rw [frames_push] at h
  rcases Nat.lt_or_ge depth stack.frames.length with hlt | hge
  · rw [List.getElem?_append_left hlt] at h
    exact Or.inl h
  · obtain ⟨hbound, -⟩ := List.getElem?_eq_some_iff.mp h
    have hdepth : depth = stack.frames.length := by
      rw [List.length_append, List.length_singleton] at hbound
      omega
    subst hdepth
    rw [List.getElem?_concat_length] at h
    exact Or.inr ⟨stack.depth_eq_length.symm, (Option.some.inj h).symm⟩

lemma frames_of_pop? {stack rest : CallStack} {back : Destination}
    (h : stack.pop? = some (back, rest)) : stack.frames = rest.frames ++ [back] := by
  simp [frames, returns_of_pop? h]

end CallStack

/-! ## Finding the block of a line -/

lemma Destination.ofSuccessor_eq_line_iff {successor : Option LineNumber} {line : LineNumber} :
    ofSuccessor successor = .line line ↔ successor = some line := by
  cases successor <;> simp [ofSuccessor]

namespace Assembly

/-- A block that is located carries the number asked for, and what follows it is the next block. -/
lemma locate?_eq_some {assembly : Assembly} {line : LineNumber} {block : Block}
    {successor : Destination} (h : assembly.locate? line = some (block, successor)) :
    block ∈ assembly.blocks ∧ block.number = line ∧
      successor = .ofSuccessor (assembly.successor? line) := by
  obtain ⟨i, hi, hblock⟩ := Option.bind_eq_some_iff.mp h
  obtain ⟨b, hb, hpair⟩ := Option.bind_eq_some_iff.mp hblock
  cases hpair
  have hnumber := Numbered.number_of_position? hi
  rw [hb, Option.map_some, Option.some.injEq] at hnumber
  have hsuccessor : assembly.successor? line = assembly.blocks[i + 1]?.map Block.number := by
    have hposition : Numbered.position? Block.number assembly.blocks line = some i := hi
    rw [successor?, Numbered.successor?, hposition, Option.bind_some]
  exact ⟨Array.mem_of_getElem? hb, hnumber, by rw [hsuccessor]⟩

/-- **Every number has its block** in an ordered assembly. -/
lemma Ordered.exists_locate? {assembly : Assembly} (ordered : assembly.Ordered) {line : LineNumber}
    (h : line ∈ assembly.numbers) : ∃ block successor,
      assembly.locate? line = some (block, successor) := by
  obtain ⟨i, hi⟩ :=
    Option.isSome_iff_exists.mp ((Numbered.position?_isSome_iff ordered).mpr h)
  obtain ⟨block, hblock, -⟩ := Option.map_eq_some_iff.mp (Numbered.number_of_position? hi)
  have hposition : assembly.position? line = some i := hi
  exact ⟨block, .ofSuccessor (assembly.blocks[i + 1]?.map Block.number),
    by simp [locate?, hposition, hblock]⟩

end Assembly

/-! ## Heads -/

namespace Progress

variable {σ : Type}

/-- The head that a step leads to. -/
def next? : Progress σ → Option (MachineState × σ)
  | next state x => some (state, x)
  | halted _ _ | failed _ _ _ => none

/-- The end that a step brings. -/
def ended? : Progress σ → Option (Ended σ)
  | next _ _ => none
  | halted state x => some ⟨none, state, x⟩
  | failed error state x => some ⟨some error, state, x⟩

lemma next?_eq_some_iff {progress : Progress σ} {state : MachineState} {x : σ} :
    progress.next? = some (state, x) ↔ progress = .next state x := by
  cases progress <;> simp [next?]

end Progress

namespace Assembly

variable {σ : Type} {assembly : Assembly} {limits : Limits} {executor : Executor σ}

/-- The head of the loop after a number of steps from a given one, if the run gets there. -/
def headFrom? (assembly : Assembly) (limits : Limits) (executor : Executor σ)
    (state : MachineState) (x : σ) : Nat → Option (MachineState × σ)
  | 0 => some (state, x)
  | n + 1 => (assembly.headFrom? limits executor state x n).bind fun head =>
      (assembly.advance limits executor head.1 head.2).next?

/-- **The loop heads of a run** in dispatch mode, numbered from zero. -/
def head? (assembly : Assembly) (limits : Limits) (executor : Executor σ) (x : σ) (n : Nat) :
    Option (MachineState × σ) :=
  assembly.headFrom? limits executor (.start (.ofSuccessor assembly.entry?)) x n

lemma headFrom?_succ_iff {state next : MachineState} {x y : σ} {n : Nat} :
    assembly.headFrom? limits executor state x (n + 1) = some (next, y) ↔
      ∃ s z, assembly.headFrom? limits executor state x n = some (s, z) ∧
        assembly.advance limits executor s z = .next next y := by
  simp only [headFrom?, Option.bind_eq_some_iff, Prod.exists, Progress.next?_eq_some_iff]

/-- The step from a head leads to the next one. -/
lemma advance_of_head? {state next : MachineState} {x y z : σ} {n : Nat}
    (hhead : assembly.head? limits executor x n = some (state, y))
    (hnext : assembly.head? limits executor x (n + 1) = some (next, z)) :
    assembly.advance limits executor state y = .next next z := by
  obtain ⟨s, w, hs, hstep⟩ := headFrom?_succ_iff.mp hnext
  obtain ⟨rfl, rfl⟩ : state = s ∧ y = w := Prod.mk.inj (Option.some.inj (hhead.symm.trans hs))
  exact hstep

/-- Heads can be counted from the second one as well. -/
lemma headFrom?_succ {state next : MachineState} {x y : σ} (n : Nat)
    (h : assembly.advance limits executor state x = .next next y) :
    assembly.headFrom? limits executor state x (n + 1) =
      assembly.headFrom? limits executor next y n := by
  induction n with
  | zero => simp [headFrom?, h, Progress.next?]
  | succ n ih =>
      rw [headFrom?, ih]
      rfl

/-- A step that ends the run leads to no head. -/
lemma headFrom?_succ_eq_none {state : MachineState} {x : σ} (n : Nat)
    (h : (assembly.advance limits executor state x).next? = none) :
    assembly.headFrom? limits executor state x (n + 1) = none := by
  induction n with
  | zero => simp [headFrom?, h]
  | succ n ih =>
      rw [headFrom?, ih]
      rfl

/-- **A run ends at a head whose step ends it,** and there only. -/
theorem stepped?_eq_some_iff {patience : Nat} {state : MachineState} {x : σ} {ended : Ended σ} :
    assembly.stepped? limits executor patience state x = some ended ↔
      ∃ n < patience, ∃ s y, assembly.headFrom? limits executor state x n = some (s, y) ∧
        (assembly.advance limits executor s y).ended? = some ended := by
  induction patience generalizing state x with
  | zero => simp [stepped?]
  | succ patience ih =>
      -- the first head either ends the run or hands it to the second
      have hsplit : (∃ n < patience + 1, ∃ s y,
            assembly.headFrom? limits executor state x n = some (s, y) ∧
              (assembly.advance limits executor s y).ended? = some ended) ↔
          (assembly.advance limits executor state x).ended? = some ended ∨
            ∃ n < patience, ∃ s y,
              assembly.headFrom? limits executor state x (n + 1) = some (s, y) ∧
                (assembly.advance limits executor s y).ended? = some ended := by
        constructor
        · rintro ⟨n, hn, s, y, hhead, hend⟩
          cases n with
          | zero =>
              cases hhead
              exact Or.inl hend
          | succ n => exact Or.inr ⟨n, by omega, s, y, hhead, hend⟩
        · rintro (hend | ⟨n, hn, s, y, hhead, hend⟩)
          · exact ⟨0, by omega, state, x, rfl, hend⟩
          · exact ⟨n + 1, by omega, s, y, hhead, hend⟩
      rw [hsplit]
      cases hstep : assembly.advance limits executor state x with
      | next s y => simp [stepped?, hstep, ih, headFrom?_succ _ hstep, Progress.ended?]
      | halted s y =>
          have hnone : ∀ n, assembly.headFrom? limits executor state x (n + 1) = none :=
            fun n => headFrom?_succ_eq_none n (by rw [hstep]; rfl)
          simp [stepped?, hstep, hnone, Progress.ended?]
      | failed e s y =>
          have hnone : ∀ n, assembly.headFrom? limits executor state x (n + 1) = none :=
            fun n => headFrom?_succ_eq_none n (by rw [hstep]; rfl)
          simp [stepped?, hstep, hnone, Progress.ended?]

/-- **The report on a run in dispatch mode** is the report on the end that some head brings. -/
theorem run?_dispatch_eq_some_iff (hmode : assembly.mode = .dispatch) {patience : Nat} {x : σ}
    {report : Report σ} :
    assembly.run? limits executor patience x = some report ↔
      ∃ n < patience, ∃ s y ended, assembly.head? limits executor x n = some (s, y) ∧
        (assembly.advance limits executor s y).ended? = some ended ∧
        ended.report .dispatch = report := by
  simp only [run?, hmode, Option.map_eq_some_iff, stepped?_eq_some_iff, head?]
  constructor
  · rintro ⟨ended, ⟨n, hn, s, y, hhead, hended⟩, hreport⟩
    exact ⟨n, hn, s, y, ended, hhead, hended, hreport⟩
  · rintro ⟨n, hn, s, y, ended, hhead, hended, hreport⟩
    exact ⟨ended, ⟨n, hn, s, y, hhead, hended⟩, hreport⟩

/-- A run that an error ended is reported as failed. -/
lemma outcome_of_error {ended : Ended σ} {error : MachineError} (h : ended.error = some error)
    (mode : Mode) : (ended.report mode).outcome =
      .error ⟨error, ended.state.visited.toList, ended.state.registers.stack.frames⟩ := by
  simp only [Ended.report, h]

/-- A failure that is reported is the one that ended the run. -/
lemma error_of_report {ended : Ended σ} {mode : Mode} {failure : Failure}
    (h : (ended.report mode).outcome = .error failure) : ended.error = some failure.error := by
  simp only [Ended.report] at h
  split at h
  · next error herror =>
      cases h
      exact herror
  · cases h

/-- **What every step keeps holds at every head.** -/
theorem head?_induction {P : MachineState → σ → Prop} {x : σ}
    (hstart : P (.start (.ofSuccessor assembly.entry?)) x)
    (hstep : ∀ s y next z, P s y → assembly.advance limits executor s y = .next next z → P next z)
    {n : Nat} {s : MachineState} {y : σ} (h : assembly.head? limits executor x n = some (s, y)) :
    P s y := by
  induction n generalizing s y with
  | zero =>
      cases h
      exact hstart
  | succ n ih =>
      obtain ⟨s', y', hhead, hadvance⟩ := headFrom?_succ_iff.mp h
      exact hstep s' y' s y (ih hhead) hadvance

/-! ## One step -/

/-- **A block is executed from a head:** the limit on steps allows it, the line has a block, and the
executor answers with a turn. -/
structure Executes (assembly : Assembly) (limits : Limits) (executor : Executor σ)
    (state : MachineState) (x : σ) (line : LineNumber) (block : Block) (successor : Destination)
    (turn : Turn) (y : σ) : Prop where
  pc : state.pc = .line line
  within : limits.exceeded? (state.steps + 1) = none
  located : assembly.locate? line = some (block, successor)
  turn : executor x block (state.view line) = (turn, y)

end Assembly

/-- The state once a block has had its turn, before control moves. -/
def MachineState.afterTurn (state : MachineState) (line : LineNumber) (turn : Turn) :
    MachineState :=
  (state.tick.visit line).adopt ((state.view line).effect turn.operations).handler

namespace Assembly

variable {σ : Type} {assembly : Assembly} {limits : Limits} {executor : Executor σ}
  {state : MachineState} {x : σ}

/-- An executed block settles where control goes. -/
lemma Executes.advance_eq {line : LineNumber} {block : Block} {successor : Destination}
    {turn : Turn} {y : σ}
    (h : assembly.Executes limits executor state x line block successor turn y) :
    assembly.advance limits executor state x =
      match (state.afterTurn line turn).settle limits line successor
        ((state.view line).effect turn.operations).transfer turn.fault with
      | .ok next => .next next y
      | .error e => .failed e (state.afterTurn line turn) y := by
  have hview : state.tick.view line = state.view line := rfl
  have hwithin : limits.exceeded? state.tick.steps = none := h.within
  simp only [advance, h.pc, hwithin, h.located, execute, hview, h.turn]
  rfl

lemma advance_of_halt (h : state.pc = .halt) :
    assembly.advance limits executor state x = .halted state x := by
  simp [advance, h]

lemma advance_of_exceeded {line : LineNumber} {limit : Nat} (hpc : state.pc = .line line)
    (h : limits.exceeded? (state.steps + 1) = some limit) :
    assembly.advance limits executor state x = .failed (.stepLimit limit) state.tick x := by
  simp [advance, hpc, MachineState.tick, h]

lemma advance_of_unlocated {line : LineNumber} (hpc : state.pc = .line line)
    (hwithin : limits.exceeded? (state.steps + 1) = none) (h : assembly.locate? line = none) :
    assembly.advance limits executor state x =
      .failed (.unknownLine (state.visited.back?.getD line) line) state.tick x := by
  simp [advance, hpc, MachineState.tick, hwithin, h]

/-- **All that a step can be:** the program has halted, the limit on steps is met, the line has no
block, or a block is executed. -/
theorem advance_cases (assembly : Assembly) (limits : Limits) (executor : Executor σ)
    (state : MachineState) (x : σ) :
    (state.pc = .halt ∧ assembly.advance limits executor state x = .halted state x) ∨
    (∃ limit, assembly.advance limits executor state x =
      .failed (.stepLimit limit) state.tick x) ∨
    (∃ line, state.pc = .line line ∧ assembly.locate? line = none ∧
      assembly.advance limits executor state x =
        .failed (.unknownLine (state.visited.back?.getD line) line) state.tick x) ∨
    ∃ line block successor turn y,
      assembly.Executes limits executor state x line block successor turn y := by
  cases hpc : state.pc with
  | halt => exact Or.inl ⟨rfl, advance_of_halt hpc⟩
  | line line =>
      cases hlimit : limits.exceeded? (state.steps + 1) with
      | some limit => exact Or.inr (Or.inl ⟨limit, advance_of_exceeded hpc hlimit⟩)
      | none =>
          cases hlocate : assembly.locate? line with
          | none =>
              exact Or.inr (Or.inr (Or.inl
                ⟨line, rfl, hlocate, advance_of_unlocated hpc hlimit hlocate⟩))
          | some found =>
              exact Or.inr (Or.inr (Or.inr ⟨line, found.1, found.2, _, _,
                ⟨hpc, hlimit, hlocate, rfl⟩⟩))

/-- A step that leads to another head executes a block. -/
lemma exists_executes_of_next {next : MachineState} {y : σ}
    (h : assembly.advance limits executor state x = .next next y) :
    ∃ line block successor turn z,
      assembly.Executes limits executor state x line block successor turn z := by
  rcases advance_cases assembly limits executor state x with
    ⟨-, hhalt⟩ | ⟨limit, hlimit⟩ | ⟨line, -, -, hunknown⟩ | hexecutes
  · rw [hhalt] at h
    cases h
  · rw [hlimit] at h
    cases h
  · rw [hunknown] at h
    cases h
  · exact hexecutes

end Assembly

/-! ## Where control goes -/

/-- **Where a transfer takes control,** and what it leaves of the stack.  Without a transfer control
goes on to the successor. -/
inductive Transfer.Moves (successor : Destination) (stack : CallStack) :
    Option Transfer → Destination → CallStack → Prop where
  | onwards : Moves successor stack none successor stack
  | jump (target : LineNumber) : Moves successor stack (some (.jump target)) (.line target) stack
  | call (target : LineNumber) :
      Moves successor stack (some (.call target)) (.line target) (stack.push successor)
  | ret {back : Destination} {rest : CallStack} (h : stack.pop? = some (back, rest)) :
      Moves successor stack (some .ret) back rest

namespace MachineState

variable {state next : MachineState} {limits : Limits} {line : LineNumber}
  {successor : Destination} {transfer : Option Transfer}

/-- A transfer that succeeds moves control, and changes neither the handler nor the fault. -/
lemma follow_ok (h : state.follow limits line successor transfer = .ok next) :
    Transfer.Moves successor state.registers.stack transfer next.pc next.registers.stack ∧
      next.registers.handler = state.registers.handler := by
  rcases transfer with _ | target | target | _
  · cases h
    exact ⟨.onwards, rfl⟩
  · cases h
    exact ⟨.jump target, rfl⟩
  · simp only [follow] at h
    split at h
    · cases h
    · cases h
      exact ⟨.call target, rfl⟩
  · simp only [follow, Registers.pop?] at h
    cases hpop : state.registers.stack.pop? with
    | none =>
        rw [hpop] at h
        cases h
    | some popped =>
        rw [hpop] at h
        cases h
        exact ⟨.ret hpop, rfl⟩

/-- **What a turn can lead to:** a fault goes to the active handler with all calls left open, and
otherwise the transfer is carried out. -/
theorem settle_ok {fault : Option String}
    (h : state.settle limits line successor transfer fault = .ok next) :
    next.registers.handler = state.registers.handler ∧
      ((fault = none ∧
        Transfer.Moves successor state.registers.stack transfer next.pc next.registers.stack) ∨
      (fault ≠ none ∧ next.registers.stack = state.registers.stack ∧
        ∃ handler, next.registers.handler = some handler ∧ next.pc = .line handler)) := by
  cases fault with
  | none =>
      obtain ⟨hmoves, hhandler⟩ := follow_ok h
      exact ⟨hhandler, Or.inl ⟨rfl, hmoves⟩⟩
  | some message =>
      simp only [settle, routeFault] at h
      split at h
      · cases h
      · next handler hhandler =>
          cases h
          exact ⟨rfl, Or.inr ⟨by simp, rfl, handler, hhandler, rfl⟩⟩

/-- A turn that is settled leaves the lines visited as they are, and its fault, if it has one, is
the latest. -/
lemma settle_records {fault : Option String}
    (h : state.settle limits line successor transfer fault = .ok next) :
    next.visited = state.visited ∧
      next.lastFault = (fault.map (FaultRecord.mk line)).or state.lastFault := by
  cases fault with
  | some message =>
      simp only [settle, routeFault] at h
      split at h <;> cases h
      exact ⟨rfl, rfl⟩
  | none =>
      simp only [settle, follow] at h
      split at h
      · cases h
        exact ⟨rfl, rfl⟩
      · cases h
        exact ⟨rfl, rfl⟩
      · split at h <;> cases h
        exact ⟨rfl, rfl⟩
      · split at h <;> cases h
        exact ⟨rfl, rfl⟩

/-- **What a turn can fail with:** a fault without a handler, a return without a call, or a call too
many. -/
theorem settle_error {fault : Option String} {e : MachineError}
    (h : state.settle limits line successor transfer fault = .error e) :
    (∃ message, fault = some message ∧ state.registers.handler = none ∧
      e = .unhandledFault line message) ∨
    (fault = none ∧ transfer = some .ret ∧ state.registers.stack.returns = [] ∧
      e = .unbalancedReturn line) ∨
    (fault = none ∧ (∃ target, transfer = some (.call target)) ∧
      limits.depth ≤ state.registers.stack.depth ∧ e = .callDepth line limits.depth) := by
  cases fault with
  | some message =>
      simp only [settle, routeFault] at h
      split at h
      · next hhandler =>
          cases h
          exact Or.inl ⟨message, rfl, hhandler, rfl⟩
      · cases h
  | none =>
      right
      simp only [settle] at h
      rcases transfer with _ | target | target | _
      · cases h
      · cases h
      · simp only [follow] at h
        split at h
        · next hdepth =>
            cases h
            exact Or.inr ⟨rfl, ⟨target, rfl⟩, hdepth, rfl⟩
        · cases h
      · simp only [follow, Registers.pop?] at h
        cases hpop : state.registers.stack.pop? with
        | none =>
            rw [hpop] at h
            cases h
            exact Or.inl ⟨rfl, rfl, CallStack.pop?_eq_none_iff.mp hpop, rfl⟩
        | some popped =>
            rw [hpop] at h
            cases h

end MachineState

namespace Assembly

variable {σ : Type} {assembly : Assembly} {limits : Limits} {executor : Executor σ}
  {state next : MachineState} {x y : σ} {line : LineNumber} {block : Block}
  {successor : Destination} {turn : Turn}

/-- A block whose step leads on has settled without an error. -/
lemma Executes.settle_of_next {z : σ}
    (h : assembly.Executes limits executor state x line block successor turn y)
    (hnext : assembly.advance limits executor state x = .next next z) :
    z = y ∧ (state.afterTurn line turn).settle limits line successor
      ((state.view line).effect turn.operations).transfer turn.fault = .ok next := by
  rw [h.advance_eq] at hnext
  split at hnext
  · next hsettle =>
      cases hnext
      exact ⟨rfl, hsettle⟩
  · cases hnext

/-- A block whose step ends the run has settled with the error. -/
lemma Executes.settle_of_ended {ended : Ended σ}
    (h : assembly.Executes limits executor state x line block successor turn y)
    (hended : (assembly.advance limits executor state x).ended? = some ended) :
    ∃ error, ended = ⟨some error, state.afterTurn line turn, y⟩ ∧
      (state.afterTurn line turn).settle limits line successor
        ((state.view line).effect turn.operations).transfer turn.fault = .error error := by
  rw [h.advance_eq] at hended
  split at hended
  · cases hended
  · next error hsettle =>
      cases hended
      exact ⟨error, rfl, hsettle⟩

end Assembly

end NumberedProse
