import Mathlib.Tactic.Common
import NumberedProse.Proofs.Turns

/-!
# Runs in either mode, head by head

A linear run executes its blocks one after the other, a run in dispatch mode goes by a program
counter.  Both are loops that come back to a head after every step, and what they have in common is
said here once.

**Heads.**  `Assembly.headAt?` numbers the heads of a run in either mode: head `n` is the state
after `n` steps that neither failed nor halted.  A run ends at exactly one head (`EndsAt.unique`),
and its report is the report on that end (`run?_eq_some_iff`).

**Steps.**  `StepsTo` lists all that a step can lead to, with what it does to the counter, the lines
visited and the open calls; `stepsTo_advanceAt` says that every step is of one of these kinds.
-/

namespace NumberedProse

/-- A turn makes the stack no deeper than it was, or than the limit allows. -/
lemma MachineState.depth_of_settle {state next : MachineState} {limits : Limits}
    {line : LineNumber} {successor : Destination} {transfer : Option Transfer}
    {fault : Option String}
    (h : state.settle limits line successor transfer fault = .ok next) :
    next.registers.stack.depth ≤ max state.registers.stack.depth limits.depth := by
  cases fault with
  | some message =>
      simp only [settle, routeFault] at h
      split at h <;> cases h
      exact Nat.le_max_left _ _
  | none =>
      simp only [settle] at h
      rcases transfer with _ | target | target | _
      · cases h
        exact Nat.le_max_left _ _
      · cases h
        exact Nat.le_max_left _ _
      · simp only [follow] at h
        split at h
        · cases h
        · next hroom =>
            cases h
            exact Nat.le_trans (Nat.lt_of_not_le hroom) (Nat.le_max_right _ _)
      · simp only [follow, Registers.pop?] at h
        cases hpop : state.registers.stack.pop? with
        | none =>
            rw [hpop] at h
            cases h
        | some popped =>
            rw [hpop] at h
            cases h
            have hframes := CallStack.frames_of_pop? hpop
            rw [CallStack.depth_eq_length, CallStack.depth_eq_length, hframes, List.length_append]
            exact Nat.le_trans (Nat.le_add_right _ _) (Nat.le_max_left _ _)

namespace Assembly

variable {σ : Type}

/-! ## Steps -/

/-- **One step of a linear run,** given the block that comes next, if one is left. -/
def linearAdvance (limits : Limits) (executor : Executor σ) (next : Option Block)
    (state : MachineState) (x : σ) : Progress σ :=
  match next with
  | none => .halted state x
  | some block =>
      let state := state.tick
      match limits.exceeded? state.steps with
      | some limit => .failed (.stepLimit limit) state x
      | none =>
          let view := linearView block.number
          let (turn, x) := executor x block view
          let state := state.visit block.number
          match linearError? block.number (view.effect turn.operations) turn.fault with
          | some error => .failed error state x
          | none => .next state x

lemma straight_eq (limits : Limits) (executor : Executor σ) (blocks : List Block)
    (state : MachineState) (x : σ) :
    straight limits executor blocks state x =
      match linearAdvance limits executor blocks.head? state x with
      | .next s y => straight limits executor blocks.tail s y
      | .halted s y => ⟨none, s, y⟩
      | .failed e s y => ⟨some e, s, y⟩ := by
  cases blocks with
  | nil => rfl
  | cons block rest =>
      simp only [straight, linearAdvance, List.head?_cons, List.tail_cons]
      cases limits.exceeded? state.tick.steps with
      | some limit => rfl
      | none =>
          simp only
          cases linearError? block.number ((linearView block.number).effect
            (executor x block (linearView block.number)).1.operations)
            (executor x block (linearView block.number)).1.fault <;> rfl

section

variable (assembly : Assembly) (limits : Limits) (executor : Executor σ)

/-- **Step `n` of a run** from the given state. -/
def advanceAt (n : Nat) (state : MachineState) (x : σ) : Progress σ :=
  match assembly.mode with
  | .linear => linearAdvance limits executor assembly.blocks[n]? state x
  | .dispatch => assembly.advance limits executor state x

/-- Where the program counter stands at the start; a linear run has no use for it. -/
def startPlace : Destination :=
  match assembly.mode with
  | .linear => .halt
  | .dispatch => .ofSuccessor assembly.entry?

/-- **The heads of a run** in either mode, numbered from zero. -/
def headAt? (x : σ) : Nat → Option (MachineState × σ)
  | 0 => some (.start assembly.startPlace, x)
  | n + 1 =>
      (headAt? x n).bind fun head => (assembly.advanceAt limits executor n head.1 head.2).next?

/-- **The program has not halted** after `n` steps: blocks remain, or the program counter stands at
a line. -/
def Unfinished (n : Nat) (state : MachineState) : Prop :=
  match assembly.mode with
  | .linear => n < assembly.blocks.size
  | .dispatch => state.pc ≠ .halt

/-- **A run ends at a head.** -/
def EndsAt (x : σ) (n : Nat) (ended : Ended σ) : Prop :=
  ∃ state y, assembly.headAt? limits executor x n = some (state, y) ∧
    (assembly.advanceAt limits executor n state y).ended? = some ended

/-- **All that a step can lead to.**  An executed block counts one step and one line; it opens a
call only below the limit, and if it fails, its open calls are those from before. -/
inductive StepsTo (n : Nat) (state : MachineState) (x : σ) : Progress σ → Prop where
  | halted (h : ¬ assembly.Unfinished n state) : StepsTo n state x (.halted state x)
  | exceeded {limit : Nat} (h : assembly.Unfinished n state)
      (hlimit : limits.exceeded? (state.steps + 1) = some limit) :
      StepsTo n state x (.failed (.stepLimit limit) state.tick x)
  | unlocated {line : LineNumber} (hmode : assembly.mode = .dispatch)
      (hpc : state.pc = .line line) (hwithin : limits.exceeded? (state.steps + 1) = none)
      (hline : assembly.locate? line = none) :
      StepsTo n state x (.failed (.unknownLine (state.visited.back?.getD line) line) state.tick x)
  | goes {line : LineNumber} {next : MachineState} {y : σ} (hline : line ∈ assembly.numbers)
      (hwithin : limits.exceeded? (state.steps + 1) = none)
      (hsteps : next.steps = state.steps + 1) (hvisited : next.visited = state.visited.push line)
      (hdepth : next.registers.stack.depth ≤ max state.registers.stack.depth limits.depth) :
      StepsTo n state x (.next next y)
  | fails {line : LineNumber} {error : MachineError} {left : MachineState} {y : σ}
      (hline : line ∈ assembly.numbers) (hwithin : limits.exceeded? (state.steps + 1) = none)
      (hvisited : left.visited = state.visited.push line)
      (hstack : left.registers.stack = state.registers.stack)
      (hlimit : ∀ limit, error ≠ .stepLimit limit)
      (hknown : ∀ source target, error ≠ .unknownLine source target)
      (hdepth : ∀ caller limit, error = .callDepth caller limit →
        limit = limits.depth ∧ limits.depth ≤ state.registers.stack.depth) :
      StepsTo n state x (.failed error left y)

end

variable {assembly : Assembly} {limits : Limits} {executor : Executor σ} {x y z : σ} {n : Nat}
  {state next : MachineState}

lemma linearError?_cases {line : LineNumber} {effect : Effect} {fault : Option String}
    {error : MachineError} (h : linearError? line effect fault = some error) :
    (∃ operation, error = .needsDispatch line operation) ∨
    (∃ message, error = .unhandledFault line message) ∨ error = .unbalancedReturn line := by
  simp only [linearError?] at h
  split at h
  · cases h
    exact Or.inl ⟨_, rfl⟩
  · cases h
    exact Or.inr (Or.inl ⟨_, rfl⟩)
  · cases h
    exact Or.inr (Or.inr rfl)
  · cases h

lemma stepsTo_linearAdvance (hmode : assembly.mode = .linear) (n : Nat) (state : MachineState)
    (x : σ) :
    assembly.StepsTo limits n state x
      (linearAdvance limits executor assembly.blocks[n]? state x) := by
  cases hblock : assembly.blocks[n]? with
  | none =>
      refine .halted ?_
      simp only [Unfinished, hmode, Nat.not_lt]
      exact Array.getElem?_eq_none_iff.mp hblock
  | some block =>
      have hunfinished : assembly.Unfinished n state := by
        simp only [Unfinished, hmode]
        exact (Array.getElem?_eq_some_iff.mp hblock).1
      have hline : block.number ∈ assembly.numbers := number_mem (Array.mem_of_getElem? hblock)
      simp only [linearAdvance]
      cases hlimit : limits.exceeded? state.tick.steps with
      | some limit => exact .exceeded hunfinished hlimit
      | none =>
          simp only
          split
          · next error herror =>
              refine .fails hline hlimit rfl rfl ?_ ?_ ?_
              all_goals
                rcases linearError?_cases herror with ⟨operation, rfl⟩ | ⟨message, rfl⟩ | rfl <;>
                  simp
          · exact .goes hline hlimit rfl rfl (Nat.le_max_left _ _)

lemma stepsTo_advance (hmode : assembly.mode = .dispatch) (n : Nat) (state : MachineState) (x : σ) :
    assembly.StepsTo limits n state x (assembly.advance limits executor state x) := by
  cases hpc : state.pc with
  | halt =>
      rw [advance_of_halt hpc]
      exact .halted (by simp [Unfinished, hmode, hpc])
  | line line =>
      have hunfinished : assembly.Unfinished n state := by simp [Unfinished, hmode, hpc]
      cases hlimit : limits.exceeded? (state.steps + 1) with
      | some limit =>
          rw [advance_of_exceeded hpc hlimit]
          exact .exceeded hunfinished hlimit
      | none =>
          cases hlocate : assembly.locate? line with
          | none =>
              rw [advance_of_unlocated hpc hlimit hlocate]
              exact .unlocated hmode hpc hlimit hlocate
          | some found =>
              have hexecutes : assembly.Executes limits executor state x line found.1 found.2 _ _ :=
                ⟨hpc, hlimit, hlocate, rfl⟩
              obtain ⟨hblock, hnumber, -⟩ := locate?_eq_some hexecutes.located
              have hline : line ∈ assembly.numbers := by
                rw [← hnumber]
                exact number_mem hblock
              rw [hexecutes.advance_eq]
              split
              · next hsettle =>
                  have hdepth := MachineState.depth_of_settle hsettle
                  exact .goes hline hlimit (settle_steps hsettle) (visited_settle hsettle) hdepth
              · next error hsettle =>
                  refine .fails hline hlimit rfl rfl ?_ ?_ ?_
                  all_goals
                    rcases MachineState.settle_error hsettle with ⟨message, -, -, rfl⟩ |
                      ⟨-, -, -, rfl⟩ | ⟨-, -, hdepth, rfl⟩
                  all_goals simp
                  exact hdepth

/-- **Every step is one of these.** -/
theorem stepsTo_advanceAt (assembly : Assembly) (limits : Limits) (executor : Executor σ) (n : Nat)
    (state : MachineState) (x : σ) :
    assembly.StepsTo limits n state x (assembly.advanceAt limits executor n state x) := by
  cases hmode : assembly.mode with
  | linear =>
      simp only [advanceAt, hmode]
      exact stepsTo_linearAdvance hmode n state x
  | dispatch =>
      simp only [advanceAt, hmode]
      exact stepsTo_advance hmode n state x

/-! ## Heads -/

lemma headAt?_succ_iff :
    assembly.headAt? limits executor x (n + 1) = some (next, z) ↔
      ∃ state y, assembly.headAt? limits executor x n = some (state, y) ∧
        assembly.advanceAt limits executor n state y = .next next z := by
  simp only [headAt?, Option.bind_eq_some_iff, Prod.exists, Progress.next?_eq_some_iff]

lemma headAt?_eq_head? (hmode : assembly.mode = .dispatch) (x : σ) (n : Nat) :
    assembly.headAt? limits executor x n = assembly.head? limits executor x n := by
  induction n with
  | zero => simp only [headAt?, startPlace, hmode, head?, headFrom?]
  | succ n ih => simp only [headAt?, ih, advanceAt, hmode, head?, headFrom?]

/-- **What every step keeps holds at every head,** where the number of the step may enter. -/
theorem headAt?_induction {P : Nat → MachineState → Prop}
    (hstart : P 0 (.start assembly.startPlace))
    (hstep : ∀ n state y next z, P n state →
      assembly.advanceAt limits executor n state y = .next next z → P (n + 1) next)
    (h : assembly.headAt? limits executor x n = some (state, y)) : P n state := by
  induction n generalizing state y with
  | zero =>
      cases h
      exact hstart
  | succ n ih =>
      obtain ⟨before, w, hbefore, hadvance⟩ := headAt?_succ_iff.mp h
      exact hstep n before w state y (ih hbefore) hadvance

lemma headAt?_of_le {m : Nat} (hle : m ≤ n)
    (h : assembly.headAt? limits executor x n = some (state, y)) :
    ∃ earlier w, assembly.headAt? limits executor x m = some (earlier, w) := by
  induction n generalizing state y with
  | zero =>
      obtain rfl : m = 0 := by omega
      exact ⟨state, y, h⟩
  | succ n ih =>
      rcases Nat.lt_or_eq_of_le hle with hlt | rfl
      · obtain ⟨before, w, hbefore, -⟩ := headAt?_succ_iff.mp h
        exact ih (by omega) hbefore
      · exact ⟨state, y, h⟩

/-! ## Ends -/

/-- After the head where a run ends there is no other. -/
lemma EndsAt.le_of_headAt? {ended : Ended σ} {m : Nat}
    (h : assembly.EndsAt limits executor x n ended)
    (hhead : assembly.headAt? limits executor x m = some (state, y)) : m ≤ n := by
  obtain ⟨last, w, hlast, hended⟩ := h
  by_contra hlater
  obtain ⟨next, z, hnext⟩ := headAt?_of_le (Nat.lt_of_not_le hlater) hhead
  obtain ⟨before, v, hbefore, hadvance⟩ := headAt?_succ_iff.mp hnext
  rw [hlast] at hbefore
  cases hbefore
  rw [hadvance] at hended
  cases hended

/-- **A run has one end.** -/
theorem EndsAt.unique {ended other : Ended σ} {m : Nat}
    (h : assembly.EndsAt limits executor x n ended)
    (hother : assembly.EndsAt limits executor x m other) : n = m ∧ ended = other := by
  obtain ⟨s, w, hs, hended⟩ := h
  obtain ⟨t, v, ht, hends⟩ := hother
  obtain rfl : n = m := Nat.le_antisymm
    (EndsAt.le_of_headAt? ⟨t, v, ht, hends⟩ hs) (EndsAt.le_of_headAt? ⟨s, w, hs, hended⟩ ht)
  rw [hs] at ht
  cases ht
  rw [hended] at hends
  cases hends
  exact ⟨rfl, rfl⟩

/-- The end of a linear run, from the blocks still to come. -/
lemma exists_endsAt_straight (hmode : assembly.mode = .linear) {blocks : List Block}
    (hblocks : assembly.blocks.toList.drop n = blocks)
    (hhead : assembly.headAt? limits executor x n = some (state, y)) :
    ∃ m, assembly.EndsAt limits executor x m (straight limits executor blocks state y) := by
  induction blocks generalizing n state y with
  | nil =>
      refine ⟨n, state, y, hhead, ?_⟩
      have hnone : assembly.blocks[n]? = none := by
        simpa [List.drop_eq_nil_iff] using hblocks
      simp only [advanceAt, hmode, hnone]
      rfl
  | cons block rest ih =>
      obtain ⟨hblock, hrest⟩ := getElem?_of_drop_eq_cons hblocks
      rw [Array.getElem?_toList] at hblock
      have hadvance : assembly.advanceAt limits executor n state y =
          linearAdvance limits executor (some block) state y := by
        simp only [advanceAt, hmode, hblock]
      rw [straight_eq, List.head?_cons, List.tail_cons]
      cases hstep : linearAdvance limits executor (some block) state y with
      | next s w =>
          rw [hstep] at hadvance
          exact ih hrest (headAt?_succ_iff.mpr ⟨state, y, hhead, hadvance⟩)
      | halted s w => exact ⟨n, state, y, hhead, by rw [hadvance, hstep]; rfl⟩
      | failed e s w => exact ⟨n, state, y, hhead, by rw [hadvance, hstep]; rfl⟩

/-- **The report on a run** is the report on its end.  In dispatch mode the end must come while the
run is followed. -/
theorem run?_eq_some_iff {patience : Nat} {report : Report σ} :
    assembly.run? limits executor patience x = some report ↔
      ∃ n ended, (assembly.mode = .dispatch → n < patience) ∧
        assembly.EndsAt limits executor x n ended ∧ report = ended.report assembly.mode := by
  cases hmode : assembly.mode with
  | linear =>
      have hstart : assembly.headAt? limits executor x 0 = some (.start .halt, x) := by
        simp only [headAt?, startPlace, hmode]
      obtain ⟨m, hends⟩ := exists_endsAt_straight hmode List.drop_zero hstart
      simp only [run?, hmode, Option.some.injEq]
      constructor
      · intro h
        exact ⟨m, _, by simp, hends, h.symm⟩
      · rintro ⟨n, ended, -, hended, rfl⟩
        rw [(hends.unique hended).2]
  | dispatch =>
      simp only [run?_dispatch_eq_some_iff hmode, EndsAt, headAt?_eq_head? hmode, advanceAt, hmode,
        true_imp_iff]
      constructor
      · rintro ⟨n, hn, s, y, ended, hhead, hended, hreport⟩
        exact ⟨n, ended, hn, ⟨s, y, hhead, hended⟩, hreport.symm⟩
      · rintro ⟨n, ended, hn, ⟨s, y, hhead, hended⟩, hreport⟩
        exact ⟨n, hn, s, y, ended, hhead, hended, hreport.symm⟩

lemma exists_endsAt_of_run? {patience : Nat} {report : Report σ}
    (h : assembly.run? limits executor patience x = some report) :
    ∃ n ended, assembly.EndsAt limits executor x n ended ∧
      report = ended.report assembly.mode := by
  obtain ⟨n, ended, -, hrest⟩ := run?_eq_some_iff.mp h
  exact ⟨n, ended, hrest⟩

/-- A run that has come to its end has done so for all greater patience. -/
lemma run?_of_le {patience more : Nat} {report : Report σ}
    (h : assembly.run? limits executor patience x = some report) (hle : patience ≤ more) :
    assembly.run? limits executor more x = some report := by
  obtain ⟨n, ended, hn, hrest⟩ := run?_eq_some_iff.mp h
  exact run?_eq_some_iff.mpr ⟨n, ended, fun hmode => Nat.lt_of_lt_of_le (hn hmode) hle, hrest⟩

end Assembly

end NumberedProse
