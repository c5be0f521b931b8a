import Mathlib.Tactic.Common
import NumberedProse.Proofs.EitherMode
import NumberedProse.Proofs.MatchedReturns

/-!
# What the limits of a run allow

A run is limited in its steps and in the calls that may be open at once.  Programs loop freely, so
the first limit is all that makes a run end; the second bounds the stack at every point.

**The account.**  At head `n` the counter stands at `n`, as many lines have been visited, all of
them block numbers, and neither limit has been passed (`Accounted`).  Every step keeps this
(`StepsTo.accounted`).

**The ends.**  A step is counted before its line is looked up, and the line is visited only after
that.  So the error for too many steps and the one for a missing line leave just the lines of the
completed steps behind, every other error one line more.
-/

namespace NumberedProse

lemma Limits.exceeded?_eq_some_iff {limits : Limits} {count limit : Nat} :
    limits.exceeded? count = some limit ↔ limits.steps = some limit ∧ limit < count := by
  simp only [exceeded?]
  cases limits.steps with
  | none => simp
  | some found =>
      simp only [Option.ite_none_right_eq_some, Option.some.injEq]
      constructor
      · rintro ⟨hlt, rfl⟩
        exact ⟨rfl, hlt⟩
      · rintro ⟨rfl, hlt⟩
        exact ⟨hlt, rfl⟩

namespace Assembly

variable {σ : Type} {assembly : Assembly} {limits : Limits} {executor : Executor σ} {x y z : σ}
  {n : Nat} {state next : MachineState} {ended : Ended σ}

/-! ## The account -/

/-- **The account of the first `n` steps.** -/
structure Accounted (assembly : Assembly) (limits : Limits) (n : Nat) (state : MachineState) :
    Prop where
  steps : state.steps = n
  visited : state.visited.size = n
  numbers : ∀ line ∈ state.visited, line ∈ assembly.numbers
  depth : state.registers.stack.depth ≤ limits.depth
  within : ∀ limit, limits.steps = some limit → n ≤ limit

lemma accounted_start : assembly.Accounted limits 0 (.start assembly.startPlace) := by
  refine ⟨rfl, rfl, ?_, Nat.zero_le _, fun limit _ => Nat.zero_le limit⟩
  simp [MachineState.start]

lemma Accounted.numbers_push {line : LineNumber} (accounted : assembly.Accounted limits n state)
    (hline : line ∈ assembly.numbers) :
    ∀ other ∈ state.visited.push line, other ∈ assembly.numbers := by
  intro other hother
  rcases Array.mem_push.mp hother with hold | rfl
  · exact accounted.numbers other hold
  · exact hline

/-- **Every step keeps the account.** -/
theorem StepsTo.accounted (h : assembly.StepsTo limits n state y (.next next z))
    (accounted : assembly.Accounted limits n state) : assembly.Accounted limits (n + 1) next := by
  cases h with
  | goes hline hwithin hsteps hvisited hdepth =>
      refine ⟨?_, ?_, ?_, ?_, fun limit hlimit => ?_⟩
      · rw [hsteps, accounted.steps]
      · rw [hvisited, Array.size_push, accounted.visited]
      · rw [hvisited]
        exact accounted.numbers_push hline
      · exact Nat.le_trans hdepth (Nat.max_le.mpr ⟨accounted.depth, Nat.le_refl _⟩)
      · rw [← accounted.steps]
        exact Limits.le_of_exceeded?_eq_none hlimit hwithin

/-- **The accounts are right at every head.** -/
theorem accounted_headAt? (h : assembly.headAt? limits executor x n = some (state, y)) :
    assembly.Accounted limits n state := by
  refine headAt?_induction accounted_start (fun n state y next z accounted hadvance => ?_) h
  have hsteps := stepsTo_advanceAt assembly limits executor n state y
  rw [hadvance] at hsteps
  exact hsteps.accounted accounted

/-! ## The ends -/

lemma EndsAt.exists_stepsTo (h : assembly.EndsAt limits executor x n ended) :
    ∃ state y progress, assembly.headAt? limits executor x n = some (state, y) ∧
      assembly.Accounted limits n state ∧ assembly.StepsTo limits n state y progress ∧
      progress.ended? = some ended := by
  obtain ⟨state, y, hhead, hended⟩ := h
  exact ⟨state, y, _, hhead, accounted_headAt? hhead, stepsTo_advanceAt _ _ _ n state y, hended⟩

/-- **However a run ends,** its open calls are within the limit and the lines it visited are block
numbers. -/
theorem EndsAt.bounded (h : assembly.EndsAt limits executor x n ended) :
    ended.state.registers.stack.depth ≤ limits.depth ∧
      ∀ line ∈ ended.state.visited, line ∈ assembly.numbers := by
  obtain ⟨state, y, progress, -, accounted, hsteps, hended⟩ := h.exists_stepsTo
  cases hsteps with
  | goes => cases hended
  | halted | exceeded | unlocated =>
      cases hended
      exact ⟨accounted.depth, accounted.numbers⟩
  | fails hline _ hvisited hstack =>
      cases hended
      simp only
      rw [hstack, hvisited]
      exact ⟨accounted.depth, accounted.numbers_push hline⟩

/-- **A program that halts** has visited one line in each step. -/
theorem EndsAt.of_halted (h : assembly.EndsAt limits executor x n ended)
    (herror : ended.error = none) :
    ended.state.steps = n ∧ ended.state.visited.size = n ∧
      ∀ limit, limits.steps = some limit → n ≤ limit := by
  obtain ⟨state, y, progress, -, accounted, hsteps, hended⟩ := h.exists_stepsTo
  cases hsteps with
  | goes => cases hended
  | halted =>
      cases hended
      exact ⟨accounted.steps, accounted.visited, accounted.within⟩
  | exceeded | unlocated | fails =>
      cases hended
      cases herror

/-- The error for too many steps comes at the head with the number of the limit. -/
lemma EndsAt.of_stepLimit {limit : Nat} (h : assembly.EndsAt limits executor x n ended)
    (herror : ended.error = some (.stepLimit limit)) :
    limits.steps = some limit ∧ n = limit ∧ ended.state.visited.size = limit ∧
      ∃ state y, assembly.headAt? limits executor x n = some (state, y) ∧
        assembly.Unfinished n state := by
  obtain ⟨state, y, progress, hhead, accounted, hsteps, hended⟩ := h.exists_stepsTo
  cases hsteps with
  | goes => cases hended
  | halted | unlocated =>
      cases hended
      cases herror
  | fails _ _ _ _ hother =>
      cases hended
      exact absurd (Option.some.inj herror) (hother limit)
  | exceeded hunfinished hlimit =>
      cases hended
      cases herror
      obtain ⟨hsome, hlt⟩ := Limits.exceeded?_eq_some_iff.mp hlimit
      have hle := accounted.within limit hsome
      rw [accounted.steps] at hlt
      obtain rfl : n = limit := by omega
      exact ⟨hsome, rfl, accounted.visited, state, y, hhead, hunfinished⟩

/-- A program that has not halted when its steps are used up fails. -/
lemma endsAt_of_unfinished {limit : Nat} (hlimit : limits.steps = some limit)
    (hhead : assembly.headAt? limits executor x limit = some (state, y))
    (hunfinished : assembly.Unfinished limit state) :
    assembly.EndsAt limits executor x limit ⟨some (.stepLimit limit), state.tick, y⟩ := by
  refine ⟨state, y, hhead, ?_⟩
  have hexceeded : limits.exceeded? (state.steps + 1) = some limit := by
    refine Limits.exceeded?_eq_some_iff.mpr ⟨hlimit, ?_⟩
    rw [(accounted_headAt? hhead).steps]
    exact Nat.lt_succ_self limit
  have hsteps := stepsTo_advanceAt assembly limits executor limit state y
  generalize assembly.advanceAt limits executor limit state y = progress at hsteps
  -- Of the kinds of steps, only this one goes with a counter beyond the limit.
  cases hsteps with
  | halted hfinished => exact absurd hunfinished hfinished
  | exceeded _ hfound =>
      rw [hexceeded] at hfound
      cases hfound
      rfl
  | unlocated _ _ hwithin | goes _ hwithin | fails _ hwithin =>
      rw [hexceeded] at hwithin
      cases hwithin

/-- **Too many steps:** as many as are allowed have been completed, and the program has not
halted. -/
theorem EndsAt.stepLimit_iff {limit : Nat} (h : assembly.EndsAt limits executor x n ended) :
    ended.error = some (.stepLimit limit) ↔ limits.steps = some limit ∧
      ∃ state y, assembly.headAt? limits executor x limit = some (state, y) ∧
        assembly.Unfinished limit state := by
  constructor
  · intro herror
    obtain ⟨hlimit, rfl, -, hhead⟩ := h.of_stepLimit herror
    exact ⟨hlimit, hhead⟩
  · rintro ⟨hlimit, state, y, hhead, hunfinished⟩
    obtain ⟨-, rfl⟩ := h.unique (endsAt_of_unfinished hlimit hhead hunfinished)
    rfl

/-- **Too many open calls:** there are exactly as many as are allowed. -/
theorem EndsAt.of_callDepth {line : LineNumber} {limit : Nat}
    (h : assembly.EndsAt limits executor x n ended)
    (herror : ended.error = some (.callDepth line limit)) :
    limit = limits.depth ∧ ended.state.registers.stack.frames.length = limits.depth := by
  obtain ⟨hbound, -⟩ := h.bounded
  obtain ⟨state, y, progress, -, -, hsteps, hended⟩ := h.exists_stepsTo
  cases hsteps with
  | goes => cases hended
  | halted | exceeded | unlocated =>
      cases hended
      cases herror
  | fails _ _ _ hstack _ _ hdepth =>
      cases hended
      obtain ⟨hlimit, hfull⟩ := hdepth line limit (Option.some.inj herror)
      rw [← hstack] at hfull
      rw [← CallStack.depth_eq_length]
      exact ⟨hlimit, Nat.le_antisymm hbound hfull⟩

/-- The first step of a run finds its block. -/
lemma Ordered.locate?_of_start (ordered : assembly.Ordered) (hmode : assembly.mode = .dispatch)
    {line : LineNumber} (h : assembly.startPlace = .line line) :
    ∃ found, assembly.locate? line = some found := by
  simp only [startPlace, hmode] at h
  have hentry := mem_numbers_of_entry? (Destination.ofSuccessor_eq_line_iff.mp h)
  obtain ⟨block, successor, hfound⟩ := ordered.exists_locate? hentry
  exact ⟨(block, successor), hfound⟩

/-- **A missing line:** control came from the line visited last, and the missing one is no block
and was not visited. -/
theorem EndsAt.of_unknownLine (ordered : assembly.Ordered) {source target : LineNumber}
    (h : assembly.EndsAt limits executor x n ended)
    (herror : ended.error = some (.unknownLine source target)) :
    ended.state.visited.back? = some source ∧ target ∉ assembly.numbers ∧
      target ∉ ended.state.visited := by
  obtain ⟨-, hnumbers⟩ := h.bounded
  obtain ⟨state, y, progress, hhead, accounted, hsteps, hended⟩ := h.exists_stepsTo
  cases hsteps with
  | goes => cases hended
  | halted | exceeded =>
      cases hended
      cases herror
  | fails _ _ _ _ _ hother =>
      cases hended
      exact absurd (Option.some.inj herror) (hother source target)
  | unlocated hmode hpc _ hline =>
      cases hended
      cases herror
      have htarget : target ∉ assembly.numbers := by
        intro hmem
        obtain ⟨block, successor, hfound⟩ := ordered.exists_locate? hmem
        rw [hline] at hfound
        cases hfound
      refine ⟨?_, htarget, fun hvisited => htarget (hnumbers target hvisited)⟩
      -- A line has been visited before, since the entry is not missing.
      cases hback : state.visited.back? with
      | some last => exact hback
      | none =>
          have hempty : state.visited.size = 0 := by
            simpa [Array.back?_eq_none_iff] using hback
          obtain rfl : n = 0 := by rw [← accounted.visited, hempty]
          cases hhead
          obtain ⟨found, hfound⟩ := ordered.locate?_of_start hmode hpc
          rw [hline] at hfound
          cases hfound

/-! ## Reports -/

lemma trace_of_report {mode : Mode} {trace : Trace}
    (h : (ended.report mode).outcome = .ok trace) :
    ended.error = none ∧ trace.steps = ended.state.steps ∧
      trace.visited = ended.state.visited.toList := by
  simp only [Ended.report] at h
  split at h
  · cases h
  · next herror =>
      cases h
      exact ⟨herror, rfl, rfl⟩

lemma failure_of_report {mode : Mode} {failure : Failure}
    (h : (ended.report mode).outcome = .error failure) :
    ended.error = some failure.error ∧ failure.visited = ended.state.visited.toList ∧
      failure.frames = ended.state.registers.stack.frames := by
  have herror := error_of_report h
  rw [outcome_of_error herror mode] at h
  have hfailure := Except.error.inj h
  exact ⟨herror, (congrArg Failure.visited hfailure).symm, (congrArg Failure.frames hfailure).symm⟩

lemma run?_eq_run (hlimit : limits.steps = some n) {patience : Nat} (h : n < patience) :
    assembly.run? limits executor patience x = some (assembly.run limits executor n hlimit x) :=
  run?_of_le (Option.some_get _).symm h

/-- **The limits of a run.**  A limit on steps ends every run.  At every point the open calls are
within their limit; and a run that ends, for whatever reason, has kept its account. -/
theorem limits_bound_runs (assembly : Assembly) (ordered : assembly.Ordered) (limits : Limits)
    (executor : Executor σ) (x : σ) :
    (∀ limit (hlimit : limits.steps = some limit) patience, limit < patience →
      assembly.run? limits executor patience x =
        some (assembly.run limits executor limit hlimit x)) ∧
    (∀ n state y, assembly.headAt? limits executor x n = some (state, y) →
      state.registers.stack.depth ≤ limits.depth) ∧
    ∀ patience report, assembly.run? limits executor patience x = some report →
      report.registers.stack.depth ≤ limits.depth ∧
      (∀ line ∈ report.visited, line ∈ assembly.numbers) ∧
      (∀ trace, report.outcome = .ok trace → trace.steps = trace.visited.length ∧
        ∀ limit, limits.steps = some limit → trace.steps ≤ limit) ∧
      (∀ limit, (∃ failure, report.outcome = .error failure ∧ failure.error = .stepLimit limit) ↔
        limits.steps = some limit ∧
          ∃ state y, assembly.headAt? limits executor x limit = some (state, y) ∧
            assembly.Unfinished limit state) ∧
      ∀ failure, report.outcome = .error failure →
        (∀ limit, failure.error = .stepLimit limit → failure.visited.length = limit) ∧
        (∀ line limit, failure.error = .callDepth line limit →
          limit = limits.depth ∧ failure.frames.length = limits.depth) ∧
        ∀ source target, failure.error = .unknownLine source target →
          failure.visited.getLast? = some source ∧ target ∉ assembly.numbers ∧
            target ∉ failure.visited := by
  refine ⟨fun limit hlimit patience => run?_eq_run hlimit,
    fun n state y hhead => (accounted_headAt? hhead).depth, fun patience report hrun => ?_⟩
  obtain ⟨n, ended, hends, rfl⟩ := exists_endsAt_of_run? hrun
  obtain ⟨hdepth, hnumbers⟩ := hends.bounded
  refine ⟨hdepth, ?_, ?_, fun limit => ?_, ?_⟩
  · simpa [visited_report] using hnumbers
  · intro trace htrace
    obtain ⟨herror, hsteps, hvisited⟩ := trace_of_report htrace
    obtain ⟨hcount, hsize, hwithin⟩ := hends.of_halted herror
    rw [hsteps, hvisited, hcount, Array.length_toList, hsize]
    exact ⟨rfl, hwithin⟩
  · rw [← hends.stepLimit_iff]
    constructor
    · rintro ⟨failure, hfailure, herror⟩
      rw [error_of_report hfailure, herror]
    · intro herror
      exact ⟨_, outcome_of_error herror assembly.mode, rfl⟩
  · intro failure hfailure
    obtain ⟨herror, hvisited, hframes⟩ := failure_of_report hfailure
    rw [hvisited, hframes]
    refine ⟨fun limit hlimit => ?_, fun line limit hfull => ?_, fun source target hmissing => ?_⟩
    · rw [hlimit] at herror
      obtain ⟨-, -, hsize, -⟩ := hends.of_stepLimit herror
      rw [Array.length_toList, hsize]
    · rw [hfull] at herror
      exact hends.of_callDepth herror
    · rw [hmissing] at herror
      simpa using hends.of_unknownLine ordered herror

/-- An executor whose every block calls line 10. -/
def recursing : Executor Nat := fun count _ _ => (⟨[.call 10], none⟩, count + 1)

/-- An executor that jumps to a line between two blocks after its second block. -/
def straying : Executor Nat := fun count _ _ =>
  (⟨if count = 1 then [.jump 35] else [], none⟩, count + 1)

/-- Three steps are allowed and three calls: the fourth step is too many if steps are limited, and
its call if not.  A line that is missing is told with the line before it. -/
theorem limits_bound_runs_recursing :
    fiveBlocks.Ordered ∧
      (∃ state y, fiveBlocks.headAt? ⟨some 3, 3⟩ recursing 0 3 = some (state, y) ∧
        fiveBlocks.Unfinished 3 state ∧ state.registers.stack.depth ≤ 3) ∧
      (∃ report failure, fiveBlocks.run? ⟨none, 3⟩ recursing 10 0 = some report ∧
        report.outcome = .error failure ∧ failure.error = .callDepth 10 3 ∧
        failure.frames.length = 3) ∧
      ∃ report failure, fiveBlocks.run? ⟨none, 3⟩ straying 10 0 = some report ∧
        report.outcome = .error failure ∧ failure.error = .unknownLine 20 35 ∧
        failure.visited.getLast? = some 20 ∧ 35 ∉ fiveBlocks.numbers := by
  have hordered : fiveBlocks.Ordered := by
    unfold Ordered Numbered.Increasing
    decide
  have hlimited : (fiveBlocks.run? ⟨some 3, 3⟩ recursing 4 0).map Report.outcome =
      some (.error ⟨.stepLimit 3, [10, 10, 10], [.line 20, .line 20, .line 20]⟩) := by
    decide +kernel
  have hdeep : (fiveBlocks.run? ⟨none, 3⟩ recursing 10 0).map Report.outcome =
      some (.error ⟨.callDepth 10 3, [10, 10, 10, 10], [.line 20, .line 20, .line 20]⟩) := by
    decide +kernel
  have hmissing : (fiveBlocks.run? ⟨none, 3⟩ straying 10 0).map Report.outcome =
      some (.error ⟨.unknownLine 20 35, [10, 20], []⟩) := by
    decide +kernel
  obtain ⟨limited, hlimitedRun, hlimitedOutcome⟩ := Option.map_eq_some_iff.mp hlimited
  obtain ⟨deep, hdeepRun, hdeepOutcome⟩ := Option.map_eq_some_iff.mp hdeep
  obtain ⟨stray, hstrayRun, hstrayOutcome⟩ := Option.map_eq_some_iff.mp hmissing
  obtain ⟨-, hheads, hreports⟩ := limits_bound_runs fiveBlocks hordered ⟨some 3, 3⟩ recursing 0
  obtain ⟨-, -, hunlimited⟩ := limits_bound_runs fiveBlocks hordered ⟨none, 3⟩ recursing 0
  obtain ⟨-, -, hstraying⟩ := limits_bound_runs fiveBlocks hordered ⟨none, 3⟩ straying 0
  obtain ⟨-, -, -, hsteps, -⟩ := hreports 4 limited hlimitedRun
  obtain ⟨-, -, -, -, hcalls⟩ := hunlimited 10 deep hdeepRun
  obtain ⟨-, -, -, -, hlines⟩ := hstraying 10 stray hstrayRun
  obtain ⟨-, state, y, hhead, hunfinished⟩ := (hsteps 3).mp ⟨_, hlimitedOutcome, rfl⟩
  obtain ⟨-, hfull, -⟩ := hcalls _ hdeepOutcome
  obtain ⟨-, -, hunknown⟩ := hlines _ hstrayOutcome
  obtain ⟨hlast, hnone, -⟩ := hunknown 20 35 rfl
  exact ⟨hordered, ⟨state, y, hhead, hunfinished, hheads 3 state y hhead⟩,
    ⟨deep, _, hdeepRun, hdeepOutcome, rfl, (hfull 10 3 rfl).2⟩,
    stray, _, hstrayRun, hstrayOutcome, rfl, hlast, hnone⟩

end Assembly

end NumberedProse
