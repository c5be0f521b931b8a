import Mathlib.Tactic.Common
import NumberedProse.Proofs.RunLimits

/-!
# Runs under wider limits

Limits stop a run and do nothing else.  Under wider limits a run does the same, step by step, up to
the place where the narrower ones stopped it.

**One step.**  No block sees the limits, so from the same head the two steps differ only where the
narrower limits end the run (`Limits.Within.widens_advanceAt`).  Steps are counted before a block
has its turn and open calls after it; so a run that has too many open calls has visited the line
that asked for the last one, and so has the run that goes on.

**The run.**  Every head under the narrower limits is a head under the wider ones, with the same
number (`Limits.Within.headAt?_eq`).  A run that no limit stopped therefore ends the same
(`Limits.Within.endsAt`), and of any other the lines visited are the first ones of the longer run,
which may have no end.
-/

namespace NumberedProse

/-- **Limits that allow no more than others do.**  To have no limit on steps allows the most. -/
structure Limits.Within (limits wider : Limits) : Prop where
  steps : ∀ most, wider.steps = some most → ∃ limit ≤ most, limits.steps = some limit
  depth : limits.depth ≤ wider.depth

/-- The errors by which a limit stops a run. -/
def MachineError.isLimit : MachineError → Bool
  | stepLimit _ | callDepth _ _ => true
  | unbalancedReturn _ | unhandledFault _ _ | unknownLine _ _ | needsDispatch _ _ => false

/-- **A limit stopped the run.** -/
def Report.StoppedByLimit {σ : Type} (report : Report σ) : Prop :=
  ∃ failure, report.outcome = .error failure ∧ failure.error.isLimit = true

variable {σ : Type} {assembly : Assembly} {limits wider : Limits} {executor : Executor σ}
  {x y z : σ} {m n : Nat} {state next : MachineState} {ended : Ended σ}

/-! ## One step -/

namespace Progress

/-- **A step beside the same step under wider limits:** they are equal, or the narrower limits end
the run, and then no line is visited that the other step does not visit. -/
inductive Widens : Progress σ → Progress σ → Prop where
  | same (progress : Progress σ) : Widens progress progress
  | stopped {error : MachineError} {left : MachineState} {x : σ} {wide : Progress σ}
      (hlimit : error.isLimit = true)
      (hvisited : left.visited.toList <+: wide.state.visited.toList) :
      Widens (failed error left x) wide

variable {narrow wide : Progress σ}

lemma state_of_ended? (h : narrow.ended? = some ended) : narrow.state = ended.state := by
  cases narrow with
  | next => cases h
  | halted | failed =>
      cases h
      rfl

lemma Widens.eq_next (h : (Progress.next state y).Widens wide) : wide = .next state y := by
  cases h
  rfl

lemma Widens.ended?_eq (h : narrow.Widens wide) (hended : narrow.ended? = some ended)
    (hlimit : ∀ error, ended.error = some error → error.isLimit = false) :
    wide.ended? = some ended := by
  cases h with
  | same => exact hended
  | @stopped error left x _ herror =>
      cases hended
      rw [hlimit error rfl] at herror
      cases herror

lemma Widens.visited (h : narrow.Widens wide) (hended : narrow.ended? = some ended) :
    ended.state.visited.toList <+: wide.state.visited.toList := by
  cases h with
  | same => rw [state_of_ended? hended]
  | stopped _ hvisited =>
      cases hended
      exact hvisited

end Progress

/-- A step only ever adds to the lines visited. -/
lemma Assembly.StepsTo.visited {progress : Progress σ}
    (h : assembly.StepsTo limits n state x progress) :
    state.visited.toList <+: progress.state.visited.toList := by
  cases h with
  | halted | exceeded | unlocated => exact List.prefix_rfl
  | goes _ _ _ hvisited | fails _ _ hvisited =>
      simp only [Progress.state]
      rw [hvisited, Array.toList_push]
      exact List.prefix_append _ _

namespace Limits.Within

open Assembly

lemma exceeded?_eq_none (h : limits.Within wider) {count : Nat}
    (hwithin : limits.exceeded? count = none) : wider.exceeded? count = none := by
  cases hwide : wider.exceeded? count with
  | none => rfl
  | some most =>
      obtain ⟨hmost, hlt⟩ := exceeded?_eq_some_iff.mp hwide
      obtain ⟨limit, hle, hlimit⟩ := h.steps most hmost
      rw [exceeded?_eq_some_iff.mpr ⟨hlimit, by omega⟩] at hwithin
      cases hwithin

/-- Where control goes after a block is the same, unless a call is one too many. -/
lemma settle_cases (h : limits.Within wider) (state : MachineState) (line : LineNumber)
    (successor : Destination) (transfer : Option Transfer) (fault : Option String) :
    state.settle wider line successor transfer fault =
        state.settle limits line successor transfer fault ∨
      state.settle limits line successor transfer fault =
        .error (.callDepth line limits.depth) := by
  cases fault with
  | some message => exact Or.inl rfl
  | none =>
      rcases transfer with _ | target | target | _
      · exact Or.inl rfl
      · exact Or.inl rfl
      · by_cases hfull : limits.depth ≤ state.registers.stack.depth
        · right
          simp [MachineState.settle, MachineState.follow, hfull]
        · left
          have hroom : ¬ wider.depth ≤ state.registers.stack.depth := by
            have := h.depth
            omega
          simp [MachineState.settle, MachineState.follow, hfull, hroom]
      · exact Or.inl rfl

lemma widens_of_exceeded (limit : Nat)
    (hstop : assembly.advanceAt limits executor n state x =
      .failed (.stepLimit limit) state.tick x) :
    (assembly.advanceAt limits executor n state x).Widens
      (assembly.advanceAt wider executor n state x) := by
  rw [hstop]
  exact .stopped rfl (stepsTo_advanceAt assembly wider executor n state x).visited

lemma linearAdvance_eq (h : limits.Within wider) {block : Block}
    (hwithin : limits.exceeded? (state.steps + 1) = none) :
    linearAdvance wider executor (some block) state x =
      linearAdvance limits executor (some block) state x := by
  have hcount : limits.exceeded? state.tick.steps = none := hwithin
  simp only [linearAdvance, hcount, h.exceeded?_eq_none hcount]

lemma widens_execute (h : limits.Within wider) {line : LineNumber} {block : Block}
    {successor : Destination} {turn : Turn}
    (hexecutes : assembly.Executes limits executor state x line block successor turn y) :
    (assembly.advance limits executor state x).Widens
      (assembly.advance wider executor state x) := by
  have hwide : assembly.Executes wider executor state x line block successor turn y :=
    ⟨hexecutes.pc, h.exceeded?_eq_none hexecutes.within, hexecutes.located, hexecutes.turn⟩
  rw [hexecutes.advance_eq, hwide.advance_eq]
  rcases h.settle_cases (state.afterTurn line turn) line successor
    ((state.view line).effect turn.operations).transfer turn.fault with hsame | hfull
  · rw [hsame]
    exact .same _
  · rw [hfull]
    refine .stopped rfl ?_
    -- The line that asked for the call has been visited, whether the call is made or not.
    split
    · next hsettle =>
        simp only [Progress.state]
        rw [visited_settle hsettle]
    · exact List.prefix_rfl

/-- **Every step widens.** -/
theorem widens_advanceAt (h : limits.Within wider) (assembly : Assembly) (executor : Executor σ)
    (n : Nat) (state : MachineState) (x : σ) :
    (assembly.advanceAt limits executor n state x).Widens
      (assembly.advanceAt wider executor n state x) := by
  cases hmode : assembly.mode with
  | linear =>
      cases hblock : assembly.blocks[n]? with
      | none =>
          simp only [advanceAt, hmode, hblock]
          exact .same _
      | some block =>
          cases hlimit : limits.exceeded? (state.steps + 1) with
          | some limit =>
              refine widens_of_exceeded limit ?_
              have hcount : limits.exceeded? state.tick.steps = some limit := hlimit
              simp only [advanceAt, hmode, hblock, linearAdvance, hcount]
          | none =>
              simp only [advanceAt, hmode, hblock, h.linearAdvance_eq hlimit]
              exact .same _
  | dispatch =>
      cases hpc : state.pc with
      | halt =>
          simp only [advanceAt, hmode, advance_of_halt hpc]
          exact .same _
      | line line =>
          cases hlimit : limits.exceeded? (state.steps + 1) with
          | some limit =>
              refine widens_of_exceeded limit ?_
              simp only [advanceAt, hmode, advance_of_exceeded hpc hlimit]
          | none =>
              simp only [advanceAt, hmode]
              cases hlocate : assembly.locate? line with
              | none =>
                  rw [advance_of_unlocated hpc hlimit hlocate,
                    advance_of_unlocated hpc (h.exceeded?_eq_none hlimit) hlocate]
                  exact .same _
              | some found => exact h.widens_execute ⟨hpc, hlimit, hlocate, rfl⟩

/-! ## The run -/

/-- **Every head is a head under wider limits.** -/
theorem headAt?_eq (h : limits.Within wider)
    (hhead : assembly.headAt? limits executor x n = some (state, y)) :
    assembly.headAt? wider executor x n = some (state, y) := by
  induction n generalizing state y with
  | zero => exact hhead
  | succ n ih =>
      obtain ⟨before, w, hbefore, hadvance⟩ := headAt?_succ_iff.mp hhead
      have hwidens := h.widens_advanceAt assembly executor n before w
      rw [hadvance] at hwidens
      exact headAt?_succ_iff.mpr ⟨before, w, ih hbefore, hwidens.eq_next⟩

/-- **A run that no limit stopped** ends at the same head and in the same way. -/
theorem endsAt (h : limits.Within wider) (hends : assembly.EndsAt limits executor x n ended)
    (hlimit : ∀ error, ended.error = some error → error.isLimit = false) :
    assembly.EndsAt wider executor x n ended := by
  obtain ⟨state, y, hhead, hended⟩ := hends
  have hwidens := h.widens_advanceAt assembly executor n state y
  exact ⟨state, y, h.headAt?_eq hhead, hwidens.ended?_eq hended hlimit⟩

end Limits.Within

namespace Assembly

/-- The lines visited up to a step are the first ones of those visited up to a later step. -/
lemma visited_advanceAt_of_le {later : MachineState} (hle : m ≤ n)
    (hm : assembly.headAt? limits executor x m = some (state, y))
    (hn : assembly.headAt? limits executor x n = some (later, z)) :
    (assembly.advanceAt limits executor m state y).state.visited.toList <+:
      (assembly.advanceAt limits executor n later z).state.visited.toList := by
  induction n generalizing later z with
  | zero =>
      obtain rfl : m = 0 := by omega
      rw [hm] at hn
      cases hn
      exact List.prefix_rfl
  | succ n ih =>
      rcases Nat.lt_or_eq_of_le hle with hlt | rfl
      · obtain ⟨before, w, hbefore, hadvance⟩ := headAt?_succ_iff.mp hn
        have hearlier := ih (by omega) hbefore
        rw [hadvance] at hearlier
        exact hearlier.trans (stepsTo_advanceAt assembly limits executor _ later z).visited
      · rw [hm] at hn
        cases hn
        exact List.prefix_rfl

lemma EndsAt.visited_of_headAt? (h : assembly.EndsAt limits executor x n ended)
    (hhead : assembly.headAt? limits executor x m = some (state, y)) :
    (assembly.advanceAt limits executor m state y).state.visited.toList <+:
      ended.state.visited.toList := by
  have hle := h.le_of_headAt? hhead
  obtain ⟨last, z, hlast, hended⟩ := h
  rw [← Progress.state_of_ended? hended]
  exact visited_advanceAt_of_le hle hhead hlast

/-! ## Reports -/

lemma isLimit_of_not_stoppedByLimit {mode : Mode} (h : ¬ (ended.report mode).StoppedByLimit)
    (error : MachineError) (herror : ended.error = some error) : error.isLimit = false := by
  cases hlimit : error.isLimit with
  | false => rfl
  | true => exact absurd ⟨_, outcome_of_error herror mode, hlimit⟩ h

/-- **Wider limits change nothing but where a run is stopped.**  A run that ends, and not because of
a limit, has the same report under wider limits.  If a limit stops it, the lines it visited are the
first ones that the run under wider limits visits, whether that run ends or not. -/
theorem wider_limits_agree (assembly : Assembly) {limits wider : Limits}
    (hwider : limits.Within wider) (executor : Executor σ) (x : σ) {patience : Nat}
    {report : Report σ} (hrun : assembly.run? limits executor patience x = some report) :
    (¬ report.StoppedByLimit → assembly.run? wider executor patience x = some report) ∧
    (report.StoppedByLimit →
      (∀ more wide, assembly.run? wider executor more x = some wide →
        report.visited <+: wide.visited) ∧
      ((∀ more, assembly.run? wider executor more x = none) →
        ∃ n state y, assembly.headAt? wider executor x n = some (state, y) ∧
          report.visited <+: state.visited.toList)) := by
  obtain ⟨n, ended, hn, hends, rfl⟩ := run?_eq_some_iff.mp hrun
  have ⟨state, y, hhead, hended⟩ := hends
  have hhead' := hwider.headAt?_eq hhead
  have hvisited := (hwider.widens_advanceAt assembly executor n state y).visited hended
  rw [visited_report]
  refine ⟨fun hlimit => ?_, fun _ => ⟨fun more wide hwide => ?_, fun hendless => ?_⟩⟩
  · have hsame := hwider.endsAt hends (isLimit_of_not_stoppedByLimit hlimit)
    exact run?_eq_some_iff.mpr ⟨n, ended, hn, hsame, rfl⟩
  · obtain ⟨k, last, -, hlast, rfl⟩ := run?_eq_some_iff.mp hwide
    rw [visited_report]
    exact hvisited.trans (hlast.visited_of_headAt? hhead')
  · -- The step under the wider limits leads on, since the run has no end.
    cases hstep : assembly.advanceAt wider executor n state y with
    | next after z =>
        rw [hstep] at hvisited
        exact ⟨n + 1, after, z, headAt?_succ_iff.mpr ⟨state, y, hhead', hstep⟩, hvisited⟩
    | halted | failed =>
        have hstop : assembly.EndsAt wider executor x n _ :=
          ⟨state, y, hhead', by rw [hstep]; rfl⟩
        have hsome := run?_eq_some_iff.mpr ⟨n, _, fun _ => Nat.lt_succ_self n, hstop, rfl⟩
        rw [hendless] at hsome
        cases hsome

/-- Two steps are allowed, or any number and five calls: the shorter run is the start of the longer
one.  A run that goes astray in its third step does so under any limits that allow three. -/
theorem wider_limits_agree_recursing :
    Limits.Within ⟨some 2, 3⟩ ⟨none, 5⟩ ∧
      (∃ report wide, fiveBlocks.run? ⟨some 2, 3⟩ recursing 10 0 = some report ∧
        report.StoppedByLimit ∧ fiveBlocks.run? ⟨none, 5⟩ recursing 10 0 = some wide ∧
        wide.StoppedByLimit ∧ report.visited <+: wide.visited) ∧
      Limits.Within ⟨some 3, 0⟩ ⟨some 9, 5⟩ ∧
      ∃ report, fiveBlocks.run? ⟨some 3, 0⟩ straying 10 0 = some report ∧
        ¬ report.StoppedByLimit ∧ fiveBlocks.run? ⟨some 9, 5⟩ straying 10 0 = some report := by
  have hnone : Limits.Within ⟨some 2, 3⟩ ⟨none, 5⟩ := ⟨nofun, by decide⟩
  have hnine : Limits.Within ⟨some 3, 0⟩ ⟨some 9, 5⟩ :=
    ⟨fun most hmost => ⟨3, by cases hmost; decide, rfl⟩, by decide⟩
  have hshort : (fiveBlocks.run? ⟨some 2, 3⟩ recursing 10 0).map Report.outcome =
      some (.error ⟨.stepLimit 2, [10, 10], [.line 20, .line 20]⟩) := by decide +kernel
  have hlong : (fiveBlocks.run? ⟨none, 5⟩ recursing 10 0).map Report.outcome =
      some (.error ⟨.callDepth 10 5, List.replicate 6 10, List.replicate 5 (.line 20)⟩) := by
    decide +kernel
  have hstray : (fiveBlocks.run? ⟨some 3, 0⟩ straying 10 0).map Report.outcome =
      some (.error ⟨.unknownLine 20 35, [10, 20], []⟩) := by decide +kernel
  obtain ⟨short, hshortRun, hshortOutcome⟩ := Option.map_eq_some_iff.mp hshort
  obtain ⟨long, hlongRun, hlongOutcome⟩ := Option.map_eq_some_iff.mp hlong
  obtain ⟨stray, hstrayRun, hstrayOutcome⟩ := Option.map_eq_some_iff.mp hstray
  have hstopped : short.StoppedByLimit := ⟨_, hshortOutcome, rfl⟩
  have hastray : ¬ stray.StoppedByLimit := by
    rintro ⟨failure, hfailure, hlimit⟩
    rw [hstrayOutcome] at hfailure
    cases hfailure
    cases hlimit
  obtain ⟨hlines, -⟩ := (wider_limits_agree fiveBlocks hnone recursing 0 hshortRun).2 hstopped
  exact ⟨hnone, ⟨short, long, hshortRun, hstopped, hlongRun, ⟨_, hlongOutcome, rfl⟩,
    hlines 10 long hlongRun⟩, hnine, stray, hstrayRun, hastray,
    (wider_limits_agree fiveBlocks hnine straying 0 hstrayRun).1 hastray⟩

end Assembly

end NumberedProse
