import Mathlib.Tactic.Common
import NumberedProse.Proofs.LoopHeads

/-!
# Turns by number

A run is a sequence of turns: step `n` executes a block from head `n`, and what the block did is its
turn.  `Assembly.turnAt?` numbers them, so that a fact about the history of a run is a fact about
smaller numbers.

**The lines visited are the lines of the turns.**  Step `i` records the line it executes and nothing
else does, so place `i` of the record belongs to turn `i` (`Visits.turnAt?`), whether the run is
looked at on its way or when it has ended.

**What a turn does to the open calls.**  Only its last transfer counts, and only if it did not fail
(`Turn.transfer?`).  `Executes.moves_of_next` says where control goes and which calls stay open, for
every executor.

**A return takes what the stack holds.**  It fails if no call is open and closes the latest one
otherwise (`Executes.returnFailsAt`, `Executes.returnsAt`).
-/

namespace NumberedProse

/-! ## The transfer of a turn -/

/-- The transfer that an operation asks for. -/
def Operation.transfer? : Operation → Option Transfer
  | jump target => some (.jump target)
  | call target => some (.call target)
  | ret => some .ret
  | setHandler _ => none

/-- **The transfer that a turn makes:** the last one it asked for, unless it failed. -/
def Turn.transfer? (turn : Turn) : Option Transfer :=
  match turn.fault with
  | none => (turn.operations.filterMap Operation.transfer?).getLast?
  | some _ => none

/-- **The last write counts:** what a fold leaves in a field is the last value written to it, or
what was there before. -/
lemma foldl_last_write {α β γ : Type} {step : β → α → β} {field : β → Option γ}
    {write : α → Option γ} (hstep : ∀ b a, field (step b a) = (write a).or (field b))
    (items : List α) (b : β) :
    field (items.foldl step b) = (items.filterMap write).getLast?.or (field b) := by
  induction items generalizing b with
  | nil => rfl
  | cons a rest ih =>
      rw [List.foldl_cons, ih, hstep]
      cases hwrite : write a with
      | none => simp [hwrite]
      | some value =>
          simp only [List.filterMap_cons_some hwrite, List.getLast?_cons]
          cases (rest.filterMap write).getLast? <;> rfl

lemma foldl_perform_transfer (operations : List Operation) (effect : Effect) :
    (operations.foldl (Effect.perform .dispatch) effect).transfer =
      (operations.filterMap Operation.transfer?).getLast?.or effect.transfer := by
  refine foldl_last_write (fun effect operation => ?_) operations effect
  cases operation <;> rfl

lemma MachineState.effect_transfer (state : MachineState) (line : LineNumber) {turn : Turn}
    (hfault : turn.fault = none) :
    ((state.view line).effect turn.operations).transfer = turn.transfer? := by
  have hfold := foldl_perform_transfer turn.operations ⟨none, state.registers.handler, none⟩
  rw [Option.or_none] at hfold
  simp only [Turn.transfer?, hfault]
  exact hfold

lemma Turn.fault_eq_none {turn : Turn} {transfer : Transfer} (h : turn.transfer? = some transfer) :
    turn.fault = none := by
  cases hfault : turn.fault with
  | none => rfl
  | some message => simp [transfer?, hfault] at h

/-! ## Turns -/

/-- The lines a run has executed, whether it failed or not. -/
def Report.visited {σ : Type} (report : Report σ) : List LineNumber :=
  match report.outcome with
  | .ok trace => trace.visited
  | .error failure => failure.visited

namespace Assembly

section

variable {σ : Type} (assembly : Assembly) (limits : Limits) (executor : Executor σ) (x : σ)

/-- **The turn of a step:** the line it executes and what the block of that line does.  There is
none if the run does not get to that head, or ends there without executing a block. -/
def turnAt? (n : Nat) : Option (LineNumber × Turn) :=
  (assembly.head? limits executor x n).bind fun (state, y) =>
    match state.pc with
    | .halt => none
    | .line line =>
        match limits.exceeded? (state.steps + 1), assembly.locate? line with
        | none, some (block, _) => some (line, (executor y block (state.view line)).1)
        | _, _ => none

/-- **The lines that a run has visited,** up to one of its heads or to its end. -/
def Visits (visited : List LineNumber) : Prop :=
  (∃ n head y, assembly.head? limits executor x n = some (head, y) ∧
    visited = head.visited.toList) ∨
  ∃ patience report, assembly.run? limits executor patience x = some report ∧
    visited = report.visited

/-- The step from a head raises a fault. -/
def FaultAt (n : Nat) : Prop :=
  ∃ head y line block successor turn z,
    assembly.head? limits executor x n = some (head, y) ∧
    assembly.Executes limits executor head y line block successor turn z ∧ turn.fault ≠ none

/-- The number of calls open at a head. -/
def depthAt? (n : Nat) : Option Nat :=
  (assembly.head? limits executor x n).map fun head => head.1.registers.stack.depth

/-- **A return fails at a head:** no call is open, and the run ends there as unbalanced. -/
def ReturnFailsAt (line : LineNumber) (n : Nat) : Prop :=
  (∃ head y, assembly.head? limits executor x n = some (head, y) ∧
    head.registers.stack.frames = []) ∧
  ∀ patience, n < patience → ∃ report failure,
    assembly.run? limits executor patience x = some report ∧ report.outcome = .error failure ∧
      failure.error = .unbalancedReturn line ∧ failure.frames = []

/-- **A return succeeds at a head:** it closes the latest call, and control is back where that was
made. -/
def ReturnsAt (n : Nat) : Prop :=
  ∃ head y next z, assembly.head? limits executor x n = some (head, y) ∧
    assembly.head? limits executor x (n + 1) = some (next, z) ∧
    head.registers.stack.frames = next.registers.stack.frames ++ [next.pc]

end

variable {σ : Type} {assembly : Assembly} {limits : Limits} {executor : Executor σ} {x y z : σ}
  {n : Nat} {head next : MachineState} {line : LineNumber} {block : Block}
  {successor : Destination} {turn : Turn}

/-- **A turn is a block that is executed from a head.** -/
theorem turnAt?_eq_some_iff :
    assembly.turnAt? limits executor x n = some (line, turn) ↔
      ∃ head y block successor z, assembly.head? limits executor x n = some (head, y) ∧
        assembly.Executes limits executor head y line block successor turn z := by
  constructor
  · intro h
    obtain ⟨⟨head, y⟩, hhead, hturn⟩ := Option.bind_eq_some_iff.mp h
    simp only at hturn
    split at hturn
    · cases hturn
    · next a hpc =>
        split at hturn
        · next block successor hwithin hlocated =>
            cases hturn
            exact ⟨head, y, block, successor, _, hhead, hpc, hwithin, hlocated, rfl⟩
        · cases hturn
  · rintro ⟨head, y, block, successor, z, hhead, hexecutes⟩
    simp only [turnAt?, hhead, Option.bind_some, hexecutes.pc, hexecutes.within, hexecutes.located,
      hexecutes.turn]

lemma Executes.turnAt? (hhead : assembly.head? limits executor x n = some (head, y))
    (h : assembly.Executes limits executor head y line block successor turn z) :
    assembly.turnAt? limits executor x n = some (line, turn) :=
  turnAt?_eq_some_iff.mpr ⟨head, y, block, successor, z, hhead, h⟩

lemma exists_executes_of_turnAt? (hhead : assembly.head? limits executor x n = some (head, y))
    (h : assembly.turnAt? limits executor x n = some (line, turn)) :
    ∃ block successor z, assembly.Executes limits executor head y line block successor turn z := by
  obtain ⟨s, w, block, successor, z, hs, hexecutes⟩ := turnAt?_eq_some_iff.mp h
  rw [hhead] at hs
  cases hs
  exact ⟨block, successor, z, hexecutes⟩

lemma depthAt?_eq_some (h : assembly.head? limits executor x n = some (head, y)) :
    assembly.depthAt? limits executor x n = some head.registers.stack.depth := by
  rw [depthAt?, h]
  rfl

/-- A run that gets to a head has been at every earlier one. -/
lemma exists_head?_of_le {m : Nat} (hle : m ≤ n)
    (h : assembly.head? limits executor x n = some (head, y)) :
    ∃ earlier z, assembly.head? limits executor x m = some (earlier, z) := by
  induction n generalizing head y with
  | zero =>
      obtain rfl : m = 0 := by omega
      exact ⟨head, y, h⟩
  | succ n ih =>
      rcases Nat.lt_or_eq_of_le hle with hlt | rfl
      · obtain ⟨before, z, hbefore, -⟩ := headFrom?_succ_iff.mp h
        exact ih (by omega) hbefore
      · exact ⟨head, y, h⟩

/-! ## The lines visited -/

lemma visited_report (ended : Ended σ) (mode : Mode) :
    (ended.report mode).visited = ended.state.visited.toList := by
  simp only [Report.visited, Ended.report]
  cases ended.error <;> rfl

lemma visited_settle {state : MachineState} {transfer : Option Transfer} {fault : Option String}
    (h : state.settle limits line successor transfer fault = .ok next) :
    next.visited = state.visited :=
  (MachineState.settle_records h).1

/-- The record holds the lines of the first `n` turns, each in its place. -/
structure RecordsTurns (assembly : Assembly) (limits : Limits) (executor : Executor σ) (x : σ)
    (visited : Array LineNumber) (n : Nat) : Prop where
  size : visited.size = n
  turn : ∀ i a, visited[i]? = some a →
    ∃ turn, assembly.turnAt? limits executor x i = some (a, turn)

lemma RecordsTurns.push {visited : Array LineNumber}
    (h : assembly.RecordsTurns limits executor x visited n)
    (hturn : assembly.turnAt? limits executor x n = some (line, turn)) :
    assembly.RecordsTurns limits executor x (visited.push line) (n + 1) := by
  refine ⟨by rw [Array.size_push, h.size], ?_⟩
  intro i a hi
  rw [Array.getElem?_push] at hi
  split at hi
  · next hlast =>
      cases hi
      rw [hlast, h.size]
      exact ⟨turn, hturn⟩
  · exact h.turn i a hi

lemma recordsTurns_head? (h : assembly.head? limits executor x n = some (head, y)) :
    assembly.RecordsTurns limits executor x head.visited n := by
  induction n generalizing head y with
  | zero =>
      cases h
      exact ⟨rfl, fun i a hi => by simp [MachineState.start] at hi⟩
  | succ n ih =>
      obtain ⟨before, z, hbefore, hstep⟩ := headFrom?_succ_iff.mp h
      obtain ⟨line, block, successor, turn, w, hexecutes⟩ := exists_executes_of_next hstep
      obtain ⟨rfl, hsettle⟩ := hexecutes.settle_of_next hstep
      have hvisited : head.visited = before.visited.push line := visited_settle hsettle
      rw [hvisited]
      exact (ih hbefore).push (hexecutes.turnAt? hbefore)

/-- When a run ends, the record holds the turns up to its last head, and the turn that ended it if
there was one. -/
lemma exists_recordsTurns_of_ended {ended : Ended σ}
    (hhead : assembly.head? limits executor x n = some (head, y))
    (hended : (assembly.advance limits executor head y).ended? = some ended) :
    ∃ m, assembly.RecordsTurns limits executor x ended.state.visited m := by
  have hrecords := recordsTurns_head? hhead
  rcases advance_cases assembly limits executor head y with
    ⟨-, hhalt⟩ | ⟨limit, hlimit⟩ | ⟨line, -, -, hunknown⟩ |
      ⟨line, block, successor, turn, z, hexecutes⟩
  · rw [hhalt] at hended
    cases hended
    exact ⟨n, hrecords⟩
  · rw [hlimit] at hended
    cases hended
    exact ⟨n, hrecords⟩
  · rw [hunknown] at hended
    cases hended
    exact ⟨n, hrecords⟩
  · obtain ⟨error, rfl, -⟩ := hexecutes.settle_of_ended hended
    exact ⟨n + 1, hrecords.push (hexecutes.turnAt? hhead)⟩

/-- **Place `i` of the lines visited belongs to turn `i`.** -/
theorem Visits.turnAt? {visited : List LineNumber} (hmode : assembly.mode = .dispatch)
    (h : assembly.Visits limits executor x visited) {i : Nat} {a : LineNumber}
    (hi : visited[i]? = some a) :
    ∃ turn, assembly.turnAt? limits executor x i = some (a, turn) := by
  rcases h with ⟨n, head, y, hhead, rfl⟩ | ⟨patience, report, hrun, rfl⟩
  · exact (recordsTurns_head? hhead).turn i a (by simpa using hi)
  · obtain ⟨n, -, head, y, ended, hhead, hended, rfl⟩ := (run?_dispatch_eq_some_iff hmode).mp hrun
    obtain ⟨m, hrecords⟩ := exists_recordsTurns_of_ended hhead hended
    rw [visited_report] at hi
    exact hrecords.turn i a (by simpa using hi)

/-! ## What a turn does to the open calls -/

/-- **Where a turn leads.**  Its transfer is carried out; after a fault control goes to the active
handler and all calls stay open. -/
theorem Executes.moves_of_next
    (h : assembly.Executes limits executor head y line block successor turn z) {w : σ}
    (hnext : assembly.advance limits executor head y = .next next w) :
    (turn.fault = none ∧ Transfer.Moves successor head.registers.stack turn.transfer? next.pc
      next.registers.stack) ∨
    (turn.fault ≠ none ∧ next.registers.stack = head.registers.stack ∧
      ∃ handler, next.registers.handler = some handler ∧ next.pc = .line handler) := by
  obtain ⟨-, hsettle⟩ := h.settle_of_next hnext
  obtain ⟨-, hmoves⟩ := MachineState.settle_ok hsettle
  rcases hmoves with ⟨hfault, hmoves⟩ | hrouted
  · rw [head.effect_transfer line hfault] at hmoves
    exact Or.inl ⟨hfault, hmoves⟩
  · exact Or.inr hrouted

/-! ## Returns -/

/-- A block that returns takes whatever the stack holds. -/
lemma Executes.advance_of_ret
    (h : assembly.Executes limits executor head y line block successor turn z)
    (hret : turn.transfer? = some .ret) :
    assembly.advance limits executor head y =
      match (head.afterTurn line turn).follow limits line successor (some .ret) with
      | .ok next => .next next z
      | .error e => .failed e (head.afterTurn line turn) z := by
  have hfault := Turn.fault_eq_none hret
  rw [h.advance_eq, head.effect_transfer line hfault, hret, hfault]
  rfl

/-- A return that finds no open call fails. -/
lemma Executes.returnFailsAt
    (h : assembly.Executes limits executor head y line block successor turn z)
    (hmode : assembly.mode = .dispatch)
    (hhead : assembly.head? limits executor x n = some (head, y))
    (hret : turn.transfer? = some .ret) (hempty : head.registers.stack.frames = []) :
    assembly.ReturnFailsAt limits executor x line n := by
  have hreturns : head.registers.stack.returns = [] := List.reverse_eq_nil_iff.mp hempty
  have hpop : (head.afterTurn line turn).registers.stack.pop? = none :=
    CallStack.pop?_eq_none_iff.mpr hreturns
  have hended : (assembly.advance limits executor head y).ended? =
      some ⟨some (.unbalancedReturn line), head.afterTurn line turn, z⟩ := by
    simp only [h.advance_of_ret hret, MachineState.follow, Registers.pop?, hpop]
    rfl
  refine ⟨⟨head, y, hhead, hempty⟩, fun patience hpatience => ?_⟩
  have hrun := (run?_dispatch_eq_some_iff hmode).mpr
    ⟨n, hpatience, head, y, _, hhead, hended, rfl⟩
  exact ⟨_, _, hrun, outcome_of_error rfl .dispatch, rfl, hempty⟩

/-- A return that finds an open call succeeds. -/
lemma Executes.returnsAt
    (h : assembly.Executes limits executor head y line block successor turn z)
    (hhead : assembly.head? limits executor x n = some (head, y))
    (hret : turn.transfer? = some .ret) (hopen : head.registers.stack.frames ≠ []) :
    assembly.ReturnsAt limits executor x n := by
  cases hpop : head.registers.stack.pop? with
  | none =>
      rw [CallStack.frames, CallStack.pop?_eq_none_iff.mp hpop] at hopen
      exact absurd List.reverse_nil hopen
  | some popped =>
      obtain ⟨back, rest⟩ := popped
      have hafter : (head.afterTurn line turn).registers.stack.pop? = some (back, rest) := hpop
      have hadvance := h.advance_of_ret hret
      simp only [MachineState.follow, Registers.pop?, hafter] at hadvance
      exact ⟨head, y, _, z, hhead, headFrom?_succ_iff.mpr ⟨head, y, hhead, hadvance⟩,
        CallStack.frames_of_pop? hpop⟩

end Assembly

end NumberedProse
