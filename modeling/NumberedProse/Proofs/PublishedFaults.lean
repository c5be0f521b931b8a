import Mathlib.Tactic.Common
import NumberedProse.Proofs.Compiled
import NumberedProse.Proofs.MatchedReturns

/-!
# Handlers and published faults, by history

A block sees the active error handler and the latest fault that was handed to a handler.  The
machine keeps both in registers and compares the handler before and after each block.  Here both are
read off the history of the run, for every executor.

**The handler.**  It is the target of the latest operation that installed one, in whatever step and
whether or not that step failed (`handlerBefore`).

**The fault.**  A fault is published from the step that raised it until a step ends with another
handler than it began with (`PublishedBefore`).  Installing the same handler again, or another one
and then the same, retires nothing; a step that changes the handler and fails publishes its own
fault.

**The registers remember the history.**  `Remembers` says so of one head.  A step adds its
operations and its fault to the history (`Executes.remembers_succ`), so it holds at all heads.
-/

namespace NumberedProse

/-! ## The latest handler -/

namespace Operation

/-- The handler that an operation installs. -/
def handler? : Operation → Option LineNumber
  | setHandler target => some target
  | jump _ | call _ | ret => none

/-- **The latest handler:** the target of the last operation that installs one. -/
def latestHandler? (operations : List Operation) : Option LineNumber :=
  (operations.filterMap handler?).getLast?

lemma latestHandler?_append (earlier later : List Operation) :
    latestHandler? (earlier ++ later) = (latestHandler? later).or (latestHandler? earlier) := by
  rw [latestHandler?, List.filterMap_append, List.getLast?_append]
  rfl

end Operation

lemma MachineState.effect_handler (state : MachineState) (line : LineNumber)
    (operations : List Operation) :
    ((state.view line).effect operations).handler =
      (Operation.latestHandler? operations).or state.registers.handler := by
  refine foldl_last_write (fun effect operation => ?_) operations
    (⟨none, state.registers.handler, none⟩ : Effect)
  cases operation <;> rfl

namespace Assembly

/-! ## The history of a run -/

section

variable {σ : Type} (assembly : Assembly) (limits : Limits) (executor : Executor σ) (x : σ)

/-- The operations that a step performs, failed or not. -/
def operationsAt (n : Nat) : List Operation :=
  match assembly.turnAt? limits executor x n with
  | some (_, turn) => turn.operations
  | none => []

/-- All operations before a step, in the order in which they were performed. -/
def operationsBefore : Nat → List Operation
  | 0 => []
  | n + 1 => operationsBefore n ++ assembly.operationsAt limits executor x n

/-- **The handler before a step,** by history: the latest one that was installed. -/
def handlerBefore (n : Nat) : Option LineNumber :=
  Operation.latestHandler? (assembly.operationsBefore limits executor x n)

/-- The fault that a step raises. -/
def faultAt? (n : Nat) : Option FaultRecord :=
  (assembly.turnAt? limits executor x n).bind fun (line, turn) => turn.fault.map (.mk line)

/-- **The fault that is published before a step,** by history: the latest one raised, if no step
since then has ended with another handler than it began with. -/
def PublishedBefore (n : Nat) (record : FaultRecord) : Prop :=
  ∃ j < n, assembly.faultAt? limits executor x j = some record ∧
    ∀ k, j < k → k < n → assembly.faultAt? limits executor x k = none ∧
      assembly.handlerBefore limits executor x (k + 1) =
        assembly.handlerBefore limits executor x k

/-- **The registers remember the history** of the first `n` steps. -/
structure Remembers (n : Nat) (state : MachineState) : Prop where
  steps : state.steps = n
  handler : state.registers.handler = assembly.handlerBefore limits executor x n
  fault : ∀ record,
    state.lastFault = some record ↔ assembly.PublishedBefore limits executor x n record

/-- A run ends with an error. -/
def FailsWith (error : MachineError) : Prop :=
  ∃ patience report failure, assembly.run? limits executor patience x = some report ∧
    report.outcome = .error failure ∧ failure.error = error

end

variable {σ : Type} {assembly : Assembly} {limits : Limits} {executor : Executor σ} {x y z : σ}
  {n : Nat} {head next : MachineState} {line : LineNumber} {turn : Turn} {block : Block}
  {successor : Destination}

lemma handlerBefore_succ (h : assembly.turnAt? limits executor x n = some (line, turn)) :
    assembly.handlerBefore limits executor x (n + 1) =
      (Operation.latestHandler? turn.operations).or
        (assembly.handlerBefore limits executor x n) := by
  rw [handlerBefore, operationsBefore, Operation.latestHandler?_append]
  simp only [operationsAt, h]
  rfl

lemma faultAt?_eq (h : assembly.turnAt? limits executor x n = some (line, turn)) :
    assembly.faultAt? limits executor x n = turn.fault.map (.mk line) := by
  rw [faultAt?, h, Option.bind_some]

/-- **One step more of history:** a fault of this step is published, and otherwise the old one stays
unless the handler has changed. -/
lemma publishedBefore_succ_iff {record : FaultRecord} :
    assembly.PublishedBefore limits executor x (n + 1) record ↔
      assembly.faultAt? limits executor x n = some record ∨
      (assembly.faultAt? limits executor x n = none ∧
        assembly.handlerBefore limits executor x (n + 1) =
          assembly.handlerBefore limits executor x n ∧
        assembly.PublishedBefore limits executor x n record) := by
  constructor
  · rintro ⟨j, hj, hfault, hsince⟩
    rcases Nat.lt_or_eq_of_le (Nat.le_of_lt_succ hj) with hlt | rfl
    · obtain ⟨hnone, hsame⟩ := hsince n hlt (Nat.lt_succ_self n)
      exact Or.inr ⟨hnone, hsame, j, hlt, hfault,
        fun k hjk hkn => hsince k hjk (Nat.lt_succ_of_lt hkn)⟩
    · exact Or.inl hfault
  · rintro (hfault | ⟨hnone, hsame, j, hlt, hfault, hsince⟩)
    · exact ⟨n, Nat.lt_succ_self n, hfault, fun k hnk hkn => by omega⟩
    · refine ⟨j, Nat.lt_succ_of_lt hlt, hfault, fun k hjk hkn => ?_⟩
      rcases Nat.lt_or_eq_of_le (Nat.le_of_lt_succ hkn) with hk | rfl
      · exact hsince k hjk hk
      · exact ⟨hnone, hsame⟩

/-! ## The registers remember the history -/

lemma remembers_start :
    assembly.Remembers limits executor x 0 (.start (.ofSuccessor assembly.entry?)) := by
  refine ⟨rfl, rfl, fun record => ⟨fun h => ?_, fun ⟨j, hj, _⟩ => ?_⟩⟩
  · cases h
  · exact absurd hj (Nat.not_lt_zero j)

/-- The handler that a block sees after some of its operations, and leaves after all of them. -/
lemma Remembers.handler_effect (h : assembly.Remembers limits executor x n head)
    (operations : List Operation) :
    ((head.view line).effect operations).handler =
      Operation.latestHandler? (assembly.operationsBefore limits executor x n ++ operations) := by
  rw [head.effect_handler, Operation.latestHandler?_append, h.handler]
  rfl

lemma Remembers.handler_afterTurn (h : assembly.Remembers limits executor x n head)
    (hturn : assembly.turnAt? limits executor x n = some (line, turn)) :
    (head.afterTurn line turn).registers.handler =
      assembly.handlerBefore limits executor x (n + 1) := by
  rw [handlerBefore_succ hturn, ← h.handler]
  exact head.effect_handler line turn.operations

/-- **A step adds to the history what it did.** -/
theorem Executes.remembers_succ
    (h : assembly.Executes limits executor head y line block successor turn z)
    (hhead : assembly.head? limits executor x n = some (head, y))
    (hnext : assembly.advance limits executor head y = .next next z)
    (hremembers : assembly.Remembers limits executor x n head) :
    assembly.Remembers limits executor x (n + 1) next := by
  have hturn := h.turnAt? hhead
  obtain ⟨-, hsettle⟩ := h.settle_of_next hnext
  have hhandler := hremembers.handler_afterTurn hturn
  refine ⟨?_, ?_, fun record => ?_⟩
  · rw [(advance_next_steps hnext).1, hremembers.steps]
  · rw [(MachineState.settle_ok hsettle).1, hhandler]
  · have hretired : (head.afterTurn line turn).lastFault =
        if assembly.handlerBefore limits executor x (n + 1) =
            assembly.handlerBefore limits executor x n then head.lastFault else none := by
      rw [← hhandler, ← hremembers.handler]
      rfl
    rw [(MachineState.settle_records hsettle).2, publishedBefore_succ_iff, faultAt?_eq hturn,
      hretired]
    cases turn.fault with
    | some message => simp
    | none =>
        rw [← hremembers.fault record]
        by_cases hsame : assembly.handlerBefore limits executor x (n + 1) =
            assembly.handlerBefore limits executor x n
        · simp [hsame]
        · simp [hsame]

lemma remembers_head? (hhead : assembly.head? limits executor x n = some (head, y)) :
    assembly.Remembers limits executor x n head := by
  induction n generalizing head y with
  | zero =>
      cases hhead
      exact remembers_start
  | succ n ih =>
      obtain ⟨before, w, hbefore, hstep⟩ := headFrom?_succ_iff.mp hhead
      obtain ⟨line, block, successor, turn, z, hexecutes⟩ := exists_executes_of_next hstep
      obtain ⟨rfl, -⟩ := hexecutes.settle_of_next hstep
      exact hexecutes.remembers_succ hbefore hstep (ih hbefore)

/-! ## Where a fault leads -/

/-- A step that fails goes to the handler it leaves active, or ends the run. -/
lemma Executes.advance_of_fault
    (h : assembly.Executes limits executor head y line block successor turn z)
    (hhead : assembly.head? limits executor x n = some (head, y)) {message : String}
    (hfault : turn.fault = some message) :
    assembly.advance limits executor head y =
      match assembly.handlerBefore limits executor x (n + 1) with
      | some target => .next { head.afterTurn line turn with
          pc := .line target, lastFault := some ⟨line, message⟩ } z
      | none => .failed (.unhandledFault line message) (head.afterTurn line turn) z := by
  have hhandler := (remembers_head? hhead).handler_afterTurn (h.turnAt? hhead)
  rw [h.advance_eq, hfault]
  simp only [MachineState.settle, MachineState.routeFault, hhandler]
  cases assembly.handlerBefore limits executor x (n + 1) <;> rfl

lemma Executes.resumesAt_iff_of_fault
    (h : assembly.Executes limits executor head y line block successor turn z)
    (hhead : assembly.head? limits executor x n = some (head, y)) (hfault : turn.fault ≠ none)
    (target : LineNumber) :
    assembly.ResumesAt limits executor x n (.line target) ↔
      assembly.handlerBefore limits executor x (n + 1) = some target := by
  obtain ⟨message, hmessage⟩ := Option.ne_none_iff_exists'.mp hfault
  have hadvance := h.advance_of_fault hhead hmessage
  constructor
  · rintro ⟨next, w, hnext, hpc⟩
    rw [advance_of_head? hhead hnext] at hadvance
    split at hadvance
    · next found hfound =>
        cases hadvance
        cases hpc
        exact hfound
    · cases hadvance
  · intro hhandler
    rw [hhandler] at hadvance
    exact ⟨_, z, headFrom?_succ_iff.mpr ⟨head, y, hhead, hadvance⟩, rfl⟩

/-- **Which runs end with an unhandled fault:** those with a step that fails and leaves no handler
active. -/
lemma failsWith_unhandledFault_iff (hmode : assembly.mode = .dispatch) {message : String} :
    assembly.FailsWith limits executor x (.unhandledFault line message) ↔
      ∃ n turn, assembly.turnAt? limits executor x n = some (line, turn) ∧
        turn.fault = some message ∧ assembly.handlerBefore limits executor x (n + 1) = none := by
  constructor
  · rintro ⟨patience, report, failure, hrun, houtcome, herror⟩
    obtain ⟨n, -, head, y, ended, hhead, hended, rfl⟩ := (run?_dispatch_eq_some_iff hmode).mp hrun
    have hcause := error_of_report houtcome
    rw [herror] at hcause
    rcases advance_cases assembly limits executor head y with
      ⟨-, hhalt⟩ | ⟨limit, hlimit⟩ | ⟨missing, -, -, hunknown⟩ |
        ⟨found, block, successor, turn, z, hexecutes⟩
    · rw [hhalt] at hended
      cases hended
      cases hcause
    · rw [hlimit] at hended
      cases hended
      cases hcause
    · rw [hunknown] at hended
      cases hended
      cases hcause
    · obtain ⟨e, rfl, hsettle⟩ := hexecutes.settle_of_ended hended
      cases hcause
      have hturn := hexecutes.turnAt? hhead
      rcases MachineState.settle_error hsettle with ⟨found, hfault, hnone, heq⟩ | ⟨-, -, -, heq⟩ |
        ⟨-, -, -, heq⟩
      · cases heq
        rw [(remembers_head? hhead).handler_afterTurn hturn] at hnone
        exact ⟨n, turn, hturn, hfault, hnone⟩
      · cases heq
      · cases heq
  · rintro ⟨n, turn, hturn, hfault, hnone⟩
    obtain ⟨head, y, block, successor, z, hhead, hexecutes⟩ := turnAt?_eq_some_iff.mp hturn
    have hadvance := hexecutes.advance_of_fault hhead hfault
    rw [hnone] at hadvance
    have hrun := (run?_dispatch_eq_some_iff hmode).mpr
      ⟨n, Nat.lt_succ_self n, head, y, _, hhead, by rw [hadvance]; rfl, rfl⟩
    exact ⟨n + 1, _, _, hrun, outcome_of_error rfl .dispatch, rfl⟩

/-- A run that does not fail halts at a head, and its trace shows the registers there. -/
lemma exists_head?_of_trace (hmode : assembly.mode = .dispatch) {patience : Nat}
    {report : Report σ} {trace : Trace}
    (hrun : assembly.run? limits executor patience x = some report)
    (htrace : report.outcome = .ok trace) :
    ∃ n head y, assembly.head? limits executor x n = some (head, y) ∧ head.pc = .halt ∧
      trace = ⟨.dispatch, head.visited.toList, head.steps, head.registers.handler,
        head.lastFault⟩ := by
  obtain ⟨n, -, head, y, ended, hhead, hended, rfl⟩ := (run?_dispatch_eq_some_iff hmode).mp hrun
  rcases advance_cases assembly limits executor head y with
    ⟨hpc, hhalt⟩ | ⟨limit, hlimit⟩ | ⟨missing, -, -, hunknown⟩ |
      ⟨found, block, successor, turn, z, hexecutes⟩
  · rw [hhalt] at hended
    cases hended
    cases htrace
    exact ⟨n, head, y, hhead, hpc, rfl⟩
  · rw [hlimit] at hended
    cases hended
    cases htrace
  · rw [hunknown] at hended
    cases hended
    cases htrace
  · obtain ⟨e, rfl, -⟩ := hexecutes.settle_of_ended hended
    cases htrace

/-- **Handlers and faults follow the history.**  In every run of every executor:

* at every point of every block, the handler is the target of the latest operation that installed
  one, in this block or before, and the fault that the block sees is the one published by history;
* a block that fails continues at the handler active at its end, and the run ends with an unhandled
  fault exactly if there is none;
* the trace of a run shows the handler and the fault that the whole history gives. -/
theorem faults_follow_history (assembly : Assembly) (hmode : assembly.mode = .dispatch)
    (limits : Limits) (executor : Executor σ) (x : σ) :
    (∀ n head y line block successor turn z,
      assembly.head? limits executor x n = some (head, y) →
      assembly.Executes limits executor head y line block successor turn z →
        (∀ k, ((head.view line).effect (turn.operations.take k)).handler =
          Operation.latestHandler?
            (assembly.operationsBefore limits executor x n ++ turn.operations.take k)) ∧
        (∀ record, (head.view line).fault = some record ↔
          assembly.PublishedBefore limits executor x n record) ∧
        (turn.fault ≠ none → ∀ target, assembly.ResumesAt limits executor x n (.line target) ↔
          assembly.handlerBefore limits executor x (n + 1) = some target)) ∧
    (∀ line message, assembly.FailsWith limits executor x (.unhandledFault line message) ↔
      ∃ n turn, assembly.turnAt? limits executor x n = some (line, turn) ∧
        turn.fault = some message ∧ assembly.handlerBefore limits executor x (n + 1) = none) ∧
    ∀ patience report trace, assembly.run? limits executor patience x = some report →
      report.outcome = .ok trace →
        trace.handler = assembly.handlerBefore limits executor x trace.steps ∧
        ∀ record, trace.lastFault = some record ↔
          assembly.PublishedBefore limits executor x trace.steps record := by
  refine ⟨?_, fun line message => failsWith_unhandledFault_iff hmode, ?_⟩
  · intro n head y line block successor turn z hhead hexecutes
    have hremembers := remembers_head? hhead
    exact ⟨fun k => hremembers.handler_effect _, hremembers.fault,
      hexecutes.resumesAt_iff_of_fault hhead⟩
  · intro patience report trace hrun htrace
    obtain ⟨n, head, y, hhead, -, rfl⟩ := exists_head?_of_trace hmode hrun htrace
    obtain ⟨rfl, hhandler, hfault⟩ := remembers_head? hhead
    exact ⟨hhandler, hfault⟩

/-- An executor that counts its blocks: it installs a handler, installs another and the first again
in a block that fails, installs the same once more, then changes it, and fails at the end. -/
def reinstalling : Executor Nat := fun count _ _ =>
  (match count with
    | 0 => ⟨[.setHandler 40], none⟩
    | 1 => ⟨[.setHandler 30, .setHandler 40], some "no answer"⟩
    | 2 => ⟨[.setHandler 40, .jump 30], none⟩
    | 3 => ⟨[.setHandler 50], none⟩
    | 4 => ⟨[.jump 10], some "no note"⟩
    | _ => ⟨[], none⟩, count + 1)

/-- Step 3 still sees the fault of step 1, step 4 does not, and the fault of step 4 goes to the
handler of step 3 and stays to the end. -/
theorem faults_follow_history_reinstalling :
    fiveBlocks.mode = .dispatch ∧
      (∃ head y, fiveBlocks.head? .standard reinstalling 0 3 = some (head, y) ∧
        (head.view 30).fault = some ⟨20, "no answer"⟩ ∧
        fiveBlocks.PublishedBefore .standard reinstalling 0 3 ⟨20, "no answer"⟩) ∧
      (∃ head y, fiveBlocks.head? .standard reinstalling 0 4 = some (head, y) ∧
        (head.view 40).fault = none ∧
        (∀ record, ¬ fiveBlocks.PublishedBefore .standard reinstalling 0 4 record) ∧
        fiveBlocks.ResumesAt .standard reinstalling 0 4 (.line 50)) ∧
      ∃ report trace, fiveBlocks.run? .standard reinstalling 10 0 = some report ∧
        report.outcome = .ok trace ∧ trace.steps = 6 ∧
        fiveBlocks.PublishedBefore .standard reinstalling 0 6 ⟨40, "no note"⟩ := by
  obtain ⟨hsteps, -, hends⟩ := faults_follow_history fiveBlocks rfl .standard reinstalling 0
  have hthird : fiveBlocks.turnAt? .standard reinstalling 0 3 =
      some (30, ⟨[.setHandler 50], none⟩) := by decide +kernel
  have hfourth : fiveBlocks.turnAt? .standard reinstalling 0 4 =
      some (40, ⟨[.jump 10], some "no note"⟩) := by decide +kernel
  have hseen : (fiveBlocks.head? .standard reinstalling 0 3).any
      (fun head => (head.1.view 30).fault = some ⟨20, "no answer"⟩) = true := by decide +kernel
  have hretired : (fiveBlocks.head? .standard reinstalling 0 4).any
      (fun head => (head.1.view 40).fault = none) = true := by decide +kernel
  have hresumes : (fiveBlocks.head? .standard reinstalling 0 5).any
      (fun head => head.1.pc = .line 50) = true := by decide +kernel
  have hruns : (fiveBlocks.run? .standard reinstalling 10 0).any (fun report =>
      report.outcome.toOption.any fun trace =>
        trace.steps = 6 ∧ trace.lastFault = some ⟨40, "no note"⟩) = true := by decide +kernel
  obtain ⟨head, y, block, successor, z, hhead, hexecutes⟩ := turnAt?_eq_some_iff.mp hthird
  obtain ⟨later, w, block', successor', z', hlater, hexecutes'⟩ := turnAt?_eq_some_iff.mp hfourth
  obtain ⟨⟨last, v⟩, hlast, hpc⟩ := (Option.any_eq_true _ _).mp hresumes
  obtain ⟨report, hreport, htrace⟩ := (Option.any_eq_true _ _).mp hruns
  obtain ⟨trace, houtcome, hshown⟩ := exists_ok_of_any htrace
  obtain ⟨hcount, hpublished⟩ := of_decide_eq_true hshown
  rw [hhead] at hseen
  rw [hlater] at hretired
  have hfault : (head.view 30).fault = some ⟨20, "no answer"⟩ := of_decide_eq_true hseen
  have hnone : (later.view 40).fault = none := of_decide_eq_true hretired
  obtain ⟨-, hthirdFault, -⟩ := hsteps 3 head y 30 block successor _ z hhead hexecutes
  obtain ⟨-, hfourthFault, -⟩ := hsteps 4 later w 40 block' successor' _ z' hlater hexecutes'
  refine ⟨rfl, ⟨head, y, hhead, hfault, (hthirdFault _).mp hfault⟩,
    ⟨later, w, hlater, hnone, fun record hrecord => ?_, last, v, hlast, of_decide_eq_true hpc⟩,
    report, trace, hreport, houtcome, hcount, ?_⟩
  · rw [← hfourthFault record, hnone] at hrecord
    cases hrecord
  · rw [← hcount]
    exact ((hends 10 report trace hreport houtcome).2 _).mp hpublished

end Assembly

end NumberedProse
