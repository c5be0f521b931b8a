import Mathlib.Data.Set.List
import NumberedProse.Proofs.LineByLine

/-!
# Translating lines at the same time

No line waits for the answer to another, so the jobs of a program may be run in any order and
several at a time.  Their results are put together by the place of the line.

**Pools.**  A `Pool` says what has become of each job, and `Pool.step` what can happen next: a job
starts or finds the switch thrown, an answer comes in, the switch is thrown, or, once a job has
failed, another is given up before it starts.  A schedule is a list of such events.

**Every slot accounts for its line.**  Whatever the schedule, a job that is done holds what the
answer to its own request makes, unless the switch has been thrown (`Pool.Sound`).  So the blocks of
a compilation that succeeds are known before it starts, and the order of the jobs can only decide
between several failures, or between a failure and a cancellation.

**No job blocks another.**  Whatever has happened so far, the rest can be run to a result
(`Analysis.RunsTo.exists_of_run`).

**One line after the other is a schedule too** (`Analysis.exists_schedule`).
-/

namespace NumberedProse

/-- A translator whose answer depends on the request alone. -/
abbrev Answers := Request → Except TranslateError (List String)

/-- What has become of a job. -/
inductive Slot where
  | waiting (request : Request)
  | running (request : Request)
  | done (result : Except CompileError Block)
  /-- Given up before it started. -/
  | skipped
deriving DecidableEq

/-- What can happen while jobs are run. -/
inductive PoolEvent where
  | throwSwitch
  | start (job : Nat)
  | finish (job : Nat)
  | skip (job : Nat)
deriving Repr, DecidableEq

/-- The jobs of a program, by the place of their lines, and the cancel switch. -/
structure Pool where
  slots : List Slot
  switch : CancelSwitch
deriving DecidableEq

namespace Slot

/-- Whether nothing more will happen to the job. -/
def isSettled : Slot → Bool
  | done _ | skipped => true
  | waiting _ | running _ => false

/-- Whether the job was run and failed. -/
def isFailed : Slot → Bool
  | done (.error _) => true
  | _ => false

lemma exists_error {slot : Slot} (h : slot.isFailed = true) : ∃ e, slot = .done (.error e) := by
  cases slot with
  | waiting _ => cases h
  | running _ => cases h
  | skipped => cases h
  | done result =>
      cases result with
      | error e => exact ⟨e, rfl⟩
      | ok block => cases h

end Slot

namespace Pool

variable (answers : Answers)

/-- No job started yet. -/
def ofRequests (requests : List Request) (switch : CancelSwitch) : Pool :=
  ⟨requests.map .waiting, switch⟩

/-- The pool with another slot in a place. -/
def put (pool : Pool) (i : Nat) (slot : Slot) : Pool := { pool with slots := pool.slots.set i slot }

lemma put_middle (before after : List Slot) (old new : Slot) (switch : CancelSwitch) :
    (Pool.mk (before ++ old :: after) switch).put before.length new =
      ⟨before ++ new :: after, switch⟩ := by
  simp [put]

/-- **What an event does,** if it can happen.  A job looks at the switch when it starts, and only
then. -/
def step (pool : Pool) : PoolEvent → Option Pool
  | .throwSwitch => some { pool with switch := pool.switch.throw }
  | .start i =>
      match pool.slots[i]? with
      | some (.waiting request) => some <| pool.put i <|
          if pool.switch.isThrown then .done (.error .cancelled) else .running request
      | _ => none
  | .finish i =>
      match pool.slots[i]? with
      | some (.running request) =>
          some (pool.put i (.done (Analysis.accept request (answers request))))
      | _ => none
  | .skip i =>
      match pool.slots[i]? with
      | some (.waiting _) =>
          if pool.slots.any Slot.isFailed then some (pool.put i .skipped) else none
      | _ => none

/-- **A schedule:** one event after the other. -/
def run (pool : Pool) : List PoolEvent → Option Pool
  | [] => some pool
  | event :: rest => (pool.step answers event).bind fun pool => pool.run rest

lemma run_append {pool pool' : Pool} {events : List PoolEvent}
    (h : pool.run answers events = some pool') (later : List PoolEvent) :
    pool.run answers (events ++ later) = pool'.run answers later := by
  induction events generalizing pool with
  | nil =>
      cases h
      rfl
  | cons event rest ih =>
      obtain ⟨middle, hstep, hrest⟩ := Option.bind_eq_some_iff.mp h
      simp only [List.cons_append, run, hstep, Option.bind_some]
      exact ih hrest

/-- How the slot of one job can change. -/
inductive Moves (pool : Pool) : Slot → Slot → Prop
  | start {request : Request} (h : pool.switch.isThrown = false) :
      Moves pool (.waiting request) (.running request)
  | refuse {request : Request} (h : pool.switch.isThrown = true) :
      Moves pool (.waiting request) (.done (.error .cancelled))
  | finish {request : Request} :
      Moves pool (.running request) (.done (Analysis.accept request (answers request)))
  | skip {request : Request} (h : ∃ slot ∈ pool.slots, slot.isFailed = true) :
      Moves pool (.waiting request) .skipped

variable {answers}

/-- **All that an event can do:** it throws the switch, or it moves one slot. -/
lemma step_cases {pool pool' : Pool} {event : PoolEvent}
    (h : pool.step answers event = some pool') :
    pool' = { pool with switch := pool.switch.throw } ∨
    ∃ i old new, pool.slots[i]? = some old ∧ pool.Moves answers old new ∧
      pool' = pool.put i new := by
  cases event with
  | throwSwitch =>
      cases h
      exact .inl rfl
  | start i =>
      simp only [step] at h
      split at h
      · next request hslot =>
          cases h
          refine .inr ⟨i, _, _, hslot, ?_, rfl⟩
          split
          · next hthrown => exact .refuse hthrown
          · next hopen => exact .start (by simpa using hopen)
      · cases h
  | finish i =>
      simp only [step] at h
      split at h
      · next request hslot =>
          cases h
          exact .inr ⟨i, _, _, hslot, .finish, rfl⟩
      · cases h
  | skip i =>
      simp only [step] at h
      split at h
      · next request hslot =>
          split at h
          · next hfailed =>
              cases h
              exact .inr ⟨i, _, _, hslot, .skip (List.any_eq_true.mp hfailed), rfl⟩
          · cases h
      · cases h

end Pool

/-! ## Every slot accounts for its line -/

lemma CancelSwitch.isThrown_throw {switch : CancelSwitch} (h : switch.isThrown = true) :
    switch.throw.isThrown = true := by
  cases switch with
  | thrown => rfl
  | absent => cases h
  | open_ => cases h

/-- **What a slot may hold** for a request: what the answer to it makes, or a cancellation if the
switch has been thrown. -/
def Slot.Accounts (answers : Answers) (thrown : Bool) (request : Request) : Slot → Prop
  | waiting r | running r => r = request
  | done result => result = Analysis.accept request (answers request) ∨
      result = .error .cancelled ∧ thrown = true
  | skipped => True

namespace Pool

variable {answers : Answers} {requests : List Request} {pool pool' : Pool}

/-- **What every schedule keeps.** -/
structure Sound (answers : Answers) (requests : List Request) (pool : Pool) : Prop where
  length : pool.slots.length = requests.length
  accounts : ∀ (i : Nat) request slot, requests[i]? = some request → pool.slots[i]? = some slot →
    slot.Accounts answers pool.switch.isThrown request
  /-- No job is given up unless another one has failed. -/
  skipped : .skipped ∈ pool.slots → ∃ slot ∈ pool.slots, slot.isFailed = true

lemma sound_ofRequests (answers : Answers) (requests : List Request) (switch : CancelSwitch) :
    Sound answers requests (ofRequests requests switch) where
  length := by simp [ofRequests]
  accounts i request slot hrequest hslot := by
    simp only [ofRequests, List.getElem?_map, hrequest, Option.map_some, Option.some.injEq] at hslot
    rw [← hslot]
    rfl
  skipped h := by simp [ofRequests] at h

lemma Sound.throwSwitch (h : Sound answers requests pool) :
    Sound answers requests { pool with switch := pool.switch.throw } where
  length := h.length
  accounts i request slot hrequest hslot := by
    have haccounts := h.accounts i request slot hrequest hslot
    cases slot with
    | waiting r => exact haccounts
    | running r => exact haccounts
    | skipped => trivial
    | done result =>
        rcases haccounts with hanswer | ⟨hcancelled, hthrown⟩
        · exact .inl hanswer
        · exact .inr ⟨hcancelled, CancelSwitch.isThrown_throw hthrown⟩
  skipped := h.skipped

lemma Moves.accounts {request : Request} {old new : Slot} (hmove : pool.Moves answers old new)
    (hold : old.Accounts answers pool.switch.isThrown request) :
    new.Accounts answers pool.switch.isThrown request := by
  cases hmove with
  | start _ => exact hold
  | refuse hthrown => exact .inr ⟨rfl, hthrown⟩
  | finish => exact .inl (by rw [← hold])
  | skip _ => trivial

lemma Moves.isFailed_eq_false {old new : Slot} (hmove : pool.Moves answers old new) :
    old.isFailed = false := by
  cases hmove <;> rfl

lemma exists_failed_put {i : Nat} {old new : Slot} (hslot : pool.slots[i]? = some old)
    (hmove : pool.Moves answers old new) (h : ∃ slot ∈ pool.slots, slot.isFailed = true) :
    ∃ slot ∈ (pool.put i new).slots, slot.isFailed = true := by
  obtain ⟨slot, hmem, hfailed⟩ := h
  obtain ⟨j, hj⟩ := List.mem_iff_getElem?.mp hmem
  -- A slot that moves has not failed, so the one that has failed is another.
  have hne : i ≠ j := by
    rintro rfl
    rw [hslot, Option.some.injEq] at hj
    rw [← hj, hmove.isFailed_eq_false] at hfailed
    cases hfailed
  refine ⟨slot, List.mem_iff_getElem?.mpr ⟨j, ?_⟩, hfailed⟩
  rw [put, List.getElem?_set_ne hne, hj]

lemma Sound.put (h : Sound answers requests pool) {i : Nat} {old new : Slot}
    (hslot : pool.slots[i]? = some old) (hmove : pool.Moves answers old new) :
    Sound answers requests (pool.put i new) where
  length := by simp [Pool.put, h.length]
  accounts j request slot hrequest hj := by
    simp only [Pool.put, List.getElem?_set] at hj
    split at hj
    · next heq =>
        subst heq
        split at hj
        · cases hj
          exact hmove.accounts (h.accounts i request old hrequest hslot)
        · cases hj
    · exact h.accounts j request slot hrequest hj
  skipped hmem := by
    apply exists_failed_put hslot hmove
    rcases List.mem_or_eq_of_mem_set hmem with hbefore | hnew
    · exact h.skipped hbefore
    · -- The only move to this slot asks for a failure.
      subst hnew
      cases hmove with
      | skip hfailed => exact hfailed

/-- **What one event preserves.** -/
lemma Sound.step (h : Sound answers requests pool) {event : PoolEvent}
    (hstep : pool.step answers event = some pool') : Sound answers requests pool' := by
  rcases step_cases hstep with rfl | ⟨i, old, new, hslot, hmove, rfl⟩
  · exact h.throwSwitch
  · exact h.put hslot hmove

/-- **What a schedule preserves.** -/
theorem Sound.run (h : Sound answers requests pool) {events : List PoolEvent}
    (hrun : pool.run answers events = some pool') : Sound answers requests pool' := by
  induction events generalizing pool with
  | nil =>
      cases hrun
      exact h
  | cons event rest ih =>
      obtain ⟨middle, hstep, hrest⟩ := Option.bind_eq_some_iff.mp hrun
      exact ih (h.step hstep) hrest

/-! ## What the results make together -/

/-- The slots of jobs that all went well. -/
def finished (blocks : List Block) : List Slot := blocks.map fun block => .done (.ok block)

/-- **Blocks that were put together are those that the answers make.** -/
lemma Sound.answers_eq (h : Sound answers requests pool) {blocks : List Block}
    (hblocks : pool.slots = finished blocks) :
    (requests.map fun request => Analysis.accept request (answers request)) =
      blocks.map .ok := by
  have hlength : requests.length = blocks.length := by
    rw [← h.length, hblocks, finished, List.length_map]
  refine List.ext_getElem (by simpa using hlength) fun i hi hi' => ?_
  simp only [List.length_map] at hi hi'
  have haccounts := h.accounts i requests[i] (.done (.ok blocks[i])) (by simp [hi])
    (by simp [hblocks, finished, hi'])
  rcases haccounts with hanswer | ⟨hcancelled, -⟩
  · simp [← hanswer]
  · cases hcancelled

/-- Without a failure nothing is given up, so every job that is settled went well. -/
lemma Sound.exists_finished (h : Sound answers requests pool)
    (hsettled : ∀ slot ∈ pool.slots, slot.isSettled = true)
    (hgood : ∀ slot ∈ pool.slots, slot.isFailed = false) :
    ∃ blocks, pool.slots = finished blocks := by
  have hdone : ∀ slot ∈ pool.slots, ∃ block, Slot.done (.ok block) = slot := by
    intro slot hslot
    have hset := hsettled slot hslot
    have hok := hgood slot hslot
    cases slot with
    | waiting r => cases hset
    | running r => cases hset
    | skipped =>
        obtain ⟨failed, hmem, hfailed⟩ := h.skipped hslot
        rw [hgood failed hmem] at hfailed
        cases hfailed
    | done result =>
        cases result with
        | error e => cases hok
        | ok block => exact ⟨block, rfl⟩
  have hrange : pool.slots ∈ Set.range (List.map fun block => Slot.done (.ok block)) := by
    rw [Set.range_list_map]
    exact hdone
  obtain ⟨blocks, hblocks⟩ := hrange
  exact ⟨blocks, hblocks.symm⟩

/-! ## Every schedule can be brought to an end -/

lemma exists_settled_slot (answers : Answers) (switch : CancelSwitch) (before after : List Slot)
    (slot : Slot) :
    ∃ events new, (mk (before ++ slot :: after) switch).run answers events =
      some ⟨before ++ new :: after, switch⟩ ∧ new.isSettled = true := by
  cases slot with
  | done result => exact ⟨[], .done result, rfl, rfl⟩
  | skipped => exact ⟨[], .skipped, rfl, rfl⟩
  | running request =>
      refine ⟨[.finish before.length], .done (Analysis.accept request (answers request)), ?_, rfl⟩
      simp [run, step, put_middle]
  | waiting request =>
      cases hthrown : switch.isThrown with
      | true =>
          refine ⟨[.start before.length], .done (.error .cancelled), ?_, rfl⟩
          simp [run, step, put_middle, hthrown]
      | false =>
          refine ⟨[.start before.length, .finish before.length],
            .done (Analysis.accept request (answers request)), ?_, rfl⟩
          simp [run, step, put_middle, hthrown]

/-- Jobs never block each other: those that are not settled can be run one after the other. -/
lemma exists_settled (answers : Answers) (switch : CancelSwitch) (before slots : List Slot) :
    ∃ events slots', (mk (before ++ slots) switch).run answers events =
      some ⟨before ++ slots', switch⟩ ∧ ∀ slot ∈ slots', slot.isSettled = true := by
  induction slots generalizing before with
  | nil => exact ⟨[], [], rfl, by simp⟩
  | cons slot rest ih =>
      obtain ⟨events, new, hfirst, hnew⟩ := exists_settled_slot answers switch before rest slot
      obtain ⟨later, slots', hlater, hsettled⟩ := ih (before ++ [new])
      refine ⟨events ++ later, new :: slots', ?_, ?_⟩
      · rw [run_append answers hfirst]
        simpa using hlater
      · simpa [hnew] using hsettled

end Pool

namespace Analysis

/-- **What a pool comes to** once all its jobs are settled: the failure of one of those that failed,
or else the blocks of all of them, after a last look at the switch. -/
inductive Ends (analysis : Analysis) (pool : Pool) (result : Except CompileError Compilation) : Prop
  | failed {e : CompileError} (h : .done (.error e) ∈ pool.slots) (hresult : result = .error e)
  | joined {blocks : List Block} (h : pool.slots = Pool.finished blocks)
      (hresult : result = analysis.conclude blocks pool.switch)

/-- **A compilation by some schedule,** with the pool at its end and its result. -/
structure RunsTo (analysis : Analysis) (answers : Answers) (switch : CancelSwitch) (pool : Pool)
    (result : Except CompileError Compilation) : Prop where
  schedule : ∃ events, (Pool.ofRequests analysis.requests switch).run answers events = some pool
  settled : ∀ slot ∈ pool.slots, slot.isSettled = true
  ends : analysis.Ends pool result

lemma accept_eq_ok_iff {request : Request} {answer : Except TranslateError (List String)} :
    (∃ block, accept request answer = .ok block) ↔ request.fault? answer = none := by
  cases hfault : request.fault? answer with
  | none =>
      obtain ⟨statements, -, haccept⟩ := accept_of_no_fault hfault
      simp [haccept]
  | some error => simp [accept_of_fault hfault]

lemma conclude_eq_ok_iff {analysis : Analysis} {blocks : List Block} {switch : CancelSwitch}
    {c : Compilation} : analysis.conclude blocks switch = .ok c ↔ switch.isThrown = false ∧
      c = ⟨⟨analysis.mode, analysis.context.entries, blocks.toArray⟩, analysis.warnings⟩ := by
  cases hthrown : switch.isThrown <;> simp [conclude, hthrown, eq_comm]

namespace RunsTo

variable {analysis : Analysis} {answers : Answers} {switch : CancelSwitch} {pool : Pool}
  {result : Except CompileError Compilation}

lemma sound (h : analysis.RunsTo answers switch pool result) :
    pool.Sound answers analysis.requests := by
  obtain ⟨events, hrun⟩ := h.schedule
  exact (Pool.sound_ofRequests answers analysis.requests switch).run hrun

/-- **Every schedule can be brought to an end,** and then there is a result. -/
theorem exists_of_run {events : List PoolEvent}
    (hrun : (Pool.ofRequests analysis.requests switch).run answers events = some pool) :
    ∃ later pool' result, pool.run answers later = some pool' ∧
      analysis.RunsTo answers switch pool' result := by
  obtain ⟨later, slots, hrest, hsettled⟩ := Pool.exists_settled answers pool.switch [] pool.slots
  have hlater : pool.run answers later = some ⟨slots, pool.switch⟩ := hrest
  have hschedule := Pool.run_append answers hrun later
  rw [hlater] at hschedule
  have hsound := (Pool.sound_ofRequests answers analysis.requests switch).run hschedule
  have hends : ∃ result, analysis.Ends ⟨slots, pool.switch⟩ result := by
    by_cases hfailed : ∃ slot ∈ slots, slot.isFailed = true
    · obtain ⟨slot, hslot, hfail⟩ := hfailed
      obtain ⟨e, rfl⟩ := Slot.exists_error hfail
      exact ⟨_, .failed hslot rfl⟩
    · obtain ⟨blocks, hblocks⟩ := hsound.exists_finished hsettled (by simpa using hfailed)
      exact ⟨_, .joined hblocks rfl⟩
  obtain ⟨result, hresult⟩ := hends
  exact ⟨later, _, result, hlater, ⟨_, hschedule⟩, hsettled, hresult⟩

/-- **A compilation that succeeds** is made of the blocks that the answers make. -/
lemma of_ok {c : Compilation} (h : analysis.RunsTo answers switch pool (.ok c)) :
    pool.switch.isThrown = false ∧ ∃ blocks, pool.slots = Pool.finished blocks ∧
      (analysis.requests.map fun request => accept request (answers request)) = blocks.map .ok ∧
      c = ⟨⟨analysis.mode, analysis.context.entries, blocks.toArray⟩, analysis.warnings⟩ := by
  cases h.ends with
  | failed _ hresult => cases hresult
  | joined hblocks hresult =>
      obtain ⟨hopen, hc⟩ := conclude_eq_ok_iff.mp hresult.symm
      exact ⟨hopen, _, hblocks, h.sound.answers_eq hblocks, hc⟩

/-- **Without cancellation a failure is that of a line** whose translation fails. -/
lemma of_failed (h : analysis.RunsTo answers switch pool result)
    (hopen : pool.switch.isThrown = false) {e : CompileError}
    (hfailed : .done (.error e) ∈ pool.slots) :
    ∃ (i : Nat) (request : Request) (error : TranslateError),
      analysis.requests[i]? = some request ∧ request.fault? (answers request) = some error ∧
      e = .untranslated request.line.number error := by
  obtain ⟨i, hslot⟩ := List.mem_iff_getElem?.mp hfailed
  obtain ⟨hi, -⟩ := List.getElem?_eq_some_iff.mp hslot
  rw [h.sound.length] at hi
  have hrequest : analysis.requests[i]? = some analysis.requests[i] := by simp [hi]
  rcases h.sound.accounts i _ _ hrequest hslot with hanswer | ⟨-, hthrown⟩
  · refine ⟨i, analysis.requests[i], ?_⟩
    cases hfault : analysis.requests[i].fault? (answers analysis.requests[i]) with
    | none =>
        obtain ⟨block, hblock⟩ := accept_eq_ok_iff.mpr hfault
        rw [hblock] at hanswer
        cases hanswer
    | some error =>
        rw [accept_of_fault hfault, Except.error.injEq] at hanswer
        exact ⟨error, hrequest, rfl, hanswer⟩
  · rw [hopen] at hthrown
    cases hthrown

/-- **Without cancellation a compilation succeeds exactly if every translation does,** in whatever
order. -/
theorem ok_iff (h : analysis.RunsTo answers switch pool result)
    (hopen : pool.switch.isThrown = false) :
    (∃ c, result = .ok c) ↔
      ∀ request ∈ analysis.requests, request.fault? (answers request) = none := by
  constructor
  · rintro ⟨c, rfl⟩ request hrequest
    obtain ⟨-, blocks, -, hanswers, -⟩ := h.of_ok
    have hmem : accept request (answers request) ∈ blocks.map .ok := by
      rw [← hanswers]
      exact List.mem_map_of_mem hrequest
    obtain ⟨block, -, hblock⟩ := List.mem_map.mp hmem
    exact accept_eq_ok_iff.mp ⟨block, hblock.symm⟩
  · intro hgood
    cases h.ends with
    | failed hfailed _ =>
        obtain ⟨i, request, error, hrequest, hfault, -⟩ := h.of_failed hopen hfailed
        rw [hgood request (List.mem_of_getElem? hrequest)] at hfault
        cases hfault
    | joined hblocks hresult => exact ⟨_, by rw [hresult, conclude_eq_ok_iff.mpr ⟨hopen, rfl⟩]⟩

/-- **All orders that succeed make the same compilation.** -/
theorem eq_of_ok {switch' : CancelSwitch} {pool' : Pool} {c c' : Compilation}
    (h : analysis.RunsTo answers switch pool (.ok c))
    (h' : analysis.RunsTo answers switch' pool' (.ok c')) : c' = c := by
  obtain ⟨-, blocks, -, hanswers, rfl⟩ := h.of_ok
  obtain ⟨-, blocks', -, hanswers', rfl⟩ := h'.of_ok
  have hsame : blocks' = blocks := by
    apply List.map_injective_iff.mpr (fun _ _ => Except.ok.inj)
    rw [← hanswers, ← hanswers']
  rw [hsame]

end RunsTo

/-! ## One line after the other -/

section Sequential

variable {σ : Type} {translator : Translator σ} {answers : Answers}

/-- Once a job has failed, all that wait can be given up. -/
lemma exists_skips (switch : CancelSwitch) {before : List Slot}
    (hfailed : ∃ slot ∈ before, slot.isFailed = true) (requests : List Request) :
    ∃ events, (Pool.mk (before ++ requests.map .waiting) switch).run answers events =
      some ⟨before ++ requests.map fun _ => .skipped, switch⟩ := by
  induction requests generalizing before with
  | nil => exact ⟨[], rfl⟩
  | cons request rest ih =>
      obtain ⟨slot, hmem, hslot⟩ := hfailed
      have hskip : (Pool.mk (before ++ .waiting request :: rest.map .waiting) switch).step answers
          (.skip before.length) = some ⟨before ++ .skipped :: rest.map .waiting, switch⟩ := by
        have hany : (before ++ Slot.waiting request :: rest.map Slot.waiting).any Slot.isFailed :=
          List.any_eq_true.mpr ⟨slot, by simp [hmem], hslot⟩
        simp only [Pool.step, hany, Pool.put_middle]
        simp
      have hlater : ∃ slot ∈ before ++ [Slot.skipped], slot.isFailed = true :=
        ⟨slot, by simp [hmem], hslot⟩
      obtain ⟨events, hevents⟩ := ih hlater
      refine ⟨.skip before.length :: events, ?_⟩
      rw [List.map_cons, Pool.run, hskip, Option.bind_some]
      simpa using hevents

lemma exists_given_up (switch : CancelSwitch) (before : List Slot) (e : CompileError)
    (requests : List Request) :
    ∃ events slots, (Pool.mk (before ++ .done (.error e) :: requests.map .waiting) switch).run
        answers events = some ⟨before ++ slots, switch⟩ ∧
      (∀ slot ∈ slots, slot.isSettled = true) ∧ .done (.error e) ∈ slots := by
  have hfailed : ∃ slot ∈ before ++ [Slot.done (.error e)], slot.isFailed = true :=
    ⟨.done (.error e), by simp, rfl⟩
  obtain ⟨events, hevents⟩ := exists_skips switch hfailed requests
  refine ⟨events, .done (.error e) :: requests.map fun _ => .skipped, by simpa using hevents, ?_,
    List.mem_cons_self⟩
  intro slot hslot
  rcases List.mem_cons.mp hslot with rfl | hslot
  · rfl
  · obtain ⟨request, -, rfl⟩ := List.mem_map.mp hslot
    rfl

lemma exists_one_job
    (hanswers : ∀ state request, (translator state request).answer = answers request)
    {start : Moment σ} (hopen : start.switch.isThrown = false) (before after : List Slot)
    (request : Request) :
    ∃ events, (Pool.mk (before ++ .waiting request :: after) start.switch).run answers events =
      some ⟨before ++ .done (accept request (translator start.state request).answer) :: after,
        (start.next translator request).switch⟩ := by
  cases hcancels : (translator start.state request).cancels with
  | true =>
      -- The switch is thrown while the translator answers, so the job itself still goes on.
      refine ⟨[.start before.length, .throwSwitch, .finish before.length], ?_⟩
      simp [Pool.run, Pool.step, Pool.put_middle, Moment.next, hopen, hcancels, hanswers]
  | false =>
      refine ⟨[.start before.length, .finish before.length], ?_⟩
      simp [Pool.run, Pool.step, Pool.put_middle, Moment.next, hopen, hcancels, hanswers]

/-- **The jobs of lines one after the other are a schedule.**  It ends with the failure of the first
job that fails, the rest being given up, or with all blocks. -/
lemma exists_schedule_translateLines (analysis : Analysis)
    (hanswers : ∀ state request, (translator state request).answer = answers request)
    (jobs : List (Line × LineControl)) (start : Moment σ) (before : List Slot) :
    ∃ events slots,
      (Pool.mk (before ++ (jobs.map analysis.requestOf).map .waiting) start.switch).run answers
        events = some ⟨before ++ slots,
          (analysis.translateLines translator start.switch start.state jobs).switch⟩ ∧
      (∀ slot ∈ slots, slot.isSettled = true) ∧
      ((∃ e, (analysis.translateLines translator start.switch start.state jobs).result =
          .error e ∧ .done (.error e) ∈ slots) ∨
        ∃ blocks, (analysis.translateLines translator start.switch start.state jobs).result =
          .ok blocks ∧ slots = Pool.finished blocks) := by
  -- The slots of the jobs already run are `before`; none of them is touched again.
  induction jobs generalizing start before with
  | nil => exact ⟨[], [], rfl, by simp, .inr ⟨[], rfl, rfl⟩⟩
  | cons job rest ih =>
      obtain ⟨line, control⟩ := job
      simp only [List.map_cons, requestOf_mk]
      cases hthrown : start.switch.isThrown with
      | true =>
          obtain ⟨events, slots, hevents, hsettled, hfailed⟩ :=
            exists_given_up start.switch before .cancelled (rest.map analysis.requestOf)
          have hrefused : (Pool.mk (before ++ .waiting (analysis.request line control) ::
              (rest.map analysis.requestOf).map .waiting) start.switch).step answers
                (.start before.length) =
              some ⟨before ++ .done (.error .cancelled) ::
                (rest.map analysis.requestOf).map .waiting, start.switch⟩ := by
            simp [Pool.step, Pool.put_middle, hthrown]
          simp only [translateLines, translateLine_of_thrown hthrown]
          refine ⟨.start before.length :: events, slots, ?_, hsettled, .inl ⟨_, rfl, hfailed⟩⟩
          rw [Pool.run, hrefused]
          exact hevents
      | false =>
          obtain ⟨events, hjob⟩ := exists_one_job hanswers hthrown before
            ((rest.map analysis.requestOf).map .waiting) (analysis.request line control)
          simp only [translateLines, translateLine_of_open hthrown]
          cases haccept : accept (analysis.request line control)
              (translator start.state (analysis.request line control)).answer with
          | error e =>
              rw [haccept] at hjob
              obtain ⟨later, slots, hlater, hsettled, hfailed⟩ :=
                exists_given_up (start.next translator (analysis.request line control)).switch
                  before e (rest.map analysis.requestOf)
              refine ⟨events ++ later, slots, ?_, hsettled, .inl ⟨e, rfl, hfailed⟩⟩
              rw [Pool.run_append answers hjob]
              exact hlater
          | ok block =>
              rw [haccept] at hjob
              obtain ⟨later, slots, hlater, hsettled, hends⟩ :=
                ih (start.next translator (analysis.request line control))
                  (before ++ [.done (.ok block)])
              refine ⟨events ++ later, .done (.ok block) :: slots, ?_, ?_, ?_⟩
              · rw [Pool.run_append answers hjob]
                rcases hends with ⟨e, he, -⟩ | ⟨blocks, hblocks, -⟩
                · simpa [he] using hlater
                · simpa [hblocks] using hlater
              · simpa [Slot.isSettled] using hsettled
              · rcases hends with ⟨e, he, hfailed⟩ | ⟨blocks, hblocks, rfl⟩
                · exact .inl ⟨e, by simp only [he], List.mem_cons_of_mem _ hfailed⟩
                · exact .inr ⟨block :: blocks, by simp only [hblocks], rfl⟩

/-- **One line after the other is one of the orders.** -/
theorem exists_schedule (analysis : Analysis)
    (hanswers : ∀ state request, (translator state request).answer = answers request)
    (switch : CancelSwitch) (state : σ) :
    ∃ pool, analysis.RunsTo answers switch pool (analysis.compile translator switch state).result ∧
      pool.switch = (analysis.compile translator switch state).switch := by
  obtain ⟨events, slots, hrun, hsettled, hends⟩ :=
    exists_schedule_translateLines analysis hanswers analysis.jobs ⟨switch, state⟩ []
  cases hstage : analysis.translateLines translator switch state analysis.jobs with
  | mk result switch' state' =>
      simp only [hstage] at hrun hends
      have hpool : (Pool.ofRequests analysis.requests switch).run answers events =
          some ⟨slots, switch'⟩ := hrun
      rcases hends with ⟨e, rfl, hfailed⟩ | ⟨blocks, rfl, hslots⟩
      · have hcompile : analysis.compile translator switch state =
            ⟨.error e, switch', state'⟩ := by rw [compile, hstage]
        rw [hcompile]
        exact ⟨⟨slots, switch'⟩, ⟨⟨events, hpool⟩, hsettled, .failed hfailed rfl⟩, rfl⟩
      · rw [compile_of_lines hstage]
        exact ⟨⟨slots, switch'⟩, ⟨⟨events, hpool⟩, hsettled, .joined hslots rfl⟩, rfl⟩

end Sequential

/-- **The order of translation does not matter.**  For a translator whose answers depend on the
request alone, and for every schedule of the jobs of a program, with the switch thrown at any time
or never:

Whatever has happened so far, the rest can be run to a result.  A compilation succeeds only if every
job did and the switch is not thrown at the end.  It is then the same for all schedules, and the
same as one line after the other.  If the switch is not thrown, one schedule succeeds exactly if all
do, and if a single line cannot be translated every schedule fails with the error of that line. -/
theorem translation_order_irrelevant (analysis : Analysis) (answers : Answers) :
    (∀ switch events pool,
      (Pool.ofRequests analysis.requests switch).run answers events = some pool →
      ∃ later pool' result, pool.run answers later = some pool' ∧
        analysis.RunsTo answers switch pool' result) ∧
    (∀ switch pool c, analysis.RunsTo answers switch pool (.ok c) →
      (∀ slot ∈ pool.slots, ∃ block, slot = .done (.ok block)) ∧
      (∀ request ∈ analysis.requests, request.fault? (answers request) = none) ∧
      pool.switch.isThrown = false ∧
      (∀ switch' pool' c', analysis.RunsTo answers switch' pool' (.ok c') → c' = c) ∧
      ∀ (σ : Type) (translator : Translator σ) switch' state,
        (∀ state request, (translator state request).answer = answers request) →
        (analysis.compile translator switch' state).switch.isThrown = false →
        (analysis.compile translator switch' state).result = .ok c) ∧
    (∀ switch pool result switch' pool' result',
      analysis.RunsTo answers switch pool result →
      analysis.RunsTo answers switch' pool' result' →
      pool.switch.isThrown = false → pool'.switch.isThrown = false →
      ((∃ c, result = .ok c) ↔ ∃ c', result' = .ok c')) ∧
    ∀ (i : Nat) request error, analysis.requests[i]? = some request →
      request.fault? (answers request) = some error →
      (∀ (j : Nat) other, j ≠ i → analysis.requests[j]? = some other →
        other.fault? (answers other) = none) →
      ∀ switch pool result, analysis.RunsTo answers switch pool result →
        pool.switch.isThrown = false →
        result = .error (.untranslated request.line.number error) := by
  refine ⟨fun _ _ _ hrun => RunsTo.exists_of_run hrun, ?_, ?_, ?_⟩
  · intro switch pool c h
    obtain ⟨hopen, blocks, hslots, -, -⟩ := h.of_ok
    have hgood := (h.ok_iff hopen).mp ⟨c, rfl⟩
    refine ⟨?_, hgood, hopen, fun switch' pool' c' h' => h.eq_of_ok h', ?_⟩
    · rw [hslots]
      intro slot hslot
      obtain ⟨block, -, rfl⟩ := List.mem_map.mp hslot
      exact ⟨block, rfl⟩
    · intro σ translator switch' state hanswers hunthrown
      obtain ⟨pool', h', hswitch⟩ := analysis.exists_schedule hanswers switch' state
      rw [← hswitch] at hunthrown
      obtain ⟨c', hc'⟩ := (h'.ok_iff hunthrown).mpr hgood
      rw [hc'] at h' ⊢
      rw [h.eq_of_ok h']
  · intro switch pool result switch' pool' result' h h' hopen hopen'
    rw [h.ok_iff hopen, h'.ok_iff hopen']
  · intro i request error hrequest hfault hothers switch pool result h hopen
    cases h.ends with
    | failed hfailed hresult =>
        obtain ⟨j, other, error', hother, hfault', rfl⟩ := h.of_failed hopen hfailed
        by_cases hj : j = i
        · subst hj
          rw [hrequest] at hother
          cases hother
          rw [hfault] at hfault'
          cases hfault'
          exact hresult
        · rw [hothers j other hj hother] at hfault'
          cases hfault'
    | joined hslots hresult =>
        have hok : ∃ c, result = .ok c :=
          ⟨_, by rw [hresult, conclude_eq_ok_iff.mpr ⟨hopen, rfl⟩]⟩
        have hgood := (h.ok_iff hopen).mp hok request (List.mem_of_getElem? hrequest)
        rw [hgood] at hfault
        cases hfault

/-- A translator that can be reached for all lines but line 20. -/
def lineDown (request : Request) : Except TranslateError (List String) :=
  if request.line.number = 20 then .error (.unavailable "down") else .ok request.echo

/-- The last line is answered first, with the others started in between. -/
def lastFirst : List PoolEvent :=
  [.start 2, .start 0, .finish 2, .start 1, .finish 1, .finish 0]

/-- Line 20 fails while line 30 is running, and line 10 is given up. -/
def givenUp : List PoolEvent := [.start 1, .start 2, .finish 1, .skip 0, .finish 2]

/-- Both schedules of one source: the first makes what one line after the other makes, the second
fails with line 20. -/
theorem translation_order_irrelevant_threeLineSource :
    ∃ analysis, ofSource Compilation.threeLineSource .builtin = .ok analysis ∧
      (∃ pool c, (Pool.ofRequests analysis.requests .open_).run (fun r => .ok r.echo) lastFirst =
          some pool ∧
        analysis.RunsTo (fun r => .ok r.echo) .open_ pool (.ok c) ∧
        (analysis.compile .echo .absent ()).result = .ok c) ∧
      ∃ pool, (Pool.ofRequests analysis.requests .open_).run lineDown givenUp = some pool ∧
        analysis.RunsTo lineDown .open_ pool (.error (.untranslated 20 (.unavailable "down"))) ∧
        ∀ result, analysis.RunsTo lineDown .open_ pool result →
          result = .error (.untranslated 20 (.unavailable "down")) := by
  have hanalyses : (ofSource Compilation.threeLineSource .builtin).toOption.any (fun analysis =>
      ((Pool.ofRequests analysis.requests .open_).run (fun r => .ok r.echo) lastFirst).any
        (fun pool => (∀ slot ∈ pool.slots, slot.isSettled = true) ∧
          (∀ slot ∈ pool.slots, slot.isFailed = false) ∧ pool.switch = .open_) ∧
      (analysis.compile .echo .absent ()).switch = .absent ∧
      ((Pool.ofRequests analysis.requests .open_).run lineDown givenUp).any
        (fun pool => (∀ slot ∈ pool.slots, slot.isSettled = true) ∧ pool.switch = .open_ ∧
          .done (.error (.untranslated 20 (.unavailable "down"))) ∈ pool.slots) ∧
      analysis.requests[1]?.any (fun r => r.line.number = 20 ∧
        r.fault? (lineDown r) = some (.unavailable "down")) ∧
      analysis.requests.length = 3 ∧
      ∀ j < 3, j ≠ 1 → analysis.requests[j]?.all fun r => r.fault? (lineDown r) = none) = true := by
    decide +kernel
  obtain ⟨analysis, hanalysis, hfacts⟩ := exists_ok_of_any hanalyses
  obtain ⟨hgood, hswitch, hbad, hdown, hlength, hothers⟩ := of_decide_eq_true hfacts
  obtain ⟨pool, hrun, hpool⟩ := (Option.any_eq_true _ _).mp hgood
  obtain ⟨hsettled, hok, hopen⟩ := of_decide_eq_true hpool
  obtain ⟨pool', hrun', hpool'⟩ := (Option.any_eq_true _ _).mp hbad
  obtain ⟨hsettled', hopen', hfailed⟩ := of_decide_eq_true hpool'
  obtain ⟨request, hrequest, hrefused⟩ := (Option.any_eq_true _ _).mp hdown
  obtain ⟨hnumber, hfault⟩ := of_decide_eq_true hrefused
  obtain ⟨blocks, hblocks⟩ :=
    ((Pool.sound_ofRequests _ analysis.requests .open_).run hrun).exists_finished hsettled hok
  have hruns : analysis.RunsTo (fun r => .ok r.echo) .open_ pool
      (.ok ⟨⟨analysis.mode, analysis.context.entries, blocks.toArray⟩, analysis.warnings⟩) :=
    ⟨⟨lastFirst, hrun⟩, hsettled, .joined hblocks (by rw [hopen]; rfl)⟩
  have hruns' : analysis.RunsTo lineDown .open_ pool'
      (.error (.untranslated 20 (.unavailable "down"))) :=
    ⟨⟨givenUp, hrun'⟩, hsettled', .failed hfailed rfl⟩
  refine ⟨analysis, hanalysis, ⟨pool, _, hrun, hruns, ?_⟩, pool', hrun', hruns', ?_⟩
  · obtain ⟨-, -, -, -, hsequential⟩ := (translation_order_irrelevant analysis _).2.1 _ _ _ hruns
    exact hsequential Unit .echo .absent () (fun _ _ => rfl) (by rw [hswitch]; rfl)
  · intro result hresult
    have hanswered : ∀ (j : Nat) other, j ≠ 1 → analysis.requests[j]? = some other →
        other.fault? (lineDown other) = none := by
      intro j other hj hother
      obtain ⟨hlt, -⟩ := List.getElem?_eq_some_iff.mp hother
      have hall := hothers j (by omega) hj
      rw [hother] at hall
      exact of_decide_eq_true hall
    have herror := (translation_order_irrelevant analysis lineDown).2.2.2 1 request _ hrequest
      hfault hanswered _ _ result hresult (by rw [hopen']; rfl)
    rw [herror, hnumber]

end Analysis

end NumberedProse
