import Mathlib.Tactic.Common
import NumberedProse.Proofs.LoopHeads

/-!
# Linear runs

A linear run has no program counter, no open calls and no handler.  The facts here say that nothing
is lost by leaving them out, as long as no block asks for them.

**Blocks that only return.**  A turn whose operations are all returns leaves the handler alone, asks
for a return or for nothing, and violates no rule of either mode (`View.effect_of_onlyReturns`).

**The simulation.**  The loop over the blocks and the loop over the program counter are two
recursions.  They meet at the list of blocks still to come: the program counter stands at the first
of them, no call is open and no handler active (`stepped?_eq_straight`, by induction on that list).
At each block the two runs count the same step against the limit, execute the same block in views
that differ in the mode alone, and fail in the same way or go on.
-/

namespace NumberedProse

/-! ## Blocks that only return -/

/-- All operations of a turn are returns. -/
def Turn.OnlyReturns (turn : Turn) : Prop := ∀ operation ∈ turn.operations, operation = .ret

lemma foldl_perform_returns (mode : Mode) {operations : List Operation}
    (h : ∀ operation ∈ operations, operation = .ret) (effect : Effect) :
    operations.foldl (Effect.perform mode) effect =
      { effect with
        transfer := if operations = [] then effect.transfer else some .ret } := by
  induction operations generalizing effect with
  | nil => rfl
  | cons operation rest ih =>
      have hret : operation = .ret := h operation List.mem_cons_self
      have hrest := ih (fun o ho => h o (List.mem_cons_of_mem _ ho))
      subst hret
      rw [List.foldl_cons, hrest]
      by_cases hnil : rest = []
      · simp [hnil, Effect.perform]
      · simp [hnil, Effect.perform]

/-- **Returns alone change nothing but the transfer,** in either mode. -/
lemma View.effect_of_onlyReturns (view : View) {turn : Turn} (h : turn.OnlyReturns) :
    view.effect turn.operations =
      ⟨if turn.operations = [] then none else some .ret, view.handler, none⟩ := by
  rw [View.effect, foldl_perform_returns view.mode h]

/-- The error of a block that only returns: its fault, or else its return. -/
lemma Assembly.linearError?_of_onlyReturns (view : View) {turn : Turn} (h : turn.OnlyReturns)
    (line : LineNumber) :
    linearError? line (view.effect turn.operations) turn.fault =
      match turn.fault with
      | some message => some (.unhandledFault line message)
      | none => if turn.operations = [] then none else some (.unbalancedReturn line) := by
  rw [view.effect_of_onlyReturns h]
  cases hfault : turn.fault with
  | some message => rfl
  | none =>
      by_cases hnil : turn.operations = []
      · simp [linearError?, hnil]
      · simp [linearError?, hnil]

/-- A linear run has no registers to change. -/
lemma Assembly.registers_straight {σ : Type} (limits : Limits) (executor : Executor σ)
    (blocks : List Block) (state : MachineState) (x : σ) :
    (straight limits executor blocks state x).state.registers = state.registers := by
  induction blocks generalizing state x with
  | nil => rfl
  | cons block rest ih =>
      simp only [straight]
      split
      · rfl
      · split
        · rfl
        · rw [ih]
          rfl

/-- **What a linear run can fail with** if its blocks only return: the limit on steps, a fault or a
return. -/
lemma Assembly.error_straight {σ : Type} {limits : Limits} {executor : Executor σ}
    {blocks : List Block} {state : MachineState} {x : σ} {error : MachineError}
    (honly : ∀ block ∈ blocks, ∀ x view, (executor x block view).1.OnlyReturns)
    (h : (straight limits executor blocks state x).error = some error) :
    (∃ limit, error = .stepLimit limit) ∨ (∃ line message, error = .unhandledFault line message) ∨
      ∃ line, error = .unbalancedReturn line := by
  induction blocks generalizing state x with
  | nil => cases h
  | cons block rest ih =>
      simp only [straight] at h
      split at h
      · next limit _ =>
          cases h
          exact Or.inl ⟨limit, rfl⟩
      · split at h
        · next e he =>
            cases h
            rw [linearError?_of_onlyReturns _ (honly block List.mem_cons_self x _)] at he
            split at he
            · next message _ =>
                cases he
                exact Or.inr (Or.inl ⟨block.number, message, rfl⟩)
            · split at he
              · cases he
              · cases he
                exact Or.inr (Or.inr ⟨block.number, rfl⟩)
        · exact ih (fun b hb => honly b (List.mem_cons_of_mem _ hb)) h

/-! ## The simulation -/

namespace MachineState

/-- A state without open calls, handler or fault: all that a linear run can reach. -/
structure Bare (state : MachineState) : Prop where
  registers : state.registers = .empty
  lastFault : state.lastFault = none

lemma Bare.tick_visit {state : MachineState} (bare : state.Bare) (line : LineNumber) :
    (state.tick.visit line).Bare :=
  ⟨bare.registers, bare.lastFault⟩

lemma Bare.goTo {state : MachineState} (bare : state.Bare) (pc : Destination) :
    (state.goTo pc).Bare :=
  ⟨bare.registers, bare.lastFault⟩

/-- The view of a bare state is that of a linear run, but for the mode. -/
lemma Bare.view_eq {state : MachineState} (bare : state.Bare) (line : LineNumber) :
    state.view line = { Assembly.linearView line with mode := .dispatch } := by
  simp only [view, bare.registers, bare.lastFault]
  rfl

/-- Adopting the handler that is active already changes nothing. -/
lemma adopt_handler (state : MachineState) : state.adopt state.registers.handler = state := by
  simp [adopt]

/-- A block that only returns leaves handler and fault alone. -/
lemma afterTurn_of_onlyReturns (state : MachineState) (line : LineNumber) {turn : Turn}
    (h : turn.OnlyReturns) : state.afterTurn line turn = state.tick.visit line := by
  rw [afterTurn, View.effect_of_onlyReturns _ h]
  exact adopt_handler (state.tick.visit line)

/-- Where a bare state goes after a block that only returns: on, unless the block fails. -/
lemma Bare.settle_eq {state : MachineState} (bare : state.Bare) (limits : Limits)
    (line : LineNumber) (successor : Destination) {turn : Turn} (h : turn.OnlyReturns)
    (view : View) :
    state.settle limits line successor (view.effect turn.operations).transfer turn.fault =
      match Assembly.linearError? line (view.effect turn.operations) turn.fault with
      | some error => .error error
      | none => .ok (state.goTo successor) := by
  rw [Assembly.linearError?_of_onlyReturns view h, view.effect_of_onlyReturns h]
  cases hfault : turn.fault with
  | some message => simp [settle, routeFault, bare.registers, Registers.empty]
  | none =>
      by_cases hnil : turn.operations = []
      · simp [settle, follow, hnil]
      · have hpop : state.registers.pop? = none := by
          rw [bare.registers]
          rfl
        simp [settle, follow, hnil, hpop]

end MachineState

namespace Assembly

variable {σ : Type}

/-- The block that stands first among those still to come is the one its number locates. -/
lemma Ordered.locate?_of_drop {assembly : Assembly} (ordered : assembly.Ordered) {i : Nat}
    {block : Block} {rest : List Block} (h : assembly.blocks.toList.drop i = block :: rest) :
    assembly.locate? block.number =
      some (block, .ofSuccessor (rest.head?.map Block.number)) := by
  have hblock : assembly.blocks[i]? = some block := by
    have hhead := congrArg List.head? h
    simpa [List.head?_drop] using hhead
  have hrest : assembly.blocks[i + 1]? = rest.head? := by
    have htail := congrArg (fun blocks => blocks.tail.head?) h
    simpa [List.tail_drop, List.head?_drop] using htail
  have hposition : assembly.position? block.number = some i :=
    (Numbered.position?_eq_some_iff ordered).mpr (by rw [hblock]; rfl)
  simp [locate?, hposition, hblock, hrest]

/-- The report on a run does not tell where the program counter stands. -/
lemma report_goTo (error : Option MachineError) (state : MachineState) (pc : Destination) (x : σ)
    (mode : Mode) :
    Ended.report ⟨error, state.goTo pc, x⟩ mode = Ended.report ⟨error, state, x⟩ mode := by
  cases error <;> rfl

section

variable {assembly : Assembly} (ordered : assembly.Ordered) (limits : Limits)
  {executor : Executor σ} (hreturns : ∀ x block view, (executor x block view).1.OnlyReturns)
  (hblind : ∀ x block view mode,
    executor x block { view with mode := mode } = executor x block view)
include ordered hreturns hblind

/-- **One block, seen from the program counter.**  From a bare state that stands at the first of the
blocks still to come, a step fails exactly as the linear loop does, or goes on to the next block. -/
lemma advance_bare {i : Nat} {block : Block} {rest : List Block}
    (hblocks : assembly.blocks.toList.drop i = block :: rest) {state : MachineState}
    (bare : state.Bare) (hlimit : limits.exceeded? (state.steps + 1) = none) {x y : σ} {turn : Turn}
    (hturn : executor x block (linearView block.number) = (turn, y)) :
    assembly.advance limits executor (state.goTo (.line block.number)) x =
      match linearError? block.number ((linearView block.number).effect turn.operations)
        turn.fault with
      | some error => .failed error ((state.tick.visit block.number).goTo (.line block.number)) y
      | none => .next ((state.tick.visit block.number).goTo
          (.ofSuccessor (rest.head?.map Block.number))) y := by
  have honly : turn.OnlyReturns := by
    have hblock := hreturns x block (linearView block.number)
    rw [hturn] at hblock
    exact hblock
  have hview : executor x block ((state.goTo (.line block.number)).view block.number) =
      (turn, y) := by
    rw [(bare.goTo _).view_eq, hblind, hturn]
  have hexecutes : assembly.Executes limits executor (state.goTo (.line block.number)) x
      block.number block (.ofSuccessor (rest.head?.map Block.number)) turn y :=
    ⟨rfl, hlimit, ordered.locate?_of_drop hblocks, hview⟩
  have hsettle := ((bare.goTo (.line block.number)).tick_visit block.number).settle_eq limits
    block.number (.ofSuccessor (rest.head?.map Block.number)) honly
    ((state.goTo (.line block.number)).view block.number)
  have hsame : linearError? block.number
        (((state.goTo (.line block.number)).view block.number).effect turn.operations) turn.fault =
      linearError? block.number ((linearView block.number).effect turn.operations) turn.fault := by
    rw [linearError?_of_onlyReturns _ honly, linearError?_of_onlyReturns _ honly]
  rw [hexecutes.advance_eq, MachineState.afterTurn_of_onlyReturns _ _ honly, hsettle, hsame]
  cases linearError? block.number ((linearView block.number).effect turn.operations) turn.fault with
  | some error => rfl
  | none => rfl

/-- **Stepping through the blocks still to come is executing them one after the other.**  The
induction is on these blocks, for every state that stands at the first of them. -/
theorem stepped?_eq_straight (mode : Mode) {blocks : List Block} {i : Nat}
    (hblocks : assembly.blocks.toList.drop i = blocks) {state : MachineState} (bare : state.Bare)
    (x : σ) {patience : Nat} (henough : blocks.length < patience) :
    (assembly.stepped? limits executor patience
        (state.goTo (.ofSuccessor (blocks.head?.map Block.number))) x).map (·.report mode) =
      some ((straight limits executor blocks state x).report mode) := by
  induction blocks generalizing i state x patience with
  | nil =>
      obtain ⟨patience, rfl⟩ := Nat.exists_eq_add_one_of_ne_zero (Nat.ne_of_gt henough)
      simp only [stepped?, advance, straight, MachineState.goTo]
      rfl
  | cons block rest ih =>
      obtain ⟨patience, rfl⟩ :=
        Nat.exists_eq_add_one_of_ne_zero (Nat.ne_of_gt (Nat.zero_lt_of_lt henough))
      have hstart : Destination.ofSuccessor ((block :: rest).head?.map Block.number) =
          .line block.number := rfl
      rw [hstart]
      cases hlimit : limits.exceeded? (state.steps + 1) with
      | some limit =>
          have hstep : assembly.advance limits executor (state.goTo (.line block.number)) x =
              .failed (.stepLimit limit) (state.tick.goTo (.line block.number)) x := by
            simp only [advance, MachineState.goTo, MachineState.tick, hlimit]
          simp only [stepped?, hstep, straight, MachineState.tick, hlimit, Option.map_some]
          exact congrArg some (report_goTo _ state.tick _ x mode)
      | none =>
          obtain ⟨turn, y, hturn⟩ : ∃ turn y,
              executor x block (linearView block.number) = (turn, y) := ⟨_, _, rfl⟩
          have hstep := advance_bare ordered limits hreturns hblind hblocks bare hlimit hturn
          have hwithin : limits.exceeded? state.tick.steps = none := hlimit
          cases herror : linearError? block.number
              ((linearView block.number).effect turn.operations) turn.fault with
          | some error =>
              rw [herror] at hstep
              simp only [stepped?, hstep, straight, hwithin, hturn, herror, Option.map_some]
              exact congrArg some (report_goTo _ _ _ y mode)
          | none =>
              rw [herror] at hstep
              have hrest : assembly.blocks.toList.drop (i + 1) = rest := by
                rw [← List.tail_drop, hblocks, List.tail_cons]
              have hlength : rest.length < patience := by
                rw [List.length_cons] at henough
                omega
              simp only [stepped?, hstep, straight, hwithin, hturn, herror]
              exact ih hrest (bare.tick_visit block.number) y hlength

end

/-! ## Either mode -/

/-- Two outcomes tell the same story, in whatever mode it happened. -/
def SameOutcome : Except Failure Trace → Except Failure Trace → Prop
  | .ok a, .ok b =>
      a.visited = b.visited ∧ a.steps = b.steps ∧ a.handler = b.handler ∧ a.lastFault = b.lastFault
  | .error a, .error b => a.error = b.error ∧ a.visited = b.visited ∧ a.frames = b.frames
  | _, _ => False

lemma sameOutcome_report (ended : Ended σ) (a b : Mode) :
    SameOutcome (ended.report a).outcome (ended.report b).outcome := by
  obtain ⟨error, state, x⟩ := ended
  cases error with
  | none => exact ⟨rfl, rfl, rfl, rfl⟩
  | some error => exact ⟨rfl, rfl, rfl⟩

/-- A run begins at the first block. -/
lemma start_eq_goTo (assembly : Assembly) :
    MachineState.start (.ofSuccessor assembly.entry?) = (MachineState.start .halt).goTo
      (.ofSuccessor (assembly.blocks.toList.head?.map Block.number)) := by
  have hhead : assembly.blocks.toList.head? = assembly.blocks[0]? := by
    simp [List.head?_eq_getElem?]
  rw [hhead]
  rfl

/-- **Linear mode refines dispatch mode.**  If the blocks stand in order and the executor only ever
returns or fails, and does not look at the mode, the two modes give the same outcome; in dispatch
mode the run ends after at most one step for each block. -/
theorem linear_refines_dispatch (assembly : Assembly) (ordered : assembly.Ordered)
    (limits : Limits) (executor : Executor σ)
    (hreturns : ∀ x block view, ∀ operation ∈ (executor x block view).1.operations,
      operation = .ret)
    (hblind : ∀ x block view mode,
      executor x block { view with mode := mode } = executor x block view) (x : σ) :
    ∃ linear dispatch : Report σ,
      (∀ patience,
        { assembly with mode := .linear }.run? limits executor patience x = some linear) ∧
      (∀ patience, assembly.blocks.size < patience →
        { assembly with mode := .dispatch }.run? limits executor patience x = some dispatch) ∧
      SameOutcome linear.outcome dispatch.outcome := by
  let ended := straight limits executor assembly.blocks.toList (.start .halt) x
  refine ⟨ended.report .linear, ended.report .dispatch, fun _ => rfl, ?_,
    sameOutcome_report ended .linear .dispatch⟩
  intro patience henough
  have hordered : { assembly with mode := .dispatch }.Ordered := ordered
  have hbare : (MachineState.start .halt).Bare := ⟨rfl, rfl⟩
  have hlength : assembly.blocks.toList.length < patience := by simpa using henough
  have hsimulation := stepped?_eq_straight hordered limits hreturns hblind .dispatch
    List.drop_zero hbare x hlength
  rw [← start_eq_goTo] at hsimulation
  exact hsimulation

/-- Three blocks in order, none of which moves control. -/
def threeBlocks : Assembly :=
  ⟨.linear, [], #[
    ⟨⟨10, none, "load the cart"⟩, .fallthrough, none, .unneeded, []⟩,
    ⟨⟨20, none, "add the tax"⟩, .fallthrough, none, .unneeded, []⟩,
    ⟨⟨30, none, "print it"⟩, .fallthrough, none, .unneeded, []⟩]⟩

/-- An executor that counts its blocks and returns from the third. -/
def returningThird : Executor Nat := fun count _ _ =>
  (⟨if count = 2 then [.ret] else [], none⟩, count + 1)

/-- The two modes agree on a run that ends in a return at the third block. -/
theorem linear_refines_dispatch_threeBlocks :
    threeBlocks.Ordered ∧
      ∃ linear dispatch : Report Nat,
        (∀ patience, { threeBlocks with mode := .linear }.run? .standard returningThird patience 0 =
          some linear) ∧
        (∀ patience, 3 < patience →
          { threeBlocks with mode := .dispatch }.run? .standard returningThird patience 0 =
            some dispatch) ∧
        SameOutcome linear.outcome dispatch.outcome := by
  have hordered : threeBlocks.Ordered := by
    unfold Ordered Numbered.Increasing
    decide
  refine ⟨hordered, linear_refines_dispatch threeBlocks hordered .standard returningThird ?_ ?_ 0⟩
  · intro count block view operation hoperation
    simp only [returningThird] at hoperation
    split at hoperation
    · simpa using hoperation
    · cases hoperation
  · intro count block view mode
    rfl

end Assembly

end NumberedProse
