import Mathlib.Order.Interval.Finset.Nat
import Mathlib.Tactic.Common
import NumberedProse.Proofs.Turns

/-!
# Returns and the calls they match

Calls and returns are brackets: a return belongs to the latest call that is still open.  The machine
keeps a stack for this.  Here the same is said of the history of a run alone, for every executor.

**Matching by counting.**  The call that a return matches is the latest call before it with as many
calls as returns in between (`MatchingCall`).  Faults, jumps out of a called line and transfers that
a block has overwritten do not count.

**Depth is a count.**  Each call opens one frame and each return closes one, so between two heads
the depth changes by the calls less the returns (`depth_between`): the steps between a call and a
return are balanced exactly if the return finds the depth that the call left.

**Where a frame comes from.**  The frame at a depth was pushed by the latest call that left this
depth (`exists_openedBy`).  Later calls that leave other depths push other frames, and a return
that takes the depth below this one removes the frame as well.
-/

namespace NumberedProse

/-- The state that a step leaves behind. -/
def Progress.state {σ : Type} : Progress σ → MachineState
  | next state _ | halted state _ | failed _ state _ => state

namespace Assembly

/-! ## Matching -/

section

variable {σ : Type} (assembly : Assembly) (limits : Limits) (executor : Executor σ) (x : σ)

/-- The transfer that a step makes. -/
def transferAt? (n : Nat) : Option Transfer :=
  (assembly.turnAt? limits executor x n).bind fun (_, turn) => turn.transfer?

/-- A step is a call: its block did not fail, and the last transfer it asked for was a call. -/
def isCallAt (n : Nat) : Bool :=
  match assembly.transferAt? limits executor x n with
  | some (.call _) => true
  | some (.jump _) | some .ret | none => false

/-- A step is a return: its block did not fail, and the last transfer it asked for was a return. -/
def isReturnAt (n : Nat) : Bool :=
  match assembly.transferAt? limits executor x n with
  | some .ret => true
  | some (.jump _) | some (.call _) | none => false

/-- **As many calls as returns** strictly between two steps. -/
def Balanced (i j : Nat) : Prop :=
  ((Finset.Ioo i j).filter fun k => assembly.isCallAt limits executor x k).card =
    ((Finset.Ioo i j).filter fun k => assembly.isReturnAt limits executor x k).card

/-- **The call that a return matches:** the latest one before it with as many calls as returns in
between. -/
structure MatchingCall (i j : Nat) : Prop where
  before : i < j
  call : assembly.isCallAt limits executor x i
  balanced : assembly.Balanced limits executor x i j
  latest : ∀ k, i < k → k < j → assembly.isCallAt limits executor x k →
    ¬ assembly.Balanced limits executor x k j

/-- After a step the run goes on, with control at the given place. -/
def ResumesAt (n : Nat) (place : Destination) : Prop :=
  ∃ next z, assembly.head? limits executor x (n + 1) = some (next, z) ∧ next.pc = place

/-- **The call that opened a frame:** of the calls before a head, the latest that left one frame
more than stand below this one. -/
structure OpenedBy (n depth : Nat) (place : Destination) (i : Nat) : Prop where
  before : i < n
  caller : ∃ line turn target, assembly.turnAt? limits executor x i = some (line, turn) ∧
    turn.transfer? = some (.call target) ∧ place = .ofSuccessor (assembly.successor? line)
  leaves : assembly.depthAt? limits executor x (i + 1) = some (depth + 1)
  latest : ∀ k, i < k → k < n → assembly.isCallAt limits executor x k →
    assembly.depthAt? limits executor x (k + 1) ≠ some (depth + 1)

end

variable {σ : Type} {assembly : Assembly} {limits : Limits} {executor : Executor σ} {x y z : σ}
  {i j n : Nat} {head next : MachineState} {line : LineNumber} {turn : Turn}

lemma transferAt?_eq (h : assembly.turnAt? limits executor x n = some (line, turn)) :
    assembly.transferAt? limits executor x n = turn.transfer? := by
  rw [transferAt?, h, Option.bind_some]

lemma isCallAt_iff (h : assembly.turnAt? limits executor x n = some (line, turn)) :
    assembly.isCallAt limits executor x n ↔ ∃ target, turn.transfer? = some (.call target) := by
  simp only [isCallAt, transferAt?_eq h]
  split <;> simp_all

lemma isReturnAt_iff (h : assembly.turnAt? limits executor x n = some (line, turn)) :
    assembly.isReturnAt limits executor x n ↔ turn.transfer? = some .ret := by
  simp only [isReturnAt, transferAt?_eq h]
  split <;> simp_all

/-! ## What a step does to the stack -/

/-- **All that a step can do to the stack:** a call pushes the place after its line, a return takes
the latest place and goes there, and any other step leaves the stack alone. -/
theorem stack_cases (hhead : assembly.head? limits executor x n = some (head, y))
    (hnext : assembly.head? limits executor x (n + 1) = some (next, z)) :
    ∃ line turn, assembly.turnAt? limits executor x n = some (line, turn) ∧
      ((∃ target, turn.transfer? = some (.call target) ∧
          next.registers.stack =
            head.registers.stack.push (.ofSuccessor (assembly.successor? line))) ∨
        (turn.transfer? = some .ret ∧
          head.registers.stack.pop? = some (next.pc, next.registers.stack)) ∨
        ((∀ target, turn.transfer? ≠ some (.call target)) ∧ turn.transfer? ≠ some .ret ∧
          next.registers.stack = head.registers.stack)) := by
  have hstep := advance_of_head? hhead hnext
  obtain ⟨line, block, successor, turn, w, hexecutes⟩ := exists_executes_of_next hstep
  obtain ⟨-, -, rfl⟩ := locate?_eq_some hexecutes.located
  refine ⟨line, turn, hexecutes.turnAt? hhead, ?_⟩
  rcases hexecutes.moves_of_next hstep with ⟨-, hmoves⟩ | ⟨hfault, hstack, -⟩
  · generalize turn.transfer? = transfer at hmoves
    generalize hpc : next.pc = pc at hmoves
    generalize hrest : next.registers.stack = rest at hmoves
    cases hmoves with
    | onwards => exact Or.inr (Or.inr ⟨by simp, by simp, rfl⟩)
    | jump target => exact Or.inr (Or.inr ⟨by simp, by simp, rfl⟩)
    | call target => exact Or.inl ⟨target, rfl, rfl⟩
    | ret hpop => exact Or.inr (Or.inl ⟨rfl, hpop⟩)
  · have hnone : ∀ transfer, turn.transfer? ≠ some transfer :=
      fun transfer htransfer => hfault (Turn.fault_eq_none htransfer)
    exact Or.inr (Or.inr ⟨fun target => hnone _, hnone _, hstack⟩)

lemma depth_succ (hhead : assembly.head? limits executor x n = some (head, y))
    (hnext : assembly.head? limits executor x (n + 1) = some (next, z)) :
    next.registers.stack.depth + (if assembly.isReturnAt limits executor x n then 1 else 0) =
      head.registers.stack.depth + (if assembly.isCallAt limits executor x n then 1 else 0) := by
  obtain ⟨line, turn, hturn, hcases⟩ := stack_cases hhead hnext
  have hcalls := isCallAt_iff hturn
  have hreturns := isReturnAt_iff hturn
  rcases hcases with ⟨target, hcall, hstack⟩ | ⟨hret, hpop⟩ | ⟨hcall, hret, hstack⟩
  · rw [if_neg (by simp [hreturns, hcall]), if_pos (hcalls.mpr ⟨target, hcall⟩), hstack]
    rfl
  · rw [if_pos (hreturns.mpr hret), if_neg (by simp [hcalls, hret]), CallStack.depth_eq_length,
      CallStack.depth_eq_length, CallStack.frames_of_pop? hpop, List.length_append]
    rfl
  · rw [if_neg (fun h => hret (hreturns.mp h)),
      if_neg (fun h => (hcalls.mp h).elim fun target htarget => hcall target htarget), hstack]

/-! ## Depth by counting -/

lemma card_filter_Ioo_succ (p : Nat → Bool) (hij : i < j) :
    ((Finset.Ioo i (j + 1)).filter fun k => p k).card =
      ((Finset.Ioo i j).filter fun k => p k).card + if p j then 1 else 0 := by
  have hinsert : Finset.Ioo i (j + 1) = insert j (Finset.Ioo i j) := by
    ext k
    simp only [Finset.mem_Ioo, Finset.mem_insert]
    omega
  rw [hinsert, Finset.filter_insert]
  split
  · rw [Finset.card_insert_of_notMem (by simp)]
  · rfl

/-- **Between two heads the depth changes by the calls less the returns.** -/
theorem depth_between (hij : i < j)
    (hfirst : assembly.head? limits executor x (i + 1) = some (next, z))
    (hlast : assembly.head? limits executor x j = some (head, y)) :
    head.registers.stack.depth +
        ((Finset.Ioo i j).filter fun k => assembly.isReturnAt limits executor x k).card =
      next.registers.stack.depth +
        ((Finset.Ioo i j).filter fun k => assembly.isCallAt limits executor x k).card := by
  induction j, hij using Nat.le_induction generalizing head y with
  | base =>
      rw [hfirst] at hlast
      cases hlast
      have hempty : Finset.Ioo i (i + 1) = ∅ := by
        ext k
        simp only [Finset.mem_Ioo, Finset.notMem_empty, iff_false]
        omega
      simp [hempty]
  | succ j hij ih =>
      obtain ⟨before, w, hbefore, -⟩ := headFrom?_succ_iff.mp hlast
      have hearlier := ih hbefore
      have hstep := depth_succ hbefore hlast
      rw [card_filter_Ioo_succ _ hij, card_filter_Ioo_succ _ hij]
      omega

lemma balanced_iff (hij : i < j) (hlast : assembly.head? limits executor x j = some (head, y)) :
    assembly.Balanced limits executor x i j ↔
      assembly.depthAt? limits executor x (i + 1) = some head.registers.stack.depth := by
  obtain ⟨next, z, hfirst⟩ := exists_head?_of_le hij hlast
  have hdepth := depth_between hij hfirst hlast
  rw [Balanced, depthAt?_eq_some hfirst, Option.some.injEq]
  omega

/-! ## Where a frame comes from -/

lemma OpenedBy.succ {depth : Nat} {place : Destination}
    (h : assembly.OpenedBy limits executor x n depth place i)
    (hother : assembly.isCallAt limits executor x n →
      assembly.depthAt? limits executor x (n + 1) ≠ some (depth + 1)) :
    assembly.OpenedBy limits executor x (n + 1) depth place i := by
  refine ⟨Nat.lt_succ_of_lt h.before, h.caller, h.leaves, ?_⟩
  intro k hik hkn hcall
  rcases Nat.lt_or_eq_of_le (Nat.le_of_lt_succ hkn) with hlt | rfl
  · exact h.latest k hik hlt hcall
  · exact hother hcall

/-- **Every frame was opened by a call,** the latest that left its depth. -/
theorem exists_openedBy (hhead : assembly.head? limits executor x n = some (head, y)) {depth : Nat}
    {place : Destination} (hplace : head.registers.stack.frames[depth]? = some place) :
    ∃ i, assembly.OpenedBy limits executor x n depth place i := by
  induction n generalizing head y with
  | zero =>
      cases hhead
      cases hplace
  | succ n ih =>
      obtain ⟨before, z, hbefore, -⟩ := headFrom?_succ_iff.mp hhead
      obtain ⟨line, turn, hturn, hcases⟩ := stack_cases hbefore hhead
      rcases hcases with ⟨target, hcall, hstack⟩ | ⟨hret, hpop⟩ | ⟨hcall, -, hstack⟩
      · have hdepth : assembly.depthAt? limits executor x (n + 1) =
            some (before.registers.stack.depth + 1) := by
          rw [depthAt?_eq_some hhead, hstack]
          rfl
        rw [hstack] at hplace
        rcases CallStack.getElem?_frames_push hplace with hold | ⟨rfl, rfl⟩
        · -- the new frame stands above this one, so the call has left another depth
          obtain ⟨i, hopened⟩ := ih hbefore hold
          obtain ⟨hlt, -⟩ := List.getElem?_eq_some_iff.mp hold
          rw [← CallStack.depth_eq_length] at hlt
          refine ⟨i, hopened.succ fun _ => ?_⟩
          rw [hdepth, ne_eq, Option.some.injEq]
          omega
        · refine ⟨n, Nat.lt_succ_self n, ⟨line, turn, target, hturn, hcall, rfl⟩, hdepth, ?_⟩
          intro k hnk hkn
          omega
      · -- a return removes the top frame alone, so this one was there before
        have hframes := CallStack.frames_of_pop? hpop
        obtain ⟨hlt, -⟩ := List.getElem?_eq_some_iff.mp hplace
        have hbelow : before.registers.stack.frames[depth]? = some place := by
          rw [hframes, List.getElem?_append_left hlt]
          exact hplace
        obtain ⟨i, hopened⟩ := ih hbefore hbelow
        refine ⟨i, hopened.succ fun hcall => ?_⟩
        obtain ⟨target, htarget⟩ := (isCallAt_iff hturn).mp hcall
        rw [hret] at htarget
        cases htarget
      · rw [hstack] at hplace
        obtain ⟨i, hopened⟩ := ih hbefore hplace
        refine ⟨i, hopened.succ fun hcalls => ?_⟩
        obtain ⟨target, htarget⟩ := (isCallAt_iff hturn).mp hcalls
        exact absurd htarget (hcall target)

/-! ## Matching calls -/

lemma MatchingCall.unique {k : Nat} (hi : assembly.MatchingCall limits executor x i j)
    (hk : assembly.MatchingCall limits executor x k j) : i = k := by
  rcases Nat.lt_trichotomy i k with hlt | heq | hgt
  · exact absurd hk.balanced (hi.latest k hlt hk.before hk.call)
  · exact heq
  · exact absurd hi.balanced (hk.latest i hgt hi.before hi.call)

/-- The call that opened the latest frame is the one that a return at this head would match. -/
lemma OpenedBy.matchingCall (hhead : assembly.head? limits executor x n = some (head, y))
    {depth : Nat} {place : Destination} (h : assembly.OpenedBy limits executor x n depth place i)
    (hdepth : head.registers.stack.depth = depth + 1) :
    assembly.MatchingCall limits executor x i n := by
  obtain ⟨line, turn, target, hturn, hcall, -⟩ := h.caller
  refine ⟨h.before, (isCallAt_iff hturn).mpr ⟨target, hcall⟩, ?_, ?_⟩
  · rw [balanced_iff h.before hhead, hdepth]
    exact h.leaves
  · intro k hik hkn hk
    rw [balanced_iff hkn hhead, hdepth]
    exact h.latest k hik hkn hk

/-- A call leaves an open frame, so a return that matches one finds a frame. -/
lemma MatchingCall.frames_ne_nil (hhead : assembly.head? limits executor x n = some (head, y))
    (h : assembly.MatchingCall limits executor x i n) : head.registers.stack.frames ≠ [] := by
  obtain ⟨next, z, hnext⟩ := exists_head?_of_le h.before hhead
  obtain ⟨before, w, hbefore, -⟩ := headFrom?_succ_iff.mp hnext
  obtain ⟨line, turn, hturn, hcases⟩ := stack_cases hbefore hnext
  obtain ⟨target, htarget⟩ := (isCallAt_iff hturn).mp h.call
  have hbalanced := (balanced_iff h.before hhead).mp h.balanced
  rw [depthAt?_eq_some hnext, Option.some.injEq] at hbalanced
  rw [← CallStack.depth_pos_iff, ← hbalanced]
  rcases hcases with ⟨_, -, hstack⟩ | ⟨hret, -⟩ | ⟨hcall, -⟩
  · rw [hstack]
    exact Nat.succ_pos _
  · rw [hret] at htarget
    cases htarget
  · exact absurd htarget (hcall target)

lemma ResumesAt.unique {place other : Destination}
    (h : assembly.ResumesAt limits executor x n place)
    (hother : assembly.ResumesAt limits executor x n other) : place = other := by
  obtain ⟨next, z, hnext, rfl⟩ := h
  obtain ⟨s, w, hs, rfl⟩ := hother
  rw [hnext] at hs
  cases hs
  rfl

/-- A return after which the run goes on has found a frame. -/
lemma frames_ne_nil_of_resumesAt (hhead : assembly.head? limits executor x n = some (head, y))
    (hturn : assembly.turnAt? limits executor x n = some (line, turn))
    (hret : turn.transfer? = some .ret) {place : Destination}
    (h : assembly.ResumesAt limits executor x n place) : head.registers.stack.frames ≠ [] := by
  obtain ⟨next, z, hnext, -⟩ := h
  obtain ⟨line, turn, hagain, hcases⟩ := stack_cases hhead hnext
  rw [hturn] at hagain
  cases hagain
  rcases hcases with ⟨target, hcall, -⟩ | ⟨-, hpop⟩ | ⟨-, hother, -⟩
  · rw [hret] at hcall
    cases hcall
  · rw [CallStack.frames_of_pop? hpop]
    exact List.concat_ne_nil _ _
  · exact absurd hret hother

/-- **A return that finds a frame goes back to the call it matches.** -/
lemma exists_matchingCall (hhead : assembly.head? limits executor x n = some (head, y))
    (hturn : assembly.turnAt? limits executor x n = some (line, turn))
    (hret : turn.transfer? = some .ret) (hopen : head.registers.stack.frames ≠ []) :
    ∃ i caller called, assembly.MatchingCall limits executor x i n ∧
      assembly.turnAt? limits executor x i = some (caller, called) ∧
      assembly.ResumesAt limits executor x n (.ofSuccessor (assembly.successor? caller)) := by
  obtain ⟨block, successor, v, hexecutes⟩ := exists_executes_of_turnAt? hhead hturn
  obtain ⟨s, w, next, z, hs, hnext, hframes⟩ := hexecutes.returnsAt hhead hret hopen
  rw [hhead] at hs
  cases hs
  have hdepth : head.registers.stack.depth = next.registers.stack.depth + 1 := by
    rw [CallStack.depth_eq_length, CallStack.depth_eq_length, hframes, List.length_append]
    rfl
  have htop : head.registers.stack.frames[next.registers.stack.depth]? = some next.pc := by
    rw [hframes, CallStack.depth_eq_length, List.getElem?_concat_length]
  obtain ⟨i, hopened⟩ := exists_openedBy hhead htop
  obtain ⟨caller, called, target, hcaller, -, hplace⟩ := hopened.caller
  exact ⟨i, caller, called, hopened.matchingCall hhead hdepth, hcaller, next, z, hnext, hplace⟩

/-- A fault leaves the stack alone, whatever transfer was asked for. -/
lemma Executes.stack_of_fault {block : Block} {successor : Destination}
    (h : assembly.Executes limits executor head y line block successor turn z)
    (hfault : turn.fault ≠ none) :
    (assembly.advance limits executor head y).state.registers.stack = head.registers.stack := by
  obtain ⟨message, hmessage⟩ := Option.ne_none_iff_exists'.mp hfault
  rw [h.advance_eq, hmessage]
  simp only [MachineState.settle, MachineState.routeFault]
  cases (head.afterTurn line turn).registers.handler <;> rfl

/-- **Returns match calls as brackets do.**  In every run of every executor, a return goes back to
the place after the line of the call it matches, and the run goes on from there; a return that
matches no call fails as unbalanced.  A step that fails changes nothing about the open calls. -/
theorem returns_match_calls (assembly : Assembly) (hmode : assembly.mode = .dispatch)
    (limits : Limits) (executor : Executor σ) (x : σ) :
    (∀ j line turn, assembly.turnAt? limits executor x j = some (line, turn) →
      turn.transfer? = some .ret →
        (∀ place, assembly.ResumesAt limits executor x j place ↔
          ∃ i caller called, assembly.MatchingCall limits executor x i j ∧
            assembly.turnAt? limits executor x i = some (caller, called) ∧
            place = .ofSuccessor (assembly.successor? caller)) ∧
        (assembly.ReturnFailsAt limits executor x line j ↔
          ¬ ∃ i, assembly.MatchingCall limits executor x i j)) ∧
    ∀ j head y line turn, assembly.head? limits executor x j = some (head, y) →
      assembly.turnAt? limits executor x j = some (line, turn) → turn.fault ≠ none →
        (assembly.advance limits executor head y).state.registers.stack =
          head.registers.stack := by
  constructor
  · intro j line turn hturn hret
    obtain ⟨head, y, block, successor, z, hhead, hexecutes⟩ := turnAt?_eq_some_iff.mp hturn
    refine ⟨fun place => ⟨?_, ?_⟩, ?_, ?_⟩
    · intro hresumes
      obtain ⟨i, caller, called, hmatch, hcaller, hback⟩ := exists_matchingCall hhead hturn hret
        (frames_ne_nil_of_resumesAt hhead hturn hret hresumes)
      exact ⟨i, caller, called, hmatch, hcaller, hresumes.unique hback⟩
    · rintro ⟨i, caller, called, hmatch, hcaller, rfl⟩
      obtain ⟨k, line, turn, hk, hline, hback⟩ :=
        exists_matchingCall hhead hturn hret (hmatch.frames_ne_nil hhead)
      obtain rfl := hmatch.unique hk
      rw [hcaller] at hline
      cases hline
      exact hback
    · rintro ⟨⟨s, w, hs, hempty⟩, -⟩ ⟨i, hmatch⟩
      exact hmatch.frames_ne_nil hs hempty
    · intro hnone
      refine hexecutes.returnFailsAt hmode hhead hret ?_
      by_contra hopen
      obtain ⟨i, -, -, hmatch, -⟩ := exists_matchingCall hhead hturn hret hopen
      exact hnone ⟨i, hmatch⟩
  · intro j head y line turn hhead hturn hfault
    obtain ⟨block, successor, z, hexecutes⟩ := exists_executes_of_turnAt? hhead hturn
    exact hexecutes.stack_of_fault hfault

/-- Five blocks in order; where control goes is left to an executor. -/
def fiveBlocks : Assembly :=
  ⟨.dispatch, [], #[
    ⟨⟨10, none, "greet"⟩, .fallthrough, none, .unneeded, []⟩,
    ⟨⟨20, none, "count"⟩, .fallthrough, none, .unneeded, []⟩,
    ⟨⟨30, none, "ask"⟩, .fallthrough, none, .unneeded, []⟩,
    ⟨⟨40, none, "note"⟩, .fallthrough, none, .unneeded, []⟩,
    ⟨⟨50, none, "leave"⟩, .fallthrough, none, .unneeded, []⟩]⟩

/-- An executor that counts its blocks: two nested calls, a fault in the inner one after a return
was asked for, and then nothing but returns. -/
def nesting : Executor Nat := fun count _ _ =>
  (match count with
    | 0 => ⟨[.setHandler 50, .jump 20, .call 30], none⟩
    | 1 => ⟨[.ret, .call 50], none⟩
    | 2 => ⟨[.ret], some "no answer"⟩
    | _ => ⟨[.ret], none⟩, count + 1)

/-- The return of step 4 matches the call of step 0, which came from line 10, and control goes
back to line 20; the return there matches no call. -/
theorem returns_match_calls_nesting :
    fiveBlocks.mode = .dispatch ∧
      fiveBlocks.turnAt? .standard nesting 0 4 = some (40, ⟨[.ret], none⟩) ∧
      fiveBlocks.turnAt? .standard nesting 0 5 = some (20, ⟨[.ret], none⟩) ∧
      fiveBlocks.ResumesAt .standard nesting 0 4 (.line 20) ∧
      (∃ i caller called, fiveBlocks.MatchingCall .standard nesting 0 i 4 ∧
        fiveBlocks.turnAt? .standard nesting 0 i = some (caller, called) ∧
        .line 20 = Destination.ofSuccessor (fiveBlocks.successor? caller)) ∧
      fiveBlocks.ReturnFailsAt .standard nesting 0 20 5 := by
  have hturn : fiveBlocks.turnAt? .standard nesting 0 4 = some (40, ⟨[.ret], none⟩) := by
    decide +kernel
  have hlast : fiveBlocks.turnAt? .standard nesting 0 5 = some (20, ⟨[.ret], none⟩) := by
    decide +kernel
  have hhead : (fiveBlocks.head? .standard nesting 0 5).any
      (fun head => head.1.pc = .line 20 ∧ head.1.registers.stack.frames = []) = true := by
    decide +kernel
  obtain ⟨⟨head, y⟩, hhead, hplace⟩ := (Option.any_eq_true _ _).mp hhead
  obtain ⟨hpc, hempty⟩ := of_decide_eq_true hplace
  have hresumes : fiveBlocks.ResumesAt .standard nesting 0 4 (.line 20) := ⟨head, y, hhead, hpc⟩
  obtain ⟨hreturns, -⟩ := returns_match_calls fiveBlocks rfl .standard nesting 0
  refine ⟨rfl, hturn, hlast, hresumes, ((hreturns 4 40 _ hturn rfl).1 _).mp hresumes, ?_⟩
  rw [(hreturns 5 20 _ hlast rfl).2]
  rintro ⟨i, hmatch⟩
  exact hmatch.frames_ne_nil hhead hempty

end Assembly

end NumberedProse
