import Mathlib.Logic.Function.Iterate
import Mathlib.Order.Bounds.Defs
import Mathlib.Tactic.Common
import NumberedProse.Proofs.CalledLines

/-!
# The least set that calls lead to

The warnings rest on a search: it begins with the targets of all calls and follows every line to
where control can go from there.  Here the lines it finds are known without the search, for every
list of controls whose edges lead to lines of the program.  Entries may be missing, come twice, or
stand in any order.

**What is sought.**  `Program.CallClosed` says of a set of lines that it holds the targets of all
calls and is closed under continuation.  Of several entries for one line the last one counts
(`LineControl.IsLast`).

**What is found.**  The walk is the least such set (`FlowGraph.isLeast_calledLines`): it is one, and
whatever it holds is in all of them (`mem_of_mem_walk`).

**The search ends.**  `Search` is the search as a loop: lines are taken from the front of a queue,
and the lines they lead to are put at its end unless they have been taken already.  The queue may
grow at any turn, but each line lets it grow once.  `Search.exists_iterate_turn` bounds the turns
and says that the loop takes the lines of the walk.
-/

namespace NumberedProse

/-! ## The entry that counts -/

namespace LineControl

/-- **The entry that counts for its line:** no later one has the same number. -/
def IsLast (controls : List LineControl) (c : LineControl) : Prop :=
  ∃ before after, controls = before ++ c :: after ∧ ∀ d ∈ after, d.number ≠ c.number

lemma IsLast.mem {controls : List LineControl} {c : LineControl} (h : IsLast controls c) :
    c ∈ controls := by
  obtain ⟨before, after, rfl, -⟩ := h
  simp

lemma lookup?_eq_some_iff {controls : List LineControl} {line : LineNumber} {c : LineControl} :
    lookup? controls line = some c ↔ IsLast controls c ∧ c.number = line := by
  rw [lookup?, List.find?_eq_some_iff_append]
  constructor
  · rintro ⟨hnumber, later, earlier, hreverse, hlater⟩
    obtain rfl : c.number = line := by simpa using hnumber
    refine ⟨⟨earlier.reverse, later.reverse, ?_, ?_⟩, rfl⟩
    · simpa using congrArg List.reverse hreverse
    · intro d hd
      simpa using hlater d (List.mem_reverse.mp hd)
  · rintro ⟨⟨before, after, rfl, hafter⟩, rfl⟩
    refine ⟨by simp, after.reverse, before.reverse, by simp, ?_⟩
    intro d hd
    simpa using hafter d (List.mem_reverse.mp hd)

/-- Where a line leads, by the entry that counts for it. -/
def onwardFrom (program : Program) (controls : List LineControl) (line : LineNumber) :
    List LineNumber :=
  match lookup? controls line with
  | some c => c.continuations program
  | none => []

lemma mem_onwardFrom_iff {program : Program} {controls : List LineControl}
    {line n : LineNumber} :
    n ∈ onwardFrom program controls line ↔
      ∃ c, IsLast controls c ∧ c.number = line ∧ n ∈ c.continuations program := by
  simp only [onwardFrom]
  split
  · next c hc =>
      obtain ⟨hlast, hnumber⟩ := lookup?_eq_some_iff.mp hc
      constructor
      · intro hn
        exact ⟨c, hlast, hnumber, hn⟩
      · rintro ⟨d, hd, hdnumber, hn⟩
        rw [lookup?_eq_some_iff.mpr ⟨hd, hdnumber⟩] at hc
        cases hc
        exact hn
  · next hnone =>
      constructor
      · intro hn
        cases hn
      · rintro ⟨d, hd, hdnumber, -⟩
        rw [lookup?_eq_some_iff.mpr ⟨hd, hdnumber⟩] at hnone
        cases hnone

end LineControl

/-! ## Sets that calls cannot leave -/

open LineControl in
/-- **A set of lines that holds all that calls can lead to:** the targets of all calls, and with
every line the places where control can go from there.  A call comes back to the next line, and an
error handler can be reached from the line that installs it. -/
structure Program.CallClosed (program : Program) (controls : List LineControl)
    (lines : Set LineNumber) : Prop where
  call : ∀ c ∈ controls, ∀ target, c.control = .call target → target ∈ lines
  onward : ∀ c, IsLast controls c → c.number ∈ lines →
    (c.control = .fallthrough ∨ (∃ target, c.control = .call target) ∨
      ∃ target predicate, c.control = .branch target predicate) →
    ∀ n, program.successor? c.number = some n → n ∈ lines
  target : ∀ c, IsLast controls c → c.number ∈ lines → ∀ n,
    (c.control = .jump n ∨ ∃ predicate, c.control = .branch n predicate) → n ∈ lines
  handler : ∀ c, IsLast controls c → c.number ∈ lines → ∀ n, c.handler = some n → n ∈ lines

lemma LineControl.mem_continuations_iff {program : Program} {c : LineControl} {n : LineNumber} :
    n ∈ c.continuations program ↔
      ((c.control = .fallthrough ∨ (∃ target, c.control = .call target) ∨
          ∃ target predicate, c.control = .branch target predicate) ∧
        program.successor? c.number = some n) ∨
      (c.control = .jump n ∨ ∃ predicate, c.control = .branch n predicate) ∨
      c.handler = some n := by
  rw [continuations, List.mem_append, Option.mem_toList, ← or_assoc]
  refine or_congr ?_ Iff.rfl
  cases c.control with
  | fallthrough => simp
  | jump target => simp [eq_comm]
  | branch target predicate => simp [or_comm, eq_comm]
  | call target => simp
  | ret => simp

/-- The targets of all calls, where the search begins. -/
def FlowGraph.callTargets (graph : FlowGraph) : List LineNumber :=
  (graph.edgesOfKind .call).map Edge.target

lemma FlowGraph.mem_callTargets_iff {controls : List LineControl} {target : LineNumber} :
    target ∈ (ofControls controls).callTargets ↔ ∃ c ∈ controls, c.control = .call target := by
  simp only [callTargets, edgesOfKind, List.mem_map, List.mem_filter, beq_iff_eq]
  constructor
  · rintro ⟨e, ⟨hedge, hkind⟩, rfl⟩
    obtain ⟨c, hc, he⟩ := List.mem_flatMap.mp hedge
    refine ⟨c, hc, ?_⟩
    rcases List.mem_append.mp he with he | he
    · obtain ⟨handler, -, rfl⟩ := Option.map_eq_some_iff.mp (Option.mem_toList.mp he)
      cases hkind
    · rw [Option.mem_toList] at he
      cases hcontrol : c.control <;> simp only [hcontrol, Control.edge?] at he <;> cases he
      · cases hkind
      · cases hkind
      · rfl
  · rintro ⟨c, hc, hcall⟩
    exact ⟨_, ⟨mem_ofControls_of_call hc hcall, rfl⟩, rfl⟩

/-- **Closed sets, as the search sees them:** they hold the queue it begins with and all that their
lines lead to. -/
lemma Program.callClosed_iff {program : Program} {controls : List LineControl}
    {lines : Set LineNumber} :
    program.CallClosed controls lines ↔
      (∀ n ∈ (FlowGraph.ofControls controls).callTargets, n ∈ lines) ∧
      ∀ line ∈ lines, ∀ n ∈ LineControl.onwardFrom program controls line, n ∈ lines := by
  simp only [FlowGraph.mem_callTargets_iff, LineControl.mem_onwardFrom_iff]
  constructor
  · intro closed
    constructor
    · rintro n ⟨c, hc, hcall⟩
      exact closed.call c hc n hcall
    · rintro line hline n ⟨c, hlast, rfl, hn⟩
      rcases LineControl.mem_continuations_iff.mp hn with ⟨hleads, hnext⟩ | htarget | hhandler
      · exact closed.onward c hlast hline hleads n hnext
      · exact closed.target c hlast hline n htarget
      · exact closed.handler c hlast hline n hhandler
  · rintro ⟨hcalls, honward⟩
    have hcontinues : ∀ c, LineControl.IsLast controls c → c.number ∈ lines →
        ∀ n ∈ c.continuations program, n ∈ lines :=
      fun c hlast hline n hn => honward c.number hline n ⟨c, hlast, rfl, hn⟩
    refine ⟨fun c hc target hcall => hcalls target ⟨c, hc, hcall⟩, ?_, ?_, ?_⟩
    · intro c hlast hline hleads n hnext
      exact hcontinues c hlast hline n
        (LineControl.mem_continuations_iff.mpr (Or.inl ⟨hleads, hnext⟩))
    · intro c hlast hline n htarget
      exact hcontinues c hlast hline n
        (LineControl.mem_continuations_iff.mpr (Or.inr (Or.inl htarget)))
    · intro c hlast hline n hhandler
      exact hcontinues c hlast hline n
        (LineControl.mem_continuations_iff.mpr (Or.inr (Or.inr hhandler)))

/-! ## The walk is the least of them -/

/-- **The walk goes nowhere else:** a set that holds the queue and all that its lines lead to holds
the walk. -/
lemma mem_of_mem_walk {next : LineNumber → List LineNumber} {unseen queue : List LineNumber}
    {lines : Set LineNumber} (hqueue : ∀ n ∈ queue, n ∈ lines)
    (hclosed : ∀ line ∈ lines, ∀ n ∈ next line, n ∈ lines) {line : LineNumber}
    (h : line ∈ walk next unseen queue) : line ∈ lines := by
  fun_induction walk next unseen queue with
  | case1 unseen => cases h
  | case2 unseen first queue hfirst hwork ih =>
      have hin : first ∈ lines := hqueue first List.mem_cons_self
      rcases List.mem_cons.mp h with rfl | hlater
      · exact hin
      · refine ih ?_ hlater
        intro n hn
        rcases List.mem_append.mp hn with hold | hnew
        · exact hqueue n (List.mem_cons_of_mem _ hold)
        · exact hclosed first hin n hnew
  | case3 unseen first queue hfirst ih =>
      exact ih (fun n hn => hqueue n (List.mem_cons_of_mem _ hn)) h

namespace FlowGraph

lemma calledLines_eq (graph : FlowGraph) (program : Program) (controls : List LineControl) :
    graph.calledLines program controls =
      walk (LineControl.onwardFrom program controls) program.numbers graph.callTargets :=
  rfl

variable {program : Program} {controls : List LineControl}
  (resolved : ∀ e ∈ (ofControls controls).edges, e.target ∈ program.numbers)
include resolved

lemma callTargets_mem : ∀ n ∈ (ofControls controls).callTargets, n ∈ program.numbers := by
  intro n hn
  obtain ⟨c, hc, hcall⟩ := mem_callTargets_iff.mp hn
  exact resolved _ (mem_ofControls_of_call hc hcall)

lemma onwardFrom_mem (line : LineNumber) :
    ∀ n ∈ LineControl.onwardFrom program controls line, n ∈ program.numbers := by
  intro n hn
  obtain ⟨c, hlast, -, hcontinues⟩ := LineControl.mem_onwardFrom_iff.mp hn
  exact continuations_mem resolved hlast.mem hcontinues

/-- **The called lines are the least closed set.** -/
theorem isLeast_calledLines :
    IsLeast {lines : Set LineNumber | program.CallClosed controls lines}
      {n | n ∈ (ofControls controls).calledLines program controls} := by
  rw [calledLines_eq]
  constructor
  · refine Program.callClosed_iff.mpr ⟨?_, ?_⟩
    · intro n hn
      exact mem_walk_of_mem_queue hn (callTargets_mem resolved n hn)
    · intro line hline n hn
      exact walk_closed hline hn (onwardFrom_mem resolved line n hn)
  · intro lines closed n hn
    obtain ⟨hcalls, honward⟩ := Program.callClosed_iff.mp closed
    exact mem_of_mem_walk hcalls honward hn

end FlowGraph

/-! ## The search as a loop -/

/-- **A search on its way:** the lines it has taken, in the order it took them, and the queue. -/
structure Search where
  taken : List LineNumber
  queue : List LineNumber
deriving Repr, DecidableEq

namespace Search

/-- The search before its first turn. -/
def start (roots : List LineNumber) : Search := ⟨[], roots⟩

/-- **One turn of the loop.**  A line that was taken before is dropped; any other is taken, and the
lines it leads to that have not been taken join the queue.  Without a queue nothing happens. -/
def turn (next : LineNumber → List LineNumber) (search : Search) : Search :=
  match search.queue with
  | [] => search
  | line :: queue =>
      if line ∈ search.taken then { search with queue := queue }
      else
        let taken := search.taken ++ [line]
        ⟨taken, queue ++ (next line).filter (· ∉ taken)⟩

/-- A queue and the same queue without some lines that have been taken. -/
inductive Thins (taken : List LineNumber) : List LineNumber → List LineNumber → Prop where
  | nil : Thins taken [] []
  | keep (line : LineNumber) {queue thin : List LineNumber} (h : Thins taken queue thin) :
      Thins taken (line :: queue) (line :: thin)
  | drop {line : LineNumber} {queue thin : List LineNumber} (hline : line ∈ taken)
      (h : Thins taken queue thin) : Thins taken (line :: queue) thin

namespace Thins

variable {taken queue thin : List LineNumber}

lemma refl (taken queue : List LineNumber) : Thins taken queue queue := by
  induction queue with
  | nil => exact .nil
  | cons line rest ih => exact .keep line ih

lemma mono {more : List LineNumber} (hmore : ∀ n ∈ taken, n ∈ more) (h : Thins taken queue thin) :
    Thins more queue thin := by
  induction h with
  | nil => exact .nil
  | keep line _ ih => exact .keep line ih
  | drop hline _ ih => exact .drop (hmore _ hline) ih

lemma append_filter (h : Thins taken queue thin) (lines : List LineNumber) :
    Thins taken (queue ++ lines) (thin ++ lines.filter (· ∉ taken)) := by
  induction h with
  | nil =>
      induction lines with
      | nil => exact .nil
      | cons line rest ih =>
          by_cases hline : line ∈ taken
          · simpa [hline] using Thins.drop hline ih
          · simpa [hline] using Thins.keep line ih
  | keep line _ ih => exact .keep line ih
  | drop hline _ ih => exact .drop hline ih

end Thins

/-- **The loop ends with the walk.**  From any state on, it takes the lines that the walk lists from
there, and its queue is empty after at most as many turns as the walk has work to do.  The induction
is along the walk; the queue of the loop is that of the walk without some lines that were taken. -/
lemma exists_iterate_turn {next : LineNumber → List LineNumber} {numbers : List LineNumber}
    (hnext : ∀ line, ∀ n ∈ next line, n ∈ numbers) {unseen queue : List LineNumber}
    (hunseen : unseen.Nodup) (hqueue : ∀ n ∈ queue, n ∈ numbers) {taken thin : List LineNumber}
    (hsplit : ∀ n ∈ numbers, n ∈ unseen ↔ n ∉ taken) (hthin : Thins taken queue thin) :
    ∃ turns ≤ work next unseen + queue.length,
      (turn next)^[turns] ⟨taken, thin⟩ = ⟨taken ++ walk next unseen queue, []⟩ := by
  fun_induction walk next unseen queue generalizing taken thin with
  | case1 unseen =>
      cases hthin
      exact ⟨0, Nat.zero_le _, by simp⟩
  | case2 unseen line queue hline hwork ih =>
      have hin : line ∈ numbers := hqueue line List.mem_cons_self
      have hfresh : line ∉ taken := (hsplit line hin).mp hline
      cases hthin with
      | drop htaken => exact absurd htaken hfresh
      | keep _ hrest =>
          rename_i thin
          have hmore : ∀ n ∈ queue ++ next line, n ∈ numbers := by
            intro n hn
            rcases List.mem_append.mp hn with hold | hnew
            · exact hqueue n (List.mem_cons_of_mem _ hold)
            · exact hnext line n hnew
          have hsplit' : ∀ n ∈ numbers, n ∈ unseen.erase line ↔ n ∉ taken ++ [line] := by
            intro n hn
            rw [hunseen.mem_erase_iff, hsplit n hn]
            simp only [List.mem_append, List.mem_singleton, not_or]
            exact and_comm
          have hthin' : Thins (taken ++ [line]) (queue ++ next line)
              (thin ++ (next line).filter (· ∉ taken ++ [line])) :=
            (hrest.mono fun n hn => List.mem_append_left _ hn).append_filter _
          obtain ⟨turns, hturns, hends⟩ := ih (hunseen.erase line) hmore hsplit' hthin'
          refine ⟨turns + 1, ?_, ?_⟩
          · rw [List.length_append] at hturns
            rw [List.length_cons]
            omega
          · have hturn : turn next ⟨taken, line :: thin⟩ =
                ⟨taken ++ [line], thin ++ (next line).filter (· ∉ taken ++ [line])⟩ := by
              simp only [turn, if_neg hfresh]
            rw [Function.iterate_succ_apply, hturn, hends, List.append_assoc]
            rfl
  | case3 unseen line queue hline ih =>
      have hin : line ∈ numbers := hqueue line List.mem_cons_self
      have htaken : line ∈ taken := by
        by_contra hfresh
        exact hline ((hsplit line hin).mpr hfresh)
      have hrest : ∀ n ∈ queue, n ∈ numbers := fun n hn => hqueue n (List.mem_cons_of_mem _ hn)
      cases hthin with
      | drop _ hthin =>
          obtain ⟨turns, hturns, hends⟩ := ih hunseen hrest hsplit hthin
          refine ⟨turns, ?_, hends⟩
          rw [List.length_cons]
          omega
      | keep _ hthin =>
          obtain ⟨turns, hturns, hends⟩ := ih hunseen hrest hsplit hthin
          refine ⟨turns + 1, ?_, ?_⟩
          · rw [List.length_cons]
            omega
          · rw [Function.iterate_succ_apply, turn]
            simpa only [if_pos htaken] using hends

end Search

/-! ## The warnings -/

namespace FlowGraph

lemma exists_search {program : Program} {controls : List LineControl}
    (resolved : ∀ e ∈ (ofControls controls).edges, e.target ∈ program.numbers) :
    ∃ turns ≤ work (LineControl.onwardFrom program controls) program.numbers +
        (ofControls controls).callTargets.length,
      (Search.turn (LineControl.onwardFrom program controls))^[turns]
          (.start (ofControls controls).callTargets) =
        ⟨(ofControls controls).calledLines program controls, []⟩ :=
  Search.exists_iterate_turn (onwardFrom_mem resolved) program.nodup_numbers
    (callTargets_mem resolved) (fun n hn => by simpa using hn) (.refl [] _)

end FlowGraph

namespace Flow

lemma build_eq_ok {program : Program} {controls : List LineControl} {flow : Flow}
    (h : build program controls = .ok flow) :
    (∀ e ∈ (FlowGraph.ofControls controls).edges, e.target ∈ program.numbers) ∧
      flow.warnings = (FlowGraph.ofControls controls).unreachableReturns program controls := by
  simp only [build] at h
  split at h
  · next hunresolved =>
      cases h
      exact ⟨Analysis.resolved_of_unresolved_eq_nil hunresolved, rfl⟩
  · cases h

/-- **The warnings are the returns outside the least closed set.**  Whenever a flow graph can be
built, the search for called lines comes to its end, the lines it has taken are the least set that
holds the targets of all calls and is closed under continuation, and the warnings are the entries
that return from a line outside this set, in the order of the list. -/
theorem warnings_outside_least_closed {program : Program} {controls : List LineControl}
    {flow : Flow} (h : build program controls = .ok flow) :
    ∃ called : List LineNumber,
      (∃ turns ≤ work (LineControl.onwardFrom program controls) program.numbers +
          (FlowGraph.ofControls controls).callTargets.length,
        (Search.turn (LineControl.onwardFrom program controls))^[turns]
          (.start (FlowGraph.ofControls controls).callTargets) = ⟨called, []⟩) ∧
      IsLeast {lines : Set LineNumber | program.CallClosed controls lines} {n | n ∈ called} ∧
      flow.warnings = (controls.filter fun c => c.control = .ret ∧ c.number ∉ called).map
        fun c => .unreachableReturn c.number := by
  obtain ⟨resolved, hwarnings⟩ := build_eq_ok h
  refine ⟨_, FlowGraph.exists_search resolved, FlowGraph.isLeast_calledLines resolved, ?_⟩
  rw [hwarnings, FlowGraph.unreachableReturns]
  congr 1
  refine List.filter_congr fun c _ => ?_
  simp [Bool.beq_eq_decide_eq]

/-- Seven lines; what they do is left to the entries. -/
def sevenLines : Program where
  lines := #[⟨10, none, "greet"⟩, ⟨20, none, "count"⟩, ⟨30, none, "ask"⟩, ⟨40, none, "note"⟩,
    ⟨50, none, "sum up"⟩, ⟨60, none, "excuse"⟩, ⟨70, none, "leave"⟩]
  increasing := by decide
  nonempty := by decide

/-- Entries in no order: line 20 has none, lines 30 and 70 have two, and there is no line 99.  Calls
lead to 30, from there into a loop with 40, and to the handler at 60. -/
def strayEntries : List LineControl := [
  ⟨70, .ret, none⟩, ⟨30, .ret, none⟩, ⟨10, .call 30, none⟩, ⟨40, .jump 30, none⟩,
  ⟨30, .branch 40 "unsure", some 60⟩, ⟨99, .ret, none⟩, ⟨60, .ret, none⟩, ⟨50, .ret, none⟩,
  ⟨70, .ret, none⟩]

/-- Both entries for line 70 draw a warning, and so do the lines 99 and 50, but not line 30, whose
first entry is a return as well. -/
theorem warnings_outside_least_closed_strayEntries :
    ∃ flow, build sevenLines strayEntries = .ok flow ∧
      flow.warnings = [.unreachableReturn 70, .unreachableReturn 99, .unreachableReturn 50,
        .unreachableReturn 70] ∧
      ∃ called : List LineNumber,
        IsLeast {lines : Set LineNumber | sevenLines.CallClosed strayEntries lines}
          {n | n ∈ called} ∧
        flow.warnings = (strayEntries.filter fun c => c.control = .ret ∧ c.number ∉ called).map
          fun c => .unreachableReturn c.number := by
  have hbuilds : (build sevenLines strayEntries).toOption.any (fun flow =>
      flow.warnings = [.unreachableReturn 70, .unreachableReturn 99, .unreachableReturn 50,
        .unreachableReturn 70]) = true := by decide +kernel
  obtain ⟨flow, hflow, hwarnings⟩ := exists_ok_of_any hbuilds
  obtain ⟨called, -, hleast, hexact⟩ := warnings_outside_least_closed hflow
  exact ⟨flow, hflow, by simpa using hwarnings, called, hleast, hexact⟩

end Flow

end NumberedProse
