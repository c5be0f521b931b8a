import Mathlib.Tactic.Common
import NumberedProse.Proofs.FlowCoverage
import NumberedProse.Proofs.ListingRows

/-!
# The listing marks every landing

A listing sets off the blocks where a transfer can land.  It is written without running anything,
and `Assembly.listing_marks_landings` says that it agrees with every run by control: a line that a
run enters other than by falling through is marked, and a marked block is named by a block of the
assembly, or stands right after one that calls.

**What is written.**  A line is marked if its row, which stands below the head and the blocks
before, has a triangle between its number and its kind; it is left plain if the row has two blanks
there.  The text can be read in one way only, so every line of a block is one or the other
(`showsLine_iff`), and the marked ones are the landings (`marks_iff`).

**What is run.**  A jump or a call goes to the target of its block.  A return goes to the place
after a block that calls (`exists_caller`), and a fault to a handler that some block has installed
(`exists_installer`), however long ago.
-/

namespace NumberedProse

/-! ## Marks in the text -/

namespace Assembly

section

variable (assembly : Assembly)

/-- **How the listing shows a line:** below the head and the blocks before it stands the block of
the line, marked or not. -/
def ShowsLine (n : LineNumber) (marked : Bool) : Prop :=
  ∃ before block after above text below,
    assembly.blocks.toList = before ++ block :: after ∧ block.number = n ∧
    Block.Shows before above ∧ Block.Shown block marked text ∧
    assembly.listing = rule ++ assembly.head ++ rule ++ above ++ text ++ below

/-- **The listing marks a line:** its row has the triangle, and a rule stands above it. -/
def Marks (n : LineNumber) : Prop := assembly.ShowsLine n true

/-- The listing leaves a line plain: its row has two blanks in the place of the triangle. -/
def LeavesPlain (n : LineNumber) : Prop := assembly.ShowsLine n false

/-- **A line where a transfer can land:** the target of a block, the handler that a block installs,
or the line right after a block that calls. -/
def IsLanding (n : LineNumber) : Prop :=
  (∃ block ∈ assembly.blocks, block.control.target? = some n) ∨
  (∃ block ∈ assembly.blocks, block.handler = some n) ∨
  ∃ i block target, assembly.blocks[i]? = some block ∧ block.control = .call target ∧
    assembly.blocks[i + 1]?.map Block.number = some n

end

variable {assembly : Assembly} {n : LineNumber}

/-- The text of a listing around one of its blocks. -/
lemma listing_eq {before after : List Block} {block : Block}
    (h : assembly.blocks.toList = before ++ block :: after) :
    ∃ below, assembly.listing = rule ++ assembly.head ++ rule ++
      String.join (before.map fun block =>
        block.listing (assembly.landings.contains block.number)) ++
      block.listing (assembly.landings.contains block.number) ++ below := by
  refine ⟨String.join (after.map fun block =>
    block.listing (assembly.landings.contains block.number)), ?_⟩
  simp only [listing, h, List.map_append, List.map_cons, String.join_append, String.join_cons,
    String.append_assoc]

/-- **A listing shows a line in one way,** namely by whether it is among the landings. -/
theorem showsLine_iff {marked : Bool} :
    assembly.ShowsLine n marked ↔
      n ∈ assembly.numbers ∧ assembly.landings.contains n = marked := by
  constructor
  · rintro ⟨before, block, after, above, text, below, hblocks, rfl, habove, htext, heq⟩
    refine ⟨number_mem (Array.mem_toList_iff.mp (by simp [hblocks])), ?_⟩
    obtain ⟨rest, hrest⟩ := listing_eq hblocks
    rw [hrest] at heq
    generalize rule ++ assembly.head ++ rule = top at heq
    rw [← String.toList_inj] at heq
    simp only [String.toList_append, List.append_assoc, List.append_cancel_left_eq] at heq
    -- the blocks before are read in one way, so both readings of this block begin at one place
    have hbelow := (Block.shows_join before assembly.landings.contains).rest_unique habove heq
    exact (block.shown_listing _).marked_unique htext hbelow
  · rintro ⟨hn, rfl⟩
    obtain ⟨block, hblock, rfl⟩ := List.mem_map.mp hn
    obtain ⟨before, after, hblocks⟩ := List.append_of_mem hblock
    obtain ⟨below, hlisting⟩ := listing_eq hblocks
    exact ⟨before, block, after, _, _, below, hblocks, rfl,
      Block.shows_join before assembly.landings.contains, block.shown_listing _, hlisting⟩

/-- The marked lines are the landings that have a block. -/
lemma marks_iff : assembly.Marks n ↔ n ∈ assembly.numbers ∧ n ∈ assembly.landings := by
  rw [Marks, showsLine_iff, List.contains_iff_mem]

/-- The lines left plain are those of the other blocks. -/
lemma leavesPlain_iff : assembly.LeavesPlain n ↔ n ∈ assembly.numbers ∧ n ∉ assembly.landings := by
  rw [LeavesPlain, showsLine_iff, ← Bool.not_eq_true, List.contains_iff_mem]

/-! ## Landings -/

lemma mem_landings_iff : n ∈ assembly.landings ↔
    ∃ block ∈ assembly.blocks, block.control.target? = some n ∨ block.handler = some n ∨
      ∃ target, block.control = .call target ∧ assembly.successor? block.number = some n := by
  simp only [landings, List.mem_flatMap, Array.mem_toList_iff]
  refine exists_congr fun block => and_congr_right fun _ => ?_
  simp only [landingsOf, List.mem_append, Option.mem_toList, or_assoc]
  refine or_congr Iff.rfl (or_congr Iff.rfl ?_)
  cases block.control <;> simp

/-- The number of the block after a block that calls is found by the call's own number. -/
lemma Ordered.mem_landings_iff_isLanding (ordered : assembly.Ordered) :
    n ∈ assembly.landings ↔ assembly.IsLanding n := by
  have hnext : ∀ {i : Nat} {block : Block}, assembly.blocks[i]? = some block →
      assembly.successor? block.number = assembly.blocks[i + 1]?.map Block.number := by
    intro i block hblock
    exact Numbered.successor?_eq ordered (by rw [hblock]; rfl)
  rw [mem_landings_iff]
  constructor
  · rintro ⟨block, hblock, htarget | hhandler | ⟨target, hcall, hsuccessor⟩⟩
    · exact .inl ⟨block, hblock, htarget⟩
    · exact .inr (.inl ⟨block, hblock, hhandler⟩)
    · obtain ⟨i, hi⟩ := Array.mem_iff_getElem?.mp hblock
      exact .inr (.inr ⟨i, block, target, hi, hcall, by rw [← hnext hi, hsuccessor]⟩)
  · rintro (⟨block, hblock, htarget⟩ | ⟨block, hblock, hhandler⟩ |
      ⟨i, block, target, hi, hcall, hafter⟩)
    · exact ⟨block, hblock, .inl htarget⟩
    · exact ⟨block, hblock, .inr (.inl hhandler)⟩
    · exact ⟨block, Array.mem_of_getElem? hi, .inr (.inr ⟨target, hcall, by rw [hnext hi, hafter]⟩)⟩

end Assembly

/-! ## Landings of a run -/

/-- **A turn takes control away:** it jumps, calls or returns, or it fails.  Any other turn goes on
to the next line. -/
def Turn.Leaves (turn : Turn) : Prop :=
  (∃ target, turn.transfer? = some (.jump target)) ∨
  (∃ target, turn.transfer? = some (.call target)) ∨
  turn.transfer? = some .ret ∨ turn.fault ≠ none

lemma Turn.Leaves.transfer?_ne_none {turn : Turn} (h : turn.Leaves) (hfault : turn.fault = none) :
    turn.transfer? ≠ none := by
  rcases h with ⟨target, h⟩ | ⟨target, h⟩ | h | h
  · simp [h]
  · simp [h]
  · simp [h]
  · exact absurd hfault h

lemma Control.target?_of_jump {control : Control} {holds : Bool} {target : LineNumber}
    (h : control.transfer holds = some (.jump target)) : control.target? = some target := by
  cases control with
  | jump m =>
      cases h
      rfl
  | branch m predicate =>
      cases holds with
      | false => cases h
      | true =>
          cases h
          rfl
  | fallthrough => cases h
  | call m => cases h
  | ret => cases h

namespace Assembly

variable {π : Type} {assembly : Assembly} {limits : Limits} {decider : Decider π}
  {x y z : ControlState π} {i : Nat} {a b : LineNumber} {turn : Turn}
  {head next : MachineState}

/-- **A step that leaves its line goes to a landing.** -/
lemma mem_landings_of_leaves
    (hhead : assembly.head? limits (.byControl decider) x i = some (head, y))
    (hnext : assembly.head? limits (.byControl decider) x (i + 1) = some (next, z))
    (hturn : assembly.turnAt? limits (.byControl decider) x i = some (a, turn))
    (hleaves : turn.Leaves) (hpc : next.pc = .line b) : b ∈ assembly.landings := by
  obtain ⟨block, successor, w, hexecutes⟩ := exists_executes_of_turnAt? hhead hturn
  obtain ⟨hblock, -, -⟩ := locate?_eq_some hexecutes.located
  rw [mem_landings_iff]
  rcases hexecutes.moves_of_next (advance_of_head? hhead hnext) with
    ⟨hfault, hmoves⟩ | ⟨-, -, handler, hactive, hgoes⟩
  · obtain ⟨holds, hholds⟩ := hexecutes.transfer?_byControl hfault
    have hsome := hleaves.transfer?_ne_none hfault
    rw [hpc] at hmoves
    generalize turn.transfer? = transfer at hmoves hholds hsome
    generalize next.registers.stack = rest at hmoves
    generalize hplace : Destination.line b = place at hmoves
    cases hmoves with
    | onwards => exact absurd rfl hsome
    | jump target =>
        cases hplace
        exact ⟨block, hblock, .inl (Control.target?_of_jump hholds.symm)⟩
    | call target =>
        cases hplace
        exact ⟨block, hblock, .inl (by rw [Control.eq_call_of_transfer hholds.symm]; rfl)⟩
    | ret hpop =>
        subst hplace
        obtain ⟨-, -, -, target, caller, hcaller, hcall, -, hsuccessor⟩ := exists_caller hhead hpop
        exact ⟨caller, hcaller, .inr (.inr ⟨target, hcall, hsuccessor⟩)⟩
  · obtain rfl : b = handler := Destination.line.inj (hpc.symm.trans hgoes)
    obtain ⟨-, -, -, installer, hinstaller, hinstalls, -⟩ := exists_installer hnext hactive
    exact ⟨installer, hinstaller, .inr (.inl hinstalls)⟩

/-- **The listing marks every landing.**  In every run by control, a line that is entered by a jump,
a call, a return or a fault is among the landings, and the listing marks it.  The lines that it
marks are those of blocks that some block names as its target or installs as its handler, and of
blocks that stand right after one that calls; the lines of all other blocks it leaves plain. -/
theorem listing_marks_landings (ordered : assembly.Ordered) (hmode : assembly.mode = .dispatch)
    (limits : Limits) (decider : Decider π) (x : ControlState π) :
    (∀ visited i a b turn, assembly.Visits limits (.byControl decider) x visited →
      visited[i + 1]? = some b →
      assembly.turnAt? limits (.byControl decider) x i = some (a, turn) → turn.Leaves →
        b ∈ assembly.landings ∧ assembly.Marks b) ∧
    (∀ n, assembly.Marks n ↔ n ∈ assembly.numbers ∧ assembly.IsLanding n) ∧
    ∀ n, assembly.LeavesPlain n ↔ n ∈ assembly.numbers ∧ ¬ assembly.IsLanding n := by
  refine ⟨?_, fun n => by rw [marks_iff, ordered.mem_landings_iff_isLanding],
    fun n => by rw [leavesPlain_iff, ordered.mem_landings_iff_isLanding]⟩
  intro visited i a b turn hvisits hb hturn hleaves
  obtain ⟨later, hlater⟩ := hvisits.turnAt? hmode hb
  obtain ⟨next, z, _, _, _, hnext, hfollows⟩ := turnAt?_eq_some_iff.mp hlater
  obtain ⟨head, y, hhead⟩ := exists_head?_of_le (Nat.le_succ i) hnext
  have hlanding := mem_landings_of_leaves hhead hnext hturn hleaves hfollows.pc
  obtain ⟨hblock, hnumber, -⟩ := locate?_eq_some hfollows.located
  refine ⟨hlanding, marks_iff.mpr ⟨?_, hlanding⟩⟩
  rw [← hnumber]
  exact number_mem hblock

/-- Six blocks: the first installs a handler and calls, the others work, return and jump. -/
def detour : Assembly :=
  ⟨.dispatch, [], #[
    ⟨⟨10, none, "on error goto 50, call 30"⟩, .call 30, some 50, .unneeded, []⟩,
    ⟨⟨20, none, "goto 60"⟩, .jump 60, none, .unneeded, []⟩,
    ⟨⟨30, none, "work"⟩, .fallthrough, none, .unneeded, []⟩,
    ⟨⟨40, none, "return"⟩, .ret, none, .unneeded, []⟩,
    ⟨⟨50, none, "return"⟩, .ret, none, .unneeded, []⟩,
    ⟨⟨60, none, "rest"⟩, .fallthrough, none, .unneeded, []⟩]⟩

/-- With a fault in line 30, the run enters line 30 by the call, line 50 by the fault, line 20 by a
return and line 60 by a jump.  The listing marks these four and leaves lines 10 and 40 plain. -/
theorem listing_marks_landings_detour :
    detour.Ordered ∧ detour.mode = .dispatch ∧
      (∃ report, detour.run? .standard (.byControl (.taking [])) 6 ⟨(), [30]⟩ = some report ∧
        report.visited = [10, 30, 50, 20, 60]) ∧
      detour.Marks 30 ∧ detour.Marks 50 ∧ detour.Marks 20 ∧ detour.Marks 60 ∧
      ¬ detour.Marks 10 ∧ detour.LeavesPlain 10 ∧ ¬ detour.Marks 40 ∧ detour.LeavesPlain 40 := by
  have ordered : detour.Ordered := by
    unfold Ordered Numbered.Increasing
    decide
  have hrun : (detour.run? .standard (.byControl (.taking [])) 6 ⟨(), [30]⟩).any
      (fun report => report.visited = [10, 30, 50, 20, 60]) = true := by
    decide +kernel
  obtain ⟨report, hreport, hvisited⟩ := (Option.any_eq_true _ _).mp hrun
  have hvisited := of_decide_eq_true hvisited
  have hvisits : detour.Visits .standard (.byControl (.taking [])) ⟨(), [30]⟩
      [10, 30, 50, 20, 60] := Or.inr ⟨6, report, hreport, hvisited.symm⟩
  obtain ⟨hmarks, -⟩ := listing_marks_landings ordered rfl .standard (.taking []) ⟨(), [30]⟩
  refine ⟨ordered, rfl, ⟨report, hreport, hvisited⟩, ?_, ?_, ?_, ?_, ?_⟩
  · exact (hmarks _ 0 10 30 ⟨[.setHandler 50, .call 30], none⟩ hvisits rfl (by decide +kernel)
      (.inr (.inl ⟨30, rfl⟩))).2
  · exact (hmarks _ 1 30 50 ⟨[], some "injected fault at line 30"⟩ hvisits rfl (by decide +kernel)
      (.inr (.inr (.inr (by simp))))).2
  · exact (hmarks _ 2 50 20 ⟨[.ret], none⟩ hvisits rfl (by decide +kernel)
      (.inr (.inr (.inl rfl)))).2
  · exact (hmarks _ 3 20 60 ⟨[.jump 60], none⟩ hvisits rfl (by decide +kernel) (.inl ⟨60, rfl⟩)).2
  · simp only [marks_iff, leavesPlain_iff]
    decide +kernel

end Assembly

end NumberedProse
