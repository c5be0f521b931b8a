import Mathlib.Tactic.Common
import NumberedProse.Proofs.Compiled
import NumberedProse.Proofs.Turns

/-!
# Places and neighbours of a line

A program and its assembly each keep their own copy of the line numbers and search it by halves.
The machine looks the line up once more.  `Compilation.lookups_agree` says that they all give the
answers that can be read off the list of the line numbers.

**Places.**  The search finds what a scan from the first line on would find (`Numbered.isPlace`).

**Neighbours.**  The successor of a line is the least larger line number, and only the last line has
none (`Numbered.isNext`).

**The machine.**  From a line control falls through to the successor, and a call made there comes
back to it (`Assembly.LeadsOn`), whatever the executor.
-/

namespace NumberedProse

/-! ## Answers read off the list of numbers -/

/-- **The place of a number in a list:** the answer of a scan from the front. -/
structure IsPlace (numbers : List LineNumber) (n : LineNumber) (answer : Option Nat) : Prop where
  isSome_iff : answer.isSome ↔ n ∈ numbers
  eq_some_iff : ∀ i, answer = some i ↔ numbers[i]? = some n
  eq_scan : answer = numbers.idxOf? n

/-- **The number that follows in a list:** the least larger one.  The last number has none, and
neither has a number that is not in the list. -/
structure IsNext (numbers : List LineNumber) (n : LineNumber) (answer : Option LineNumber) :
    Prop where
  eq_some_iff : ∀ m, answer = some m ↔
    n ∈ numbers ∧ m ∈ numbers ∧ n < m ∧ ∀ k ∈ numbers, n < k → m ≤ k
  eq_none_iff : answer = none ↔ n ∉ numbers ∨ numbers.getLast? = some n

namespace Numbered

variable {α : Type} {number : α → LineNumber} {items : Array α}

lemma getElem?_numbers (i : Nat) : (items.toList.map number)[i]? = items[i]?.map number := by
  rw [List.getElem?_map, Array.getElem?_toList]

/-- **The search by halves answers as a scan does.** -/
theorem isPlace (h : Increasing number items) (n : LineNumber) :
    IsPlace (items.toList.map number) n (position? number items n) := by
  have hsome : (position? number items n).isSome ↔ n ∈ items.toList.map number :=
    position?_isSome_iff h
  have hplace : ∀ i, position? number items n = some i ↔
      (items.toList.map number)[i]? = some n := by
    intro i
    rw [getElem?_numbers, position?_eq_some_iff h]
  refine ⟨hsome, hplace, ?_⟩
  cases hscan : (items.toList.map number).idxOf? n with
  | none =>
      have hn := List.idxOf?_eq_none_iff.mp hscan
      exact Option.not_isSome_iff_eq_none.mp (mt hsome.mp hn)
  | some i =>
      obtain ⟨hlt, hget, -⟩ := List.idxOf?_eq_some_iff.mp hscan
      rw [hplace, List.getElem?_eq_getElem hlt, hget]

/-- The last entry is the one whose number the list of numbers ends with. -/
lemma last_iff (h : Increasing number items) {i : Nat} (hi : i < items.size) :
    (items.toList.map number).getLast? = some (number items[i]) ↔ i + 1 = items.size := by
  have hlast : items.size - 1 < items.size := by omega
  rw [List.getLast?_eq_getElem?, List.length_map, Array.length_toList, getElem?_numbers,
    Array.getElem?_eq_getElem hlast, Option.map_some, Option.some.injEq]
  constructor
  · intro heq
    by_contra hne
    have hlt := h.lt hi hlast (by omega)
    rw [heq] at hlt
    exact absurd hlt (UInt32.lt_irrefl _)
  · intro heq
    have hsame : items.size - 1 = i := by omega
    simp only [hsame]

/-- **The successor is the next number in order.** -/
theorem isNext (h : Increasing number items) (n : LineNumber) :
    IsNext (items.toList.map number) n (successor? number items n) := by
  by_cases hn : n ∈ items.toList.map number
  · refine ⟨fun m => ?_, ?_⟩
    · rw [successor?_eq_some_iff h hn, and_iff_right hn]
    · obtain ⟨i, hi, rfl⟩ := mem_numbers_iff.mp hn
      rw [successor?_eq h (by simp [hi] : items[i]?.map number = some (number items[i])),
        or_iff_right (not_not_intro hn), last_iff h hi, Option.map_eq_none_iff,
        Array.getElem?_eq_none_iff]
      omega
  · have hnone : position? number items n = none :=
      Option.not_isSome_iff_eq_none.mp (mt (position?_isSome_iff h).mp hn)
    have hnext : successor? number items n = none := by rw [successor?, hnone, Option.bind_none]
    rw [hnext]
    exact ⟨fun m => by simp [hn], by simp [hn]⟩

end Numbered

/-! ## The machine -/

namespace Assembly

/-- **A line leads on to a place:** wherever the machine stands at the line and may take a step, it
finds the line's block; control falls through to the place, and a call comes back to it. -/
structure LeadsOn (assembly : Assembly) (n : LineNumber) (place : Destination) : Prop where
  executes : ∀ {σ : Type} (limits : Limits) (executor : Executor σ) (head : MachineState) (x : σ),
    head.pc = .line n → limits.exceeded? (head.steps + 1) = none →
      ∃ block turn y, block.number = n ∧
        assembly.Executes limits executor head x n block place turn y
  falls : ∀ {σ : Type} {limits : Limits} {executor : Executor σ} {head : MachineState} {x y : σ}
    {block : Block} {successor : Destination} {turn : Turn},
    assembly.Executes limits executor head x n block successor turn y →
      turn.fault = none → turn.transfer? = none →
        ∃ next, assembly.advance limits executor head x = .next next y ∧ next.pc = place ∧
          next.registers.stack = head.registers.stack
  resumes : ∀ {σ : Type} {limits : Limits} {executor : Executor σ} {head : MachineState} {x y : σ}
    {block : Block} {successor : Destination} {turn : Turn} {target : LineNumber},
    assembly.Executes limits executor head x n block successor turn y →
      turn.transfer? = some (.call target) → head.registers.stack.depth < limits.depth →
        ∃ next, assembly.advance limits executor head x = .next next y ∧
          next.pc = .line target ∧
          next.registers.stack.frames = head.registers.stack.frames ++ [place]

variable {assembly : Assembly} {n : LineNumber}

/-- **Every line leads on to its successor.** -/
theorem Ordered.leadsOn (ordered : assembly.Ordered) (hn : n ∈ assembly.numbers) :
    assembly.LeadsOn n (.ofSuccessor (assembly.successor? n)) where
  executes limits executor head x hpc hwithin := by
    obtain ⟨block, successor, hlocate⟩ := ordered.exists_locate? hn
    obtain ⟨-, hnumber, rfl⟩ := locate?_eq_some hlocate
    exact ⟨block, _, _, hnumber, hpc, hwithin, hlocate, rfl⟩
  falls {_ _ _ head _ _ _ _ turn} h hfault htransfer := by
    obtain ⟨-, -, rfl⟩ := locate?_eq_some h.located
    refine ⟨(head.afterTurn n turn).goTo _, ?_, rfl, rfl⟩
    rw [h.advance_eq, head.effect_transfer n hfault, htransfer, hfault]
    rfl
  resumes {_ limits _ head _ _ _ _ turn target} h hcall hroom := by
    obtain ⟨-, -, rfl⟩ := locate?_eq_some h.located
    have hfault := Turn.fault_eq_none hcall
    have hbelow : ¬ limits.depth ≤ (head.afterTurn n turn).registers.stack.depth :=
      Nat.not_le.mpr hroom
    refine ⟨{ head.afterTurn n turn with
      pc := .line target
      registers :=
        (head.afterTurn n turn).registers.push (.ofSuccessor (assembly.successor? n)) }, ?_, rfl,
      CallStack.frames_push head.registers.stack _⟩
    rw [h.advance_eq, head.effect_transfer n hfault, hcall, hfault]
    simp only [MachineState.settle, MachineState.follow, if_neg hbelow]

end Assembly

/-! ## A source that compiles -/

namespace Compilation

/-- **All lookups agree.**  Of a source that compiles, the program and the assembly find every line
number at its place, as a scan would, and no other number.  Both answer with the least larger line
number as the successor of a line that is not the last, and with none otherwise.  The machine falls
through to this successor, and calls made at the line come back to it. -/
theorem lookups_agree {σ : Type} {source : String} {table : ResourceTable}
    {translator : Translator σ} {switch : CancelSwitch} {state : σ} {compilation : Compilation}
    (h : (ofSource source table translator switch state).result = .ok compilation) :
    ∃ program, Program.parse source = .ok program ∧ ∀ n,
      IsPlace program.numbers n (program.position? n) ∧
      IsPlace program.numbers n (compilation.assembly.position? n) ∧
      IsNext program.numbers n (program.successor? n) ∧
      IsNext program.numbers n (compilation.assembly.successor? n) ∧
      (n ∈ program.numbers →
        compilation.assembly.LeadsOn n (.ofSuccessor (program.successor? n))) := by
  obtain ⟨analysis, hanalysis, hcompile⟩ := exists_compile_of_ofSource h
  have checked := Analysis.checked_of_ofSource hanalysis
  obtain ⟨yields, -⟩ := checked.yields hcompile
  refine ⟨analysis.program, (Analysis.parse_of_ofSource hanalysis).1, fun n => ?_⟩
  have hplace := Numbered.isPlace yields.ordered n
  have hnext := Numbered.isNext yields.ordered n
  have hnumbers : compilation.assembly.blocks.toList.map Block.number = analysis.program.numbers :=
    yields.numbers_eq
  rw [hnumbers] at hplace hnext
  refine ⟨Numbered.isPlace analysis.program.increasing n, hplace,
    Numbered.isNext analysis.program.increasing n, hnext, fun hn => ?_⟩
  rw [← yields.successor?_eq]
  exact yields.ordered.leadsOn (by rwa [yields.numbers_eq])

/-- Lines written in another order and with gaps. -/
def gappedSource : String := "70 print done\n10 gosub 70\n35 goto 10"

/-- Line 35 stands at place 1 and leads on to line 70; 20 is no line; line 70 is the last. -/
theorem lookups_agree_gappedSource :
    ∃ compilation program, (ofSource gappedSource .empty .echo .absent ()).result =
        .ok compilation ∧
      Program.parse gappedSource = .ok program ∧ program.numbers = [10, 35, 70] ∧
      compilation.assembly.position? 35 = some 1 ∧ compilation.assembly.position? 20 = none ∧
      compilation.assembly.successor? 35 = some 70 ∧ compilation.assembly.successor? 70 = none ∧
      compilation.assembly.LeadsOn 35 (.line 70) ∧ compilation.assembly.LeadsOn 70 .halt := by
  have hok : (ofSource gappedSource .empty .echo .absent ()).result.toOption.any
      (fun _ => true) = true := by decide +kernel
  have hparses : (Program.parse gappedSource).toOption.any
      (fun program => program.numbers = [10, 35, 70]) = true := by decide +kernel
  obtain ⟨compilation, hresult, -⟩ := exists_ok_of_any hok
  obtain ⟨parsed, hparsed, hnumbers⟩ := exists_ok_of_any hparses
  have hnumbers := of_decide_eq_true hnumbers
  obtain ⟨program, hprogram, hagree⟩ := lookups_agree hresult
  rw [hparsed] at hprogram
  cases hprogram
  simp only [hnumbers] at hagree
  obtain ⟨-, hplace, hsuccessor, hnext, hleads⟩ := hagree 35
  obtain ⟨-, hmissing, -⟩ := hagree 20
  obtain ⟨-, -, hnone, hlast, hends⟩ := hagree 70
  rw [(hsuccessor.eq_some_iff 70).mpr (by simp)] at hleads
  rw [hnone.eq_none_iff.mpr (by decide)] at hends
  refine ⟨compilation, parsed, hresult, hparsed, hnumbers, (hplace.eq_some_iff 1).mpr rfl, ?_,
    (hnext.eq_some_iff 70).mpr (by simp), hlast.eq_none_iff.mpr (by decide),
    hleads (by decide), hends (by decide)⟩
  rw [hmissing.eq_scan]
  rfl

end Compilation

end NumberedProse
