import Mathlib.Data.List.Nodup
import Mathlib.Data.List.Perm.Basic
import Mathlib.Data.List.Sort
import Mathlib.Tactic.Common
import NumberedProse.Proofs.Compiled

/-!
# Every faulty line gets its verdict

The checks of control run in two passes.  The first reads each line and sets the faulty ones aside
as lines that fall through; the second looks for edges that lead nowhere.  Their findings are put
together and sorted only if the second pass has any.

`Program.verdict?` says what is wrong with a line in one piece, from its cues and the numbers of
the program.  The report of the two passes is the list of these verdicts, line by line in program
order (`Analysis.ofProgram_eq`): nothing is lost when a line is set aside, since a line with a
fault of its own makes no edge, and a line with none makes at most one.

**One line.**  What the passes find on a line together is its verdict (`findings_eq`).

**The whole program.**  The findings of both passes are a permutation of the verdicts, and the
verdicts have different lines in increasing order, so sorting by line gives exactly them
(`sortByLine_eq`).
-/

namespace NumberedProse

/-! ## Verdicts -/

namespace Line

/-- The lexemes of the instruction, without the end mark. -/
def lexemes (line : Line) : List Lexeme :=
  (Token.scan line.text.toList).filter fun l => l.token != .eof

/-- **The cues of a line,** in the order of its tokens. -/
def cues (line : Line) : List Cue := Cue.scan (line.lexemes.map Lexeme.token)

/-- What a cue of the line names: a number, and the kind of edge it would make.  A jump with a
condition in front of it branches; a return names nothing. -/
def named? (line : Line) : Cue → Option (Nat × TransferKind)
  | .jump n place =>
      match LineControl.predicate? line.text.toList line.lexemes place with
      | some _ => some (n, .branch)
      | none => some (n, .jump)
  | .call n => some (n, .call)
  | .handler n => some (n, .handler)
  | .ret => none

end Line

namespace Program

/-- What is wrong with a number that a line names: it is too large, or no line has it. -/
def targetVerdict? (program : Program) (line : Line) (n : Nat) (kind : TransferKind) :
    Option ControlError :=
  if UInt32.size ≤ n then some (.outOfRange line.number n kind)
  else if UInt32.ofNat n ∈ program.numbers then none
  else some (.unresolved line.number (UInt32.ofNat n) kind)

/-- **What is wrong with a line:** it has two cues or more, or what its only cue names cannot be
reached. -/
def verdict? (program : Program) (line : Line) : Option ControlError :=
  if 2 ≤ line.cues.length then some (.ambiguous line.number (line.cues.map Cue.label))
  else (line.cues.head?.bind line.named?).bind fun (n, kind) => program.targetVerdict? line n kind

/-- The verdicts of all faulty lines in program order. -/
def verdicts (program : Program) : List ControlError :=
  program.lines.toList.filterMap program.verdict?

/-- The edges of a line that lead nowhere, as errors. -/
def unresolvedOf (program : Program) (c : LineControl) : List ControlError :=
  (c.edges.filter fun e => !program.contains e.target).map fun e =>
    .unresolved e.source e.target e.kind

lemma line_of_verdict? {program : Program} {line : Line} {e : ControlError}
    (h : program.verdict? line = some e) : e.line = line.number := by
  simp only [verdict?] at h
  split at h
  · cases h
    rfl
  · obtain ⟨⟨n, kind⟩, -, htarget⟩ := Option.bind_eq_some_iff.mp h
    simp only [targetVerdict?] at htarget
    split at htarget
    · cases htarget
      rfl
    · split at htarget
      · cases htarget
      · cases htarget
        rfl

/-- The verdicts stand in strictly increasing order of line. -/
lemma pairwise_verdicts (program : Program) :
    program.verdicts.Pairwise fun a b => a.line < b.line := by
  refine List.Pairwise.filterMap program.verdict? ?_ program.increasing
  intro a b hlt e he e' he'
  rw [line_of_verdict? he, line_of_verdict? he']
  exact hlt

end Program

/-! ## One line -/

namespace LineControl

lemma edges_of_lineTarget {line : LineNumber} {kind : TransferKind}
    {make : LineNumber → LineControl}
    (hmake : ∀ target, (make target).edges = [⟨line, target, kind⟩]) (n : Nat) :
    if n < UInt32.size then
      ∃ c, (do return make (← lineTarget line n kind)) = Except.ok c ∧
        c.edges = [⟨line, UInt32.ofNat n, kind⟩]
    else (do return make (← lineTarget line n kind)) = Except.error (.outOfRange line n kind) := by
  rw [lineTarget]
  split
  · exact ⟨_, rfl, hmake _⟩
  · rfl

/-- **What a single cue makes of its line:** the edge that it names, or the error that the number is
too large. -/
lemma ofCue_eq (line : Line) (cue : Cue) :
    match line.named? cue with
    | none => ∃ c, ofCue line.number line.text.toList line.lexemes cue = .ok c ∧ c.edges = []
    | some (n, kind) =>
        if n < UInt32.size then
          ∃ c, ofCue line.number line.text.toList line.lexemes cue = .ok c ∧
            c.edges = [⟨line.number, UInt32.ofNat n, kind⟩]
        else ofCue line.number line.text.toList line.lexemes cue =
          .error (.outOfRange line.number n kind) := by
  cases cue with
  | ret => exact ⟨_, rfl, rfl⟩
  | call n => exact edges_of_lineTarget (fun _ => rfl) n
  | handler n => exact edges_of_lineTarget (fun _ => rfl) n
  | jump n place =>
      simp only [Line.named?, ofCue]
      cases predicate? line.text.toList line.lexemes place with
      | none => exact edges_of_lineTarget (fun _ => rfl) n
      | some predicate => exact edges_of_lineTarget (fun _ => rfl) n

lemma ofLine_eq (line : Line) : ofLine line =
    match line.cues with
    | [] => .ok (plain line.number)
    | [cue] => ofCue line.number line.text.toList line.lexemes cue
    | cues => .error (.ambiguous line.number (cues.map Cue.label)) := rfl

end LineControl

namespace Program

open LineControl

variable (program : Program)

lemma unresolvedOf_of_edges {c : LineControl} (h : c.edges = []) : program.unresolvedOf c = [] := by
  simp [unresolvedOf, h]

lemma unresolvedOf_of_edge {c : LineControl} {line : Line} {n : Nat} {kind : TransferKind}
    (hn : n < UInt32.size) (h : c.edges = [⟨line.number, UInt32.ofNat n, kind⟩]) :
    program.unresolvedOf c = (program.targetVerdict? line n kind).toList := by
  rw [unresolvedOf, h, targetVerdict?, if_neg (Nat.not_le.mpr hn)]
  by_cases hmem : UInt32.ofNat n ∈ program.numbers
  · have hcontains := program.contains_iff.mpr hmem
    simp [hmem, hcontains]
  · have hmissing : program.contains (UInt32.ofNat n) = false := by
      rw [Bool.eq_false_iff]
      exact fun hcontains => hmem (program.contains_iff.mp hcontains)
    simp [hmem, hmissing]

lemma verdict?_of_cue {line : Line} {cue : Cue} (h : line.cues = [cue]) :
    program.verdict? line =
      (line.named? cue).bind fun (n, kind) => program.targetVerdict? line n kind := by
  simp [verdict?, h]

/-- **What the two passes find on a line is its verdict.** -/
theorem findings_eq (line : Line) :
    (error? line).toList ++ program.unresolvedOf (ofLineOrPlain line) =
      (program.verdict? line).toList := by
  have hline := ofLine_eq line
  cases hcues : line.cues with
  | nil =>
      rw [hcues] at hline
      simp only [error?, ofLineOrPlain, hline, Option.toList_none, List.nil_append]
      rw [program.unresolvedOf_of_edges rfl, verdict?, hcues]
      rfl
  | cons cue rest =>
      rw [hcues] at hline
      cases rest with
      | cons second rest =>
          simp only [error?, ofLineOrPlain, hline]
          rw [program.unresolvedOf_of_edges rfl, verdict?, hcues, if_pos (by simp)]
          rfl
      | nil =>
          have hcue := ofCue_eq line cue
          rw [program.verdict?_of_cue hcues]
          cases hnamed : line.named? cue with
          | none =>
              rw [hnamed] at hcue
              obtain ⟨c, hc, hedges⟩ := hcue
              simp only [error?, ofLineOrPlain, hline, hc]
              exact program.unresolvedOf_of_edges hedges
          | some named =>
              obtain ⟨n, kind⟩ := named
              simp only [hnamed] at hcue
              split at hcue
              · next hn =>
                  obtain ⟨c, hc, hedges⟩ := hcue
                  simp only [error?, ofLineOrPlain, hline, hc]
                  exact program.unresolvedOf_of_edge hn hedges
              · next hn =>
                  simp only [error?, ofLineOrPlain, hline, hcue]
                  rw [program.unresolvedOf_of_edges rfl, Option.bind_some, targetVerdict?,
                    if_pos (Nat.not_lt.mp hn)]
                  rfl

/-! ## The whole program -/

lemma unresolved_eq : (FlowGraph.ofControls program.controls).unresolved program =
    program.lines.toList.flatMap fun line => program.unresolvedOf (ofLineOrPlain line) := by
  simp only [FlowGraph.unresolved, FlowGraph.ofControls, controls, List.flatMap_map,
    List.filter_flatMap, List.map_flatMap]
  rfl

/-- **The findings of both passes are the verdicts,** in another order. -/
lemma findings_perm : (program.controlErrors ++
    (FlowGraph.ofControls program.controls).unresolved program).Perm program.verdicts := by
  rw [program.unresolved_eq, controlErrors, verdicts, List.filterMap_eq_flatMap_toList,
    List.filterMap_eq_flatMap_toList]
  refine (List.flatMap_append_perm _ _ _).trans ?_
  simp only [program.findings_eq]
  exact List.Perm.refl _

end Program

namespace ControlError

lemma insertByLine_eq (error : ControlError) (errors : List ControlError) :
    insertByLine error errors = errors.orderedInsert (fun a b => a.line ≤ b.line) error := by
  induction errors with
  | nil => rfl
  | cons first rest ih =>
      rw [insertByLine, ih]
      rfl

lemma sortByLine_eq_insertionSort (errors : List ControlError) :
    sortByLine errors = errors.insertionSort fun a b => a.line ≤ b.line := by
  induction errors with
  | nil => rfl
  | cons first rest ih =>
      rw [sortByLine, List.foldr_cons, insertByLine_eq]
      rw [sortByLine] at ih
      rw [ih]
      rfl

/-- **Sorting by line finds the only order** of errors on different lines. -/
theorem sortByLine_eq {errors sorted : List ControlError} (hperm : errors.Perm sorted)
    (hsorted : sorted.Pairwise fun a b => a.line < b.line) : sortByLine errors = sorted := by
  rw [sortByLine_eq_insertionSort]
  have : Std.Total fun a b : ControlError => a.line ≤ b.line :=
    ⟨fun a b => UInt32.le_total a.line b.line⟩
  have : IsTrans ControlError fun a b => a.line ≤ b.line := ⟨fun a b c => UInt32.le_trans⟩
  have hdistinct : (sorted.map ControlError.line).Nodup :=
    (List.pairwise_map.mpr hsorted).imp UInt32.ne_of_lt
  refine List.Perm.eq_of_pairwise ?_ (List.pairwise_insertionSort _ errors)
    (hsorted.imp UInt32.le_of_lt) ((List.perm_insertionSort _ errors).trans hperm)
  intro a b ha hb hab hba
  have hmem : a ∈ sorted := hperm.mem_iff.mp ((List.mem_insertionSort _).mp ha)
  exact List.inj_on_of_nodup_map hdistinct hmem hb (UInt32.le_antisymm hab hba)

end ControlError

/-- If every edge leads to a line, the first pass has found all verdicts, in order. -/
lemma Program.controlErrors_eq {program : Program}
    (h : (FlowGraph.ofControls program.controls).unresolved program = []) :
    program.controlErrors = program.verdicts := by
  rw [program.unresolved_eq, List.flatMap_eq_nil_iff] at h
  refine List.filterMap_congr fun line hline => ?_
  have hfindings := program.findings_eq line
  rw [h line hline, List.append_nil] at hfindings
  simpa using congrArg List.head? hfindings

namespace Analysis

variable {program : Program} (table : ResourceTable)

lemma exists_ofProgram_of_nil (h : program.verdicts = []) :
    ∃ analysis, ofProgram program table = .ok analysis := by
  have hnone := program.findings_perm
  rw [h, List.perm_nil, List.append_eq_nil_iff] at hnone
  simp only [ofProgram, Flow.build, hnone]
  exact ⟨_, rfl⟩

/-- **The analysis of a faulty program fails with its verdicts.** -/
theorem ofProgram_eq (h : program.verdicts ≠ []) :
    ofProgram program table = .error (.validation program.verdicts) := by
  simp only [ofProgram, Flow.build]
  cases hunresolved : (FlowGraph.ofControls program.controls).unresolved program with
  | nil =>
      rw [← Program.controlErrors_eq hunresolved] at h ⊢
      simp [h]
  | cons e rest =>
      have hperm := program.findings_perm
      rw [hunresolved] at hperm
      simp only [ControlError.sortByLine_eq hperm program.pairwise_verdicts]

/-- **Validation is exhaustive.**  A source that parses has an analysis exactly if no line has a
verdict.  Otherwise the analysis fails with the verdicts of all faulty lines, one for each of
them, in strictly increasing order of line. -/
theorem validation_exhaustive {source : String} {program : Program}
    (h : Program.parse source = .ok program) (table : ResourceTable) :
    ((∃ analysis, ofSource source table = .ok analysis) ↔
      ∀ line ∈ program.lines, program.verdict? line = none) ∧
    ((∃ line ∈ program.lines, program.verdict? line ≠ none) →
      ofSource source table =
        .error (.validation (program.lines.toList.filterMap program.verdict?))) ∧
    (program.lines.toList.filterMap program.verdict?).Pairwise (fun a b => a.line < b.line) ∧
    ∀ line ∈ program.lines, ∀ e, program.verdict? line = some e → e.line = line.number := by
  have hsource : ofSource source table = ofProgram program table := by
    simp only [ofSource, h]
  have hnil : program.verdicts = [] ↔ ∀ line ∈ program.lines, program.verdict? line = none := by
    rw [Program.verdicts, List.filterMap_eq_nil_iff]
    simp only [Array.mem_toList_iff]
  rw [hsource, ← hnil]
  refine ⟨⟨?_, exists_ofProgram_of_nil table⟩, ?_, program.pairwise_verdicts,
    fun line _ e he => Program.line_of_verdict? he⟩
  · rintro ⟨analysis, hanalysis⟩
    by_contra hfaulty
    rw [ofProgram_eq table hfaulty] at hanalysis
    cases hanalysis
  · rintro ⟨line, hline, hverdict⟩
    exact ofProgram_eq table fun hempty => hverdict (hnil.mp hempty line hline)

/-- A program with an ambiguous line, a target that does not exist and one that is too large. -/
def faultySource : String :=
  "10 goto 20 and call 30\n20 goto 99\n30 jump to 99999999999\n40 print ok"

/-- All three faults are reported, in order. -/
theorem validation_exhaustive_faultySource :
    ∃ program, Program.parse faultySource = .ok program ∧
      (∃ line ∈ program.lines, program.verdict? line ≠ none) ∧
      program.lines.toList.filterMap program.verdict? =
        [.ambiguous 10 ["goto", "call"], .unresolved 20 99 .jump,
          .outOfRange 30 99999999999 .jump] ∧
      ofSource faultySource .empty = .error (.validation
        [.ambiguous 10 ["goto", "call"], .unresolved 20 99 .jump,
          .outOfRange 30 99999999999 .jump]) := by
  have hparses : (Program.parse faultySource).toOption.any (fun program =>
      program.lines.toList.filterMap program.verdict? =
        [.ambiguous 10 ["goto", "call"], .unresolved 20 99 .jump,
          .outOfRange 30 99999999999 .jump]) = true := by
    decide +kernel
  obtain ⟨program, hprogram, hverdicts⟩ := exists_ok_of_any hparses
  have hverdicts := of_decide_eq_true hverdicts
  have hfaulty : ∃ line ∈ program.lines, program.verdict? line ≠ none := by
    by_contra hnone
    push Not at hnone
    have hempty : program.lines.toList.filterMap program.verdict? = [] :=
      List.filterMap_eq_nil_iff.mpr fun line hline => hnone line (Array.mem_toList_iff.mp hline)
    rw [hverdicts] at hempty
    cases hempty
  refine ⟨program, hprogram, hfaulty, hverdicts, ?_⟩
  rw [← hverdicts]
  exact (validation_exhaustive hprogram .empty).2.1 hfaulty

end Analysis

end NumberedProse
