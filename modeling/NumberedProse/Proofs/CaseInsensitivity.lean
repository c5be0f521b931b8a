import Mathlib.Tactic.Common
import NumberedProse.Proofs.LetterCase

/-!
# The case of letters does not matter

Folding the case of a text, that is, writing its ASCII capitals as small letters, commutes with
every stage of the analysis.  So two sources that differ only in the case of letters are related
through what both become when folded, and no stage needs an argument about two runs.

Only the predicates of branches remember the case; `LineControl.foldCase` makes them forget it.
Edges, warnings and resources never see it, and the faults of a line do not either
(`LineControl.ofLine_foldCase`).
-/

namespace NumberedProse

/-! ## The control of a line -/

/-- The control with the case of the letters in its predicate forgotten. -/
def Control.foldCase : Control → Control
  | branch target predicate => branch target predicate.toLower
  | control => control

/-- The control of a line with the case of the letters in a predicate forgotten. -/
def LineControl.foldCase (c : LineControl) : LineControl :=
  { c with control := c.control.foldCase }

namespace Line

lemma toList_foldCase (line : Line) :
    line.foldCase.text.toList = line.text.toList.map Char.toLower :=
  String.toList_map

lemma outline_lexemes (line : Line) :
    line.lexemes.map Lexeme.outline =
      ((Token.scan line.text.toList).map Lexeme.outline).filter fun l => l.token != .eof := by
  have heof : ∀ l : Lexeme, (l.outline.token != .eof) = (l.token != .eof) := by
    intro l
    rw [Bool.eq_iff_iff, bne_iff_ne, bne_iff_ne, Lexeme.outline, ne_eq, Token.outline_eq_eof_iff]
  simp only [lexemes, List.filter_map, Function.comp_def, heof]

lemma lexemes_foldCase (line : Line) :
    line.foldCase.lexemes.map Lexeme.outline = line.lexemes.map Lexeme.outline := by
  rw [outline_lexemes, outline_lexemes, toList_foldCase, Token.scan, Token.scanFrom_toLower]
  rfl

lemma cues_eq_scan_outline (line : Line) :
    line.cues = Cue.scan ((line.lexemes.map Lexeme.outline).map Lexeme.token) := by
  rw [cues, ← Cue.scan_outline, List.map_map, List.map_map]
  rfl

lemma cues_foldCase (line : Line) : line.foldCase.cues = line.cues := by
  rw [cues_eq_scan_outline, cues_eq_scan_outline, lexemes_foldCase]

end Line

namespace Token

lemma slice_toLower (text : List Char) (start stop : Nat) :
    slice (text.map Char.toLower) start stop = (slice text start stop).map Char.toLower := by
  rw [slice, slice, ← List.map_take, ← List.map_drop, Text.trim_toLower]

end Token

namespace LineControl

lemma predicate?_toLower (text : List Char) (lexemes : List Lexeme) (place : Nat) :
    predicate? (text.map Char.toLower) lexemes place =
      (predicate? text lexemes place).map (List.map Char.toLower) := by
  simp only [predicate?, Token.slice_toLower]
  split
  · rfl
  · split <;> rfl

lemma predicate?_foldCase (line : Line) (place : Nat) :
    predicate? line.foldCase.text.toList line.foldCase.lexemes place =
      (predicate? line.text.toList line.lexemes place).map (List.map Char.toLower) := by
  rw [line.toList_foldCase, ← predicate?_outline, line.lexemes_foldCase, predicate?_outline,
    predicate?_toLower]

lemma ofCue_foldCase (line : Line) (cue : Cue) :
    ofCue line.number line.foldCase.text.toList line.foldCase.lexemes cue =
      (ofCue line.number line.text.toList line.lexemes cue).map foldCase := by
  cases cue with
  | handler n =>
      simp only [ofCue]
      cases lineTarget line.number n .handler <;> rfl
  | call n =>
      simp only [ofCue]
      cases lineTarget line.number n .call <;> rfl
  | ret => rfl
  | jump n place =>
      simp only [ofCue, predicate?_foldCase]
      cases predicate? line.text.toList line.lexemes place with
      | none =>
          simp only [Option.map_none]
          cases lineTarget line.number n .jump <;> rfl
      | some predicate =>
          simp only [Option.map_some, Text.ofList_toLower]
          cases lineTarget line.number n .branch <;> rfl

/-- **A line says the same in any case.** -/
theorem ofLine_foldCase (line : Line) : ofLine line.foldCase = (ofLine line).map foldCase := by
  rw [ofLine_eq, ofLine_eq, line.cues_foldCase]
  split
  · rfl
  · exact ofCue_foldCase line _
  · rfl

lemma ofLineOrPlain_foldCase (line : Line) :
    ofLineOrPlain line.foldCase = (ofLineOrPlain line).foldCase := by
  rw [ofLineOrPlain, ofLineOrPlain, ofLine_foldCase]
  cases ofLine line <;> rfl

lemma error?_foldCase (line : Line) : error? line.foldCase = error? line := by
  rw [error?, error?, ofLine_foldCase]
  cases ofLine line <;> rfl

end LineControl

/-! ## The flow of a program -/

namespace Program

lemma numbers_foldCase (program : Program) : program.foldCase.numbers = program.numbers := by
  simp [numbers, foldCase, Function.comp_def, Line.foldCase]

lemma contains_foldCase (program : Program) (n : LineNumber) :
    program.foldCase.contains n = program.contains n := by
  rw [Bool.eq_iff_iff, contains_iff, contains_iff, numbers_foldCase]

lemma successor?_foldCase (program : Program) (n : LineNumber) :
    program.foldCase.successor? n = program.successor? n :=
  Numbered.successor?_congr program.foldCase.increasing program.increasing
    program.numbers_foldCase

lemma controls_foldCase (program : Program) :
    program.foldCase.controls = program.controls.map LineControl.foldCase := by
  simp [controls, foldCase, Function.comp_def, LineControl.ofLineOrPlain_foldCase]

lemma controlErrors_foldCase (program : Program) :
    program.foldCase.controlErrors = program.controlErrors := by
  simp [controlErrors, foldCase, List.filterMap_map, LineControl.error?_foldCase]

end Program

namespace LineControl

lemma edges_foldCase (c : LineControl) : c.foldCase.edges = c.edges := by
  obtain ⟨number, control, handler⟩ := c
  cases control <;> rfl

lemma continuations_foldCase (program : Program) (c : LineControl) :
    c.foldCase.continuations program.foldCase = c.continuations program := by
  obtain ⟨number, control, handler⟩ := c
  cases control <;>
    simp [continuations, foldCase, Control.foldCase, program.successor?_foldCase]

lemma lookup?_foldCase (controls : List LineControl) (line : LineNumber) :
    lookup? (controls.map foldCase) line = (lookup? controls line).map foldCase := by
  rw [lookup?, lookup?, ← List.map_reverse, List.find?_map]
  rfl

lemma foldCase_control_beq_ret (c : LineControl) :
    (c.foldCase.control == .ret) = (c.control == .ret) := by
  obtain ⟨number, control, handler⟩ := c
  cases control <;> rfl

end LineControl

namespace FlowGraph

lemma ofControls_foldCase (controls : List LineControl) :
    ofControls (controls.map LineControl.foldCase) = ofControls controls := by
  simp only [ofControls, List.flatMap_map, LineControl.edges_foldCase]

lemma unresolved_foldCase (graph : FlowGraph) (program : Program) :
    graph.unresolved program.foldCase = graph.unresolved program := by
  simp only [unresolved, program.contains_foldCase]

lemma calledLines_foldCase (graph : FlowGraph) (program : Program) (controls : List LineControl) :
    graph.calledLines program.foldCase (controls.map LineControl.foldCase) =
      graph.calledLines program controls := by
  simp only [calledLines, program.numbers_foldCase, LineControl.lookup?_foldCase]
  congr 1
  funext line
  cases LineControl.lookup? controls line with
  | none => rfl
  | some c => exact LineControl.continuations_foldCase program c

lemma unreachableReturns_foldCase (graph : FlowGraph) (program : Program)
    (controls : List LineControl) :
    graph.unreachableReturns program.foldCase (controls.map LineControl.foldCase) =
      graph.unreachableReturns program controls := by
  simp only [unreachableReturns, calledLines_foldCase, List.filter_map, List.map_map,
    Function.comp_def, LineControl.foldCase_control_beq_ret]
  rfl

end FlowGraph

lemma Flow.build_foldCase (program : Program) (controls : List LineControl) :
    build program.foldCase (controls.map LineControl.foldCase) = build program controls := by
  simp only [build, FlowGraph.ofControls_foldCase, FlowGraph.unresolved_foldCase,
    FlowGraph.unreachableReturns_foldCase]

lemma ResourceContext.ofProgram_foldCase (program : Program) (table : ResourceTable) :
    ofProgram program.foldCase table = ofProgram program table := by
  simp only [ofProgram, Program.foldCase, Array.toList_map, List.foldl_map]
  rfl

/-! ## The analysis -/

namespace Analysis

/-- The analysis with the case of the letters in instructions and predicates forgotten. -/
def foldCase (analysis : Analysis) : Analysis :=
  { analysis with
    program := analysis.program.foldCase
    controls := analysis.controls.map LineControl.foldCase }

/-- **The analysis of a program sees letters, not their case.** -/
theorem ofProgram_foldCase (program : Program) (table : ResourceTable) :
    ofProgram program.foldCase table = (ofProgram program table).map foldCase := by
  simp only [ofProgram, program.controls_foldCase, program.controlErrors_foldCase,
    Flow.build_foldCase, ResourceContext.ofProgram_foldCase]
  cases Flow.build program program.controls with
  | error unresolved => rfl
  | ok flow =>
      simp only
      split <;> rfl

lemma ofSource_of_toLower_eq {source source' : String} (h : source.toLower = source'.toLower)
    (table : ResourceTable) {program : Program} (hprogram : Program.parse source = .ok program) :
    (ofSource source' table).map foldCase = (ofSource source table).map foldCase := by
  obtain ⟨program', hprogram', hfold⟩ := Program.parse_of_toLower_eq h hprogram
  simp only [ofSource, hprogram, hprogram']
  rw [← ofProgram_foldCase, ← ofProgram_foldCase, hfold]

/-- **The case of letters does not matter.**  If two sources differ only in the case of ASCII
letters and one has an analysis, the other has one with the same graph, mode, resources and
warnings, and with the same controls up to the case of the letters in predicates.  If the one has
faults in its control, the other has the very same. -/
theorem letter_case_irrelevant {source source' : String} (h : source.toLower = source'.toLower)
    (table : ResourceTable) :
    (∀ analysis, ofSource source table = .ok analysis →
      ∃ analysis', ofSource source' table = .ok analysis' ∧
        analysis'.graph = analysis.graph ∧ analysis'.mode = analysis.mode ∧
        analysis'.context = analysis.context ∧ analysis'.warnings = analysis.warnings ∧
        analysis'.controls.map LineControl.foldCase = analysis.controls.map LineControl.foldCase) ∧
    ∀ errors, ofSource source table = .error (.validation errors) →
      ofSource source' table = .error (.validation errors) := by
  constructor
  · intro analysis hanalysis
    have hsame := ofSource_of_toLower_eq h table (parse_of_ofSource hanalysis).1
    rw [hanalysis] at hsame
    cases hother : ofSource source' table with
    | error e =>
        rw [hother] at hsame
        cases hsame
    | ok analysis' =>
        rw [hother] at hsame
        have hfold : analysis'.foldCase = analysis.foldCase := Except.ok.inj hsame
        simp only [foldCase, Analysis.mk.injEq] at hfold
        obtain ⟨-, hcontrols, hgraph, hmode, hcontext, hwarnings⟩ := hfold
        exact ⟨analysis', rfl, hgraph, hmode, hcontext, hwarnings, hcontrols⟩
  · intro errors herrors
    cases hprogram : Program.parse source with
    | error e =>
        simp only [ofSource, hprogram] at herrors
        cases herrors
    | ok program =>
        have hsame := ofSource_of_toLower_eq h table hprogram
        rw [herrors] at hsame
        cases hother : ofSource source' table with
        | error e =>
            rw [hother] at hsame
            exact congrArg Except.error (Except.error.inj hsame)
        | ok analysis' =>
            rw [hother] at hsame
            cases hsame

/-- Capitals in a hint, in keywords, in a quoted text and beside a capital sigma. -/
def shoutedSource : String :=
  "10 (REDIS) IF \"It\" IS ΟΔΟΣ Or ΣA THEN GoTo 30\n20 RETURN\n30 print \"GOTO 40\""

/-- The same with other letters of the alphabet as capitals. -/
def whisperedSource : String :=
  "10 (redis) if \"it\" is ΟΔΟΣ or Σa then goto 30\n20 return\n30 Print \"goto 40\""

/-- Both sources branch and use the cache. -/
theorem letter_case_irrelevant_shoutedSource :
    shoutedSource.toLower = whisperedSource.toLower ∧
      ∃ analysis, ofSource shoutedSource .builtin = .ok analysis ∧
        analysis.controls =
          [⟨10, .branch 30 "\"It\" IS ΟΔΟΣ Or ΣA", none⟩, ⟨20, .ret, none⟩,
            ⟨30, .fallthrough, none⟩] ∧
        analysis.context.entries = [⟨"redis", 10⟩] ∧
        ∃ analysis', ofSource whisperedSource .builtin = .ok analysis' ∧
          analysis'.graph = analysis.graph ∧ analysis'.mode = analysis.mode ∧
          analysis'.context = analysis.context ∧ analysis'.warnings = analysis.warnings ∧
          analysis'.controls.map LineControl.foldCase =
            analysis.controls.map LineControl.foldCase := by
  have hletters : shoutedSource.toLower = whisperedSource.toLower := by
    have hchars : shoutedSource.toList.map Char.toLower =
        whisperedSource.toList.map Char.toLower := by decide +kernel
    exact String.toList_inj.mp (String.toList_map.trans (hchars.trans String.toList_map.symm))
  have hsucceeds : (ofSource shoutedSource .builtin).toOption.any (fun analysis =>
      analysis.controls =
        [⟨10, .branch 30 "\"It\" IS ΟΔΟΣ Or ΣA", none⟩, ⟨20, .ret, none⟩,
          ⟨30, .fallthrough, none⟩] ∧
      analysis.context.entries = [⟨"redis", 10⟩]) = true := by
    decide +kernel
  obtain ⟨analysis, hanalysis, hfound⟩ := exists_ok_of_any hsucceeds
  obtain ⟨hcontrols, hentries⟩ := of_decide_eq_true hfound
  exact ⟨hletters, analysis, hanalysis, hcontrols, hentries,
    (letter_case_irrelevant hletters .builtin).1 analysis hanalysis⟩

end Analysis

end NumberedProse
