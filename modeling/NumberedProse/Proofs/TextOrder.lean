import Mathlib.Data.List.Nodup
import Mathlib.Data.List.Perm.Basic
import Mathlib.Tactic.Common
import NumberedProse.Proofs.Compiled

/-!
# The order of the text does not matter

A source is read from top to bottom, each line is put at its place among the lines read before, and
the first fault ends the reading.  None of this shows in the program.

**One line.**  What a source line spells does not depend on where it stands; its place only enters
the errors (`toOption_readLine`).  So `Source.content?` is a function of the line alone.

**All lines.**  A source parses exactly if all its lines can be read and their numbers differ, and
its program has the lines that they spell, in the only order a program can have
(`Program.parse_eq_ok_iff`).  Both sides of this are blind to the order of the text and to lines
that spell nothing.
-/

namespace NumberedProse

/-! ## Cutting a text into lines -/

namespace Text

lemma split_cons (separator c : Char) (text : List Char) :
    split separator (c :: text) =
      if c == separator then [] :: split separator text
      else (split separator text).modifyHead (c :: ·) := by
  simp only [split, List.foldr_cons]
  split <;> rfl

lemma notMem_of_mem_split {separator : Char} {text piece : List Char}
    (h : piece ∈ split separator text) : separator ∉ piece := by
  induction text generalizing piece with
  | nil =>
      obtain rfl : piece = [] := by simpa [split] using h
      simp
  | cons c text ih =>
      rw [split_cons] at h
      split at h
      · obtain rfl | h := List.mem_cons.mp h
        · simp
        · exact ih h
      · next hc =>
          cases hsplit : split separator text with
          | nil => simp [hsplit] at h
          | cons first others =>
              rw [hsplit, List.modifyHead_cons, List.mem_cons] at h
              obtain rfl | h := h
              · have hfirst : separator ∉ first := ih (by simp [hsplit])
                have hne : separator ≠ c := fun heq => hc (beq_iff_eq.mpr heq.symm)
                simp [hne, hfirst]
              · exact ih (by simp [hsplit, h])

lemma split_eq_splitOn (separator : Char) (text : List Char) :
    split separator text = text.splitOn separator := by
  induction text with
  | nil => rfl
  | cons c text ih =>
      rw [split_cons, ih, List.splitOn, List.splitOn, List.splitOnP_cons_eq_if_modifyHead]

end Text

namespace Source

/-- **The text of lines,** one after the other. -/
def ofLines (lines : List String) : String := "\n".intercalate lines

lemma split_ofLines {lines : List String} (hlines : ∀ line ∈ lines, '\n' ∉ line.toList)
    (hne : lines ≠ []) :
    Text.split '\n' (ofLines lines).toList = lines.map String.toList := by
  have hpieces : ∀ piece ∈ lines.map String.toList, '\n' ∉ piece := by
    simpa using hlines
  rw [Text.split_eq_splitOn, ofLines, String.toList_intercalate]
  exact List.splitOn_intercalate '\n' hpieces (by simpa using hne)

/-! ## What one line spells -/

/-- **A line that spells nothing:** it is blank, or its first character that is not blank opens a
comment. -/
def isIgnorable (raw : List Char) : Bool :=
  match raw.find? fun c => !Text.isBlank c with
  | none => true
  | some c => c == '#' || c == '\x27'

/-- What a source line contributes to a program: a line or nothing.  `none` means that it cannot be
read. -/
def content? (raw : List Char) : Option (Option Line) := (readLine 0 raw).toOption

/-- The line that a source line spells. -/
def line? (raw : List Char) : Option Line := (content? raw).join

lemma readBody_of_head {rest : List Char} (h : rest.head? ≠ some '(') :
    readBody rest = some (none, String.ofList (Text.trim rest)) := by
  unfold readBody
  split
  · simp at h
  · rfl

lemma toOption_readNumbered (j k : Nat) (text : List Char) :
    (readNumbered j text).toOption = (readNumbered k text).toOption := by
  simp only [readNumbered]
  split
  · rfl
  · split
    · rfl
    · split <;> rfl

lemma toOption_readLine (k : Nat) (raw : List Char) :
    (readLine k raw).toOption = content? raw := by
  have hnumbered := toOption_readNumbered k 0 (Text.trim raw)
  simp only [content?, readLine]
  split
  · rfl
  · cases hk : readNumbered k (Text.trim raw) <;> cases h0 : readNumbered 0 (Text.trim raw) <;>
      simp_all [Except.toOption]

lemma readLine_eq_ok_iff {k : Nat} {raw : List Char} {content : Option Line} :
    readLine k raw = .ok content ↔ content? raw = some content := by
  rw [← toOption_readLine k raw]
  cases readLine k raw <;> simp [Except.toOption]

lemma trimEnd_cons {c : Char} (h : Text.isBlank c = false) (rest : List Char) :
    ∃ rest', Text.trimEnd (c :: rest) = c :: rest' := by
  rw [Text.trimEnd, List.reverse_cons, List.dropWhile_append]
  split
  · -- Nothing but blanks follows.
    exact ⟨[], by simp [h]⟩
  · exact ⟨(rest.reverse.dropWhile Text.isBlank).reverse, by simp⟩

lemma isSkipped_trim (raw : List Char) : isSkipped (Text.trim raw) = isIgnorable raw := by
  induction raw with
  | nil => rfl
  | cons c raw ih =>
      cases hc : Text.isBlank c with
      | true => simpa [Text.trim, Text.trimStart, isIgnorable, hc] using ih
      | false =>
          obtain ⟨rest, hrest⟩ := trimEnd_cons hc raw
          simp [Text.trim, Text.trimStart, isIgnorable, hc, hrest, isSkipped]

lemma content?_of_isIgnorable {raw : List Char} (h : isIgnorable raw = true) :
    content? raw = some none := by
  rw [← isSkipped_trim] at h
  simp [content?, readLine, h, Except.toOption]

/-! ## Putting a line at its place -/

lemma perm_insertPlaced {new : Placed} {old all : List Placed}
    (h : insertPlaced new old = .ok all) : all.Perm (new :: old) := by
  induction old generalizing all with
  | nil =>
      simp only [insertPlaced, Except.ok.injEq] at h
      rw [← h]
  | cons first rest ih =>
      simp only [insertPlaced] at h
      split at h
      · cases h
        exact List.Perm.refl _
      · split at h
        · split at h
          · next placed hrest =>
              cases h
              exact ((ih hrest).cons first).trans (List.Perm.swap new first rest)
          · cases h
        · cases h

lemma exists_insertPlaced {new : Placed} {old : List Placed}
    (h : new.line.number ∉ old.map fun p => p.line.number) :
    ∃ all, insertPlaced new old = .ok all := by
  induction old with
  | nil => exact ⟨_, rfl⟩
  | cons first rest ih =>
      simp only [List.map_cons, List.mem_cons, not_or] at h
      obtain ⟨all, hall⟩ := ih h.2
      simp only [insertPlaced, hall]
      split
      · exact ⟨_, rfl⟩
      · next hge =>
          have hlt : first.line.number < new.line.number :=
            UInt32.lt_of_le_of_ne (UInt32.not_lt.mp hge) fun heq => h.1 heq.symm
          rw [if_pos hlt]
          exact ⟨_, rfl⟩

namespace Draft

/-- The lines of a draft, in program order. -/
def lines (draft : Draft) : List Line := draft.placed.map Placed.line

@[simp] lemma lines_empty : empty.lines = [] := rfl

lemma perm_lines_insert {draft draft' : Draft} {new : Placed} (h : draft.insert new = .ok draft') :
    draft'.lines.Perm (new.line :: draft.lines) := by
  simp only [insert] at h
  split at h
  · next placed hplaced =>
      cases h
      exact (perm_insertPlaced hplaced).map Placed.line
  · cases h

lemma exists_insert {draft : Draft} (new : Placed)
    (h : new.line.number ∉ draft.lines.map Line.number) :
    ∃ draft', draft.insert new = .ok draft' := by
  have hplaced : new.line.number ∉ draft.placed.map fun p => p.line.number := by
    simpa [lines] using h
  obtain ⟨all, hall⟩ := exists_insertPlaced hplaced
  simp only [insert]
  split
  · exact ⟨_, rfl⟩
  · next earlier hearlier => simp [hall] at hearlier

end Draft

/-! ## All lines -/

/-- **Reading collects the lines that the source lines spell.** -/
lemma perm_readLines {raws : List (List Char)} {draft out : Draft} {k : Nat}
    (h : readLines draft k raws = .ok out) :
    (∀ raw ∈ raws, (content? raw).isSome) ∧
      out.lines.Perm (raws.filterMap line? ++ draft.lines) := by
  induction raws generalizing draft k with
  | nil =>
      cases h
      simp
  | cons raw rest ih =>
      simp only [readLines] at h
      split at h
      · cases h
      · next hraw =>
          rw [readLine_eq_ok_iff] at hraw
          obtain ⟨hreadable, hperm⟩ := ih h
          have hline : line? raw = none := by simp [line?, hraw]
          simp only [List.forall_mem_cons, List.filterMap_cons_none hline]
          exact ⟨⟨by simp [hraw], hreadable⟩, hperm⟩
      · next line hraw =>
          rw [readLine_eq_ok_iff] at hraw
          split at h
          · cases h
          · next draft' hdraft' =>
              obtain ⟨hreadable, hperm⟩ := ih h
              have hline : line? raw = some line := by simp [line?, hraw]
              have hinsert := Draft.perm_lines_insert hdraft'
              simp only [List.forall_mem_cons, List.filterMap_cons_some hline]
              refine ⟨⟨by simp [hraw], hreadable⟩, hperm.trans ?_⟩
              exact (hinsert.append_left _).trans List.perm_middle

/-- **Reading succeeds** if every line can be read and no number comes twice. -/
lemma exists_readLines {raws : List (List Char)} {draft : Draft} {k : Nat}
    (hreadable : ∀ raw ∈ raws, (content? raw).isSome)
    (hdistinct : ((raws.filterMap line? ++ draft.lines).map Line.number).Nodup) :
    ∃ out, readLines draft k raws = .ok out := by
  induction raws generalizing draft k with
  | nil => exact ⟨draft, rfl⟩
  | cons raw rest ih =>
      have hrest : ∀ raw ∈ rest, (content? raw).isSome := fun r hr => hreadable r (by simp [hr])
      obtain ⟨content, hcontent⟩ := Option.isSome_iff_exists.mp (hreadable raw (by simp))
      have hread := readLine_eq_ok_iff (k := k).mpr hcontent
      cases content with
      | none =>
          have hline : line? raw = none := by simp [line?, hcontent]
          rw [List.filterMap_cons_none hline] at hdistinct
          simpa only [readLines, hread] using ih hrest hdistinct
      | some line =>
          have hline : line? raw = some line := by simp [line?, hcontent]
          rw [List.filterMap_cons_some hline, List.cons_append, List.map_cons,
            List.nodup_cons] at hdistinct
          have hfresh : line.number ∉ draft.lines.map Line.number := by
            intro hmem
            exact hdistinct.1 (by simp_all)
          obtain ⟨draft', hdraft'⟩ := Draft.exists_insert ⟨line, k⟩ hfresh
          have hperm := (Draft.perm_lines_insert hdraft').append_left (rest.filterMap line?)
          have hnodup : ((rest.filterMap line? ++ draft'.lines).map Line.number).Nodup := by
            refine ((hperm.trans List.perm_middle).map Line.number).nodup_iff.mpr ?_
            simpa using hdistinct
          simpa only [readLines, hread, hdraft'] using ih hrest hnodup

lemma Draft.lines_of_toProgram? {draft : Draft} {program : Program}
    (h : draft.toProgram? = some program) : program.lines.toList = draft.lines := by
  simp only [toProgram?] at h
  split at h
  · cases h
    rfl
  · cases h

lemma Draft.exists_toProgram? {draft : Draft} (h : draft.lines ≠ []) :
    ∃ program, draft.toProgram? = some program := by
  have hlength : 0 < draft.placed.length := by
    simpa [lines, List.length_pos_iff] using h
  simp only [toProgram?, hlength]
  exact ⟨_, rfl⟩

end Source

namespace Program

/-- A program is known from its lines, in whatever order they are listed. -/
lemma eq_of_perm {program program' : Program}
    (h : program.lines.toList.Perm program'.lines.toList) : program = program' := by
  have hlines : program.lines.toList = program'.lines.toList := by
    refine h.eq_of_pairwise ?_ program.increasing program'.increasing
    intro a b _ _ hab hba
    exact absurd (UInt32.lt_trans hab hba) (UInt32.lt_irrefl _)
  cases program
  cases program'
  simpa using Array.toList_inj.mp hlines

/-- A program has a line, so it is not refused for being empty. -/
lemma ne_nil_of_perm {program : Program} {lines : List Line}
    (h : program.lines.toList.Perm lines) : lines ≠ [] := by
  rintro rfl
  have hsize := program.nonempty
  rw [List.perm_nil] at h
  simp_all

/-- A program has the lines that the source lines spell, and all of them can be read. -/
lemma spelled_of_parse {source : String} {program : Program} (h : parse source = .ok program) :
    (∀ raw ∈ Text.split '\n' source.toList, (Source.content? raw).isSome) ∧
      program.lines.toList.Perm ((Text.split '\n' source.toList).filterMap Source.line?) := by
  simp only [parse] at h
  split at h
  · cases h
  · next draft hdraft =>
      obtain ⟨hreadable, hperm⟩ := Source.perm_readLines hdraft
      split at h
      · next found hfound =>
          cases h
          rw [Source.Draft.lines_of_toProgram? hfound]
          rw [Source.Draft.lines_empty, List.append_nil] at hperm
          exact ⟨hreadable, hperm⟩
      · cases h

/-- A source parses if all its lines can be read, their numbers differ and there is one. -/
lemma exists_parse {source : String}
    (hreadable : ∀ raw ∈ Text.split '\n' source.toList, (Source.content? raw).isSome)
    (hdistinct :
      (((Text.split '\n' source.toList).filterMap Source.line?).map Line.number).Nodup)
    (hsome : (Text.split '\n' source.toList).filterMap Source.line? ≠ []) :
    ∃ program, parse source = .ok program := by
  have hfresh : (((Text.split '\n' source.toList).filterMap Source.line? ++
      Source.Draft.empty.lines).map Line.number).Nodup := by
    simpa using hdistinct
  obtain ⟨draft, hdraft⟩ := Source.exists_readLines (k := 1) hreadable hfresh
  have hlines : draft.lines ≠ [] := by
    intro hnil
    have hperm := (Source.perm_readLines hdraft).2
    rw [hnil, Source.Draft.lines_empty, List.append_nil, List.nil_perm] at hperm
    exact hsome hperm
  obtain ⟨program, hprogram⟩ := Source.Draft.exists_toProgram? hlines
  exact ⟨program, by simp only [parse, hdraft, hprogram]⟩

/-- **Which program a source spells:** the one made of the lines that its source lines spell, if all
of them can be read. -/
theorem parse_eq_ok_iff {source : String} {program : Program} :
    parse source = .ok program ↔
      (∀ raw ∈ Text.split '\n' source.toList, (Source.content? raw).isSome) ∧
      program.lines.toList.Perm
        ((Text.split '\n' source.toList).filterMap Source.line?) := by
  refine ⟨spelled_of_parse, ?_⟩
  rintro ⟨hreadable, hperm⟩
  have hdistinct := (hperm.map Line.number).nodup_iff.mp program.nodup_numbers
  obtain ⟨found, hfound⟩ := exists_parse hreadable hdistinct (ne_nil_of_perm hperm)
  rw [hfound, eq_of_perm ((spelled_of_parse hfound).2.trans hperm.symm)]

end Program

/-! ## Rearranging a source -/

namespace Source

/-- What the lines of a source contribute, in the order of the text. -/
def spelled (lines : List String) : List Line := lines.filterMap fun line => line? line.toList

lemma parse_ofLines_eq_ok_iff {lines : List String} {program : Program}
    (hlines : ∀ line ∈ lines, '\n' ∉ line.toList) :
    Program.parse (ofLines lines) = .ok program ↔
      (∀ line ∈ lines, (content? line.toList).isSome) ∧
        program.lines.toList.Perm (spelled lines) := by
  rw [Program.parse_eq_ok_iff]
  cases lines with
  | nil =>
      have hempty : content? [] = some none := content?_of_isIgnorable rfl
      have hsplit : Text.split '\n' (ofLines []).toList = [[]] := by simp [ofLines, Text.split]
      simp [hsplit, hempty, line?, spelled]
  | cons first rest =>
      rw [split_ofLines hlines (by simp), spelled, List.filterMap_map]
      simp

lemma parse_iff_of_perm {lines extra changed : List String} {program : Program}
    (hlines : ∀ line ∈ lines ++ extra, '\n' ∉ line.toList)
    (hextra : ∀ line ∈ extra, isIgnorable line.toList) (hperm : changed.Perm (lines ++ extra)) :
    Program.parse (ofLines changed) = .ok program ↔
      Program.parse (ofLines lines) = .ok program := by
  have hchanged : ∀ line ∈ changed, '\n' ∉ line.toList :=
    fun line hline => hlines line (hperm.mem_iff.mp hline)
  have hnothing : ∀ line ∈ extra, content? line.toList = some none :=
    fun line hline => content?_of_isIgnorable (hextra line hline)
  have hspelled : (spelled changed).Perm (spelled lines) := by
    have hnone : spelled extra = [] := by
      rw [spelled, List.filterMap_eq_nil_iff]
      exact fun line hline => by simp [line?, hnothing line hline]
    have hall : (spelled changed).Perm (spelled lines ++ spelled extra) := by
      simpa [spelled] using hperm.filterMap fun line => line? line.toList
    rw [hnone, List.append_nil] at hall
    exact hall
  have hreadable : (∀ line ∈ changed, (content? line.toList).isSome) ↔
      ∀ line ∈ lines, (content? line.toList).isSome := by
    simp only [hperm.mem_iff, List.mem_append]
    exact ⟨fun h line hline => h line (.inl hline), fun h line hline =>
      hline.elim (h line) fun hline => by simp [hnothing line hline]⟩
  rw [parse_ofLines_eq_ok_iff hchanged,
    parse_ofLines_eq_ok_iff fun line hline => hlines line (by simp [hline]), hreadable]
  exact and_congr_right fun _ => ⟨fun h => h.trans hspelled, fun h => h.trans hspelled.symm⟩

end Source

namespace Program

/-- **The order of the text does not matter.**  The lines of a source may be permuted, and lines
that are blank or comments may be put anywhere between them: if the source parses, the changed
source parses to the same program and has the same analysis, be it findings or faults; if the source
does not parse, neither does the changed one. -/
theorem parse_rearranged {lines extra changed : List String}
    (hlines : ∀ line ∈ lines ++ extra, '\n' ∉ line.toList)
    (hextra : ∀ line ∈ extra, Source.isIgnorable line.toList)
    (hperm : changed.Perm (lines ++ extra)) (table : ResourceTable) :
    (∀ program, parse (Source.ofLines lines) = .ok program →
      parse (Source.ofLines changed) = .ok program ∧
      Analysis.ofSource (Source.ofLines changed) table =
        Analysis.ofSource (Source.ofLines lines) table) ∧
    ∀ e, parse (Source.ofLines lines) = .error e →
      ∃ e', parse (Source.ofLines changed) = .error e' := by
  have hsame : ∀ program, parse (Source.ofLines changed) = .ok program ↔
      parse (Source.ofLines lines) = .ok program :=
    fun _ => Source.parse_iff_of_perm hlines hextra hperm
  constructor
  · intro program hprogram
    have hchanged := (hsame program).mpr hprogram
    exact ⟨hchanged, by simp only [Analysis.ofSource, hchanged, hprogram]⟩
  · intro e he
    cases hchanged : parse (Source.ofLines changed) with
    | error e' => exact ⟨e', rfl⟩
    | ok program =>
        rw [(hsame program).mp hchanged] at he
        cases he

/-- A comment after blanks, a line of nothing but blanks, and the classic comment. -/
def remarks : List String := ["  # first the cart", "\t ", "' REM"]

/-- The remarks are put between the lines of a program, and between two lines that clash. -/
theorem parse_rearranged_remarks :
    (∃ program, parse (Source.ofLines ["20 return", "10 gosub 20"]) = .ok program ∧
      parse (Source.ofLines ["\t ", "10 gosub 20", "  # first the cart", "' REM", "20 return"]) =
        .ok program) ∧
    ∃ e, parse (Source.ofLines ["' REM", "10 b", "\t ", "10 a", "  # first the cart"]) =
      .error e := by
  have hremarks : ∀ line ∈ remarks, Source.isIgnorable line.toList := by decide +kernel
  have hparses : (parse (Source.ofLines ["20 return", "10 gosub 20"])).toOption.any
      (fun program => program.numbers = [10, 20]) = true := by decide +kernel
  obtain ⟨program, hprogram, -⟩ := exists_ok_of_any hparses
  have hfails : parse (Source.ofLines ["10 a", "10 b"]) = .error (.duplicateNumber 2 10 1) := by
    decide +kernel
  have hchanged : ["\t ", "10 gosub 20", "  # first the cart", "' REM", "20 return"].Perm
      (["20 return", "10 gosub 20"] ++ remarks) := by decide +kernel
  have hclash : ["' REM", "10 b", "\t ", "10 a", "  # first the cart"].Perm
      (["10 a", "10 b"] ++ remarks) := by decide +kernel
  refine ⟨⟨program, hprogram, ?_⟩, ?_⟩
  · exact ((parse_rearranged (by decide +kernel) hremarks hchanged .empty).1 program hprogram).1
  · exact (parse_rearranged (by decide +kernel) hremarks hclash .empty).2 _ hfails

end Program

end NumberedProse
