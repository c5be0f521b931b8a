import Mathlib.Data.List.DropRight
import Mathlib.Tactic.Common
import NumberedProse.Proofs.Lexing
import NumberedProse.Proofs.TextOrder
import NumberedProse.Proofs.Verdicts

/-!
# Writing a program out and reading it back

Every line of a program can be written in the form it is read in.  Reading such a text gives the
program again, with one exception: an empty hint leaves no trace in the line, and if the instruction
after it begins with a parenthesis, this parenthesis is taken for a hint when the line is read
again.

**Lower-casing.**  The hint is lower-cased when it is read, so reading it again must not change it.
No counterpart of a capital is a capital itself, which is checked run against run
(`Text.caseRuns_checked`); hence lower-casing twice is lower-casing once
(`Text.lowercase_lowercase`).

**One line.**  Whatever was read has a canonical form (`Line.Canonical`): its parts are trimmed, its
hint is lower-cased and holds no closing parenthesis.  A canonical line is read back exactly if it
does not look hinted (`Line.Canonical.content?_render_iff`).

**The program.**  `Program.rendering_parses_iff` says which programs are read back.
-/

namespace NumberedProse

namespace Text

/-! ## Lower-casing twice -/

namespace CaseRun

/-- The counterpart of the last capital. -/
def lastImage (run : CaseRun) : Nat := run.image + (run.last - run.first)

/-- **Whether no counterpart is a capital** of the other runs.  Where intervals overlap, both go in
steps of two, and the counterparts stand between the capitals. -/
def misses (run : CaseRun) : List CaseRun → Bool
  | [] => true
  | other :: rest =>
      -- All pairs of runs are checked, and `Nat.blt` evaluates faster than a decision of `<`.
      run.lastImage.blt other.first ||
        (other.last.blt run.image ||
          other.step == 2 && (run.step == 2 || run.first == run.last) &&
            (run.image + other.first) % 2 == 1) &&
        run.misses rest

end CaseRun

lemma lowerIn?_of_misses {run : CaseRun} {runs : List CaseRun} (h : run.misses runs = true)
    {i : Nat} (hi : i ≤ run.last - run.first) (hstep : i % run.step = 0) :
    lowerIn? (run.image + i) runs = none := by
  induction runs with
  | nil => rfl
  | cons other rest ih =>
      simp only [CaseRun.misses, CaseRun.lastImage, Bool.or_eq_true, Bool.and_eq_true,
        Nat.blt_eq, beq_iff_eq] at h
      rw [lowerIn?]
      split
      · rfl
      · next hfirst =>
          obtain hbefore | ⟨happart, hrest⟩ := h
          · omega
          · rw [if_neg, ih hrest]
            simp only [Bool.and_eq_true, decide_eq_true_eq, beq_iff_eq, not_and]
            intro hlast hhit
            obtain hafter | ⟨⟨htwo, hrun⟩, hodd⟩ := happart
            · omega
            · -- The steps of both runs keep the parity they begin with, and these differ.
              have heven : i % 2 = 0 := by
                obtain hrun | hrun := hrun
                · rwa [hrun] at hstep
                · omega
              rw [htwo] at hhit
              omega

lemma exists_run_of_lowerIn? {n m : Nat} {runs : List CaseRun} (h : lowerIn? n runs = some m) :
    ∃ run ∈ runs, ∃ i ≤ run.last - run.first, i % run.step = 0 ∧ m = run.image + i := by
  induction runs with
  | nil => cases h
  | cons run rest ih =>
      simp only [lowerIn?, Bool.and_eq_true, decide_eq_true_eq, beq_iff_eq] at h
      split at h
      · cases h
      · split at h
        · next hin =>
            cases h
            exact ⟨run, by simp, n - run.first, Nat.sub_le_sub_right hin.1 _, hin.2, rfl⟩
        · obtain ⟨found, hfound, hi⟩ := ih h
          exact ⟨found, by simp [hfound], hi⟩

/-- Code points that are no counterparts: the closing parenthesis, the dotted capital I, the
surrogates and the blanks. -/
def setAside : List (Nat × Nat) :=
  (0x29, 0x29) :: (0x130, 0x130) :: (0xD800, 0xDFFF) :: blankRanges

lemma caseRuns_checked : ∀ run ∈ caseRuns,
    run.lastImage < 0x110000 ∧ run.misses caseRuns = true ∧
      ∀ range ∈ setAside, run.lastImage < range.1 ∨ range.2 < run.image := by
  decide +kernel

/-- **What lower-casing can make of a character:** it stays, or letters come in its place.  What it
becomes stays when lower-cased again. -/
def Lowers (c d : Char) : Prop := lowerChar d = [d] ∧ (d = c ∨ isBlank d = false ∧ d ≠ ')')

lemma lowers_of_lowerIn? {n m : Nat} (h : lowerIn? n caseRuns = some m) (c : Char) :
    Lowers c (Char.ofNat m) := by
  obtain ⟨run, hrun, i, hi, hstep, rfl⟩ := exists_run_of_lowerIn? h
  obtain ⟨hmax, hmisses, haside⟩ := caseRuns_checked run hrun
  have hle : run.image + i ≤ run.lastImage := Nat.add_le_add_left hi _
  have hout : ∀ range ∈ setAside, ¬ (range.1 ≤ run.image + i ∧ run.image + i ≤ range.2) := by
    intro range hrange hin
    have := haside range hrange
    omega
  have hvalid : (run.image + i).isValidChar := by
    have := hout (0xD800, 0xDFFF) (by simp [setAside])
    simp only [Nat.isValidChar]
    omega
  have hcode : (Char.ofNat (run.image + i)).toNat = run.image + i := by
    rw [Char.ofNat, dif_pos hvalid]
    rfl
  have hne : ∀ mark : Char, (mark.toNat, mark.toNat) ∈ setAside →
      Char.ofNat (run.image + i) ≠ mark := by
    rintro _ hmark rfl
    rw [hcode] at hmark
    exact hout _ hmark ⟨Nat.le_refl _, Nat.le_refl _⟩
  refine ⟨?_, .inr ⟨?_, hne ')' (by decide)⟩⟩
  · rw [lowerChar, if_neg (by simpa using hne 'İ' (by decide)), hcode,
      lowerIn?_of_misses hmisses hi hstep]
  · rw [Bool.eq_false_iff]
    intro hblank
    obtain ⟨range, hrange, hin⟩ := exists_range_of_inRanges hblank
    rw [hcode] at hin
    exact hout range (by simp [setAside, hrange]) hin

lemma lowers_of_mem_lowerChar {c d : Char} (h : d ∈ lowerChar c) : Lowers c d := by
  rw [lowerChar] at h
  split at h
  · simp only [List.mem_cons, List.not_mem_nil, or_false] at h
    obtain rfl | rfl := h
    · exact ⟨by decide, .inr (by decide)⟩
    · exact ⟨by decide, .inr (by decide)⟩
  · next hdotted =>
      split at h
      · next hlower =>
          rw [List.mem_singleton] at h
          rw [h]
          exact lowers_of_lowerIn? hlower c
      · next hnone =>
          rw [List.mem_singleton] at h
          rw [h]
          exact ⟨by rw [lowerChar, if_neg hdotted, hnone], .inl rfl⟩

lemma lowerChar_ne_nil (c : Char) : lowerChar c ≠ [] := by
  rw [lowerChar]
  split
  · simp
  · split <;> simp

lemma lowerAfter_cons (before : List Char) (c : Char) (rest : List Char) :
    ∃ piece, piece ≠ [] ∧ (∀ d ∈ piece, Lowers c d) ∧
      lowerAfter before (c :: rest) = piece ++ lowerAfter (c :: before) rest := by
  rw [lowerAfter]
  split
  · refine ⟨['ς'], by simp, ?_, rfl⟩
    simp only [List.mem_singleton, forall_eq]
    exact ⟨by decide, .inr (by decide)⟩
  · exact ⟨lowerChar c, lowerChar_ne_nil c, fun _ => lowers_of_mem_lowerChar, rfl⟩

lemma lowerAfter_concat (before text : List Char) (c : Char) :
    ∃ front piece, piece ≠ [] ∧ (∀ d ∈ piece, Lowers c d) ∧
      lowerAfter before (text ++ [c]) = front ++ piece := by
  induction text generalizing before with
  | nil =>
      obtain ⟨piece, hne, hpiece, heq⟩ := lowerAfter_cons before c []
      exact ⟨[], piece, hne, hpiece, by simpa [lowerAfter] using heq⟩
  | cons first rest ih =>
      obtain ⟨start, -, -, hstart⟩ := lowerAfter_cons before first (rest ++ [c])
      obtain ⟨front, piece, hne, hpiece, heq⟩ := ih (first :: before)
      refine ⟨start ++ front, piece, hne, hpiece, ?_⟩
      rw [List.cons_append, hstart, heq, List.append_assoc]

lemma lowers_of_mem_lowerAfter {before text : List Char} {d : Char}
    (h : d ∈ lowerAfter before text) : ∃ c ∈ text, Lowers c d := by
  induction text generalizing before with
  | nil => cases h
  | cons c rest ih =>
      obtain ⟨piece, -, hpiece, heq⟩ := lowerAfter_cons before c rest
      rw [heq, List.mem_append] at h
      obtain h | h := h
      · exact ⟨c, by simp, hpiece d h⟩
      · obtain ⟨c', hc', hd⟩ := ih h
        exact ⟨c', by simp [hc'], hd⟩

lemma lowerAfter_of_lowered {text : List Char} (h : ∀ c ∈ text, lowerChar c = [c])
    (before : List Char) : lowerAfter before text = text := by
  induction text generalizing before with
  | nil => rfl
  | cons c rest ih =>
      have hc : lowerChar c = [c] := h c (by simp)
      have hsigma : (c == 'Σ') = false := by
        refine beq_false_of_ne ?_
        rintro rfl
        exact absurd hc (by decide)
      rw [lowerAfter, hsigma, Bool.false_and, if_neg (by simp), hc,
        ih fun d hd => h d (by simp [hd])]
      rfl

/-- **Lower-casing twice is lower-casing once.** -/
theorem lowercase_lowercase (text : List Char) : lowercase (lowercase text) = lowercase text := by
  refine lowerAfter_of_lowered ?_ []
  intro d hd
  obtain ⟨c, -, hlowers⟩ := lowers_of_mem_lowerAfter hd
  exact hlowers.1

lemma notMem_lowercase {mark : Char} (hmark : isBlank mark = true ∨ mark = ')') {text : List Char}
    (h : mark ∉ text) : mark ∉ lowercase text := by
  intro hmem
  obtain ⟨c, hc, -, rfl | ⟨hblank, hparen⟩⟩ := lowers_of_mem_lowerAfter hmem
  · exact h hc
  · simp_all

/-! ## Trimmed texts -/

lemma trim_ends (text : List Char) :
    (∀ c ∈ (trim text).head?, isBlank c = false) ∧
      ∀ c ∈ (trim text).getLast?, isBlank c = false := by
  have hstart := List.head?_dropWhile_not isBlank text
  constructor
  · rw [trim, trimStart]
    cases hrest : text.dropWhile isBlank with
    | nil => simp [trimEnd]
    | cons c rest =>
        rw [hrest] at hstart
        obtain ⟨rest', hrest'⟩ := Source.trimEnd_cons hstart rest
        simpa [hrest'] using hstart
  · intro c hc
    have hne : trim text ≠ [] := List.ne_nil_of_mem (List.mem_of_getLast? hc)
    rw [List.getLast?_eq_some_getLast hne, Option.mem_some_iff] at hc
    rw [← hc, ← Bool.not_eq_true]
    exact List.rdropWhile_last_not isBlank (trimStart text) hne

lemma trim_eq_self_iff {text : List Char} :
    trim text = text ↔
      (∀ c ∈ text.head?, isBlank c = false) ∧ ∀ c ∈ text.getLast?, isBlank c = false := by
  constructor
  · intro h
    rw [← h]
    exact trim_ends text
  · rintro ⟨hfirst, hlast⟩
    have hstart : trimStart text = text := by
      cases text with
      | nil => rfl
      | cons c rest => exact List.dropWhile_cons_of_neg (by simp [hfirst c rfl])
    rw [trim, hstart]
    refine List.rdropWhile_eq_self_iff.mpr ?_
    intro hne
    simp [hlast _ (List.getLast?_eq_some_getLast hne)]

lemma trim_trim (text : List Char) : trim (trim text) = trim text :=
  trim_eq_self_iff.mpr (trim_ends text)

lemma isBlank_of_lowers {c d : Char} (h : Lowers c d) (hc : isBlank c = false) :
    isBlank d = false := by
  obtain ⟨-, rfl | ⟨hd, -⟩⟩ := h
  · exact hc
  · exact hd

lemma trim_lowercase {text : List Char} (h : trim text = text) :
    trim (lowercase text) = lowercase text := by
  rw [trim_eq_self_iff] at h ⊢
  constructor
  · cases text with
    | nil => simp [lowercase, lowerAfter]
    | cons c rest =>
        obtain ⟨piece, hne, hpiece, heq⟩ := lowerAfter_cons [] c rest
        rw [lowercase, heq, List.head?_append_of_ne_nil _ hne]
        intro d hd
        exact isBlank_of_lowers (hpiece d (List.mem_of_head? hd)) (h.1 c rfl)
  · cases text using List.reverseRecOn with
    | nil => simp [lowercase, lowerAfter]
    | append_singleton rest c _ =>
        obtain ⟨front, piece, hne, hpiece, heq⟩ := lowerAfter_concat [] rest c
        rw [lowercase, heq, List.getLast?_append_of_ne_nil _ hne]
        intro d hd
        exact isBlank_of_lowers (hpiece d (List.mem_of_getLast? hd)) (h.2 c (by simp))

lemma trim_sublist (text : List Char) : (trim text).Sublist text := by
  have hend : trim text <+: trimStart text := List.rdropWhile_prefix isBlank (trimStart text)
  exact hend.sublist.trans (List.dropWhile_sublist isBlank)

end Text

/-! ## What a read line looks like -/

/-- **The form of a hint that was read:** trimming and lower-casing leave it alone, and it can stand
between parentheses on one line. -/
structure Source.IsHint (hint : List Char) : Prop where
  nonempty : hint ≠ []
  trimmed : Text.trim hint = hint
  lowered : Text.lowercase hint = hint
  enclosed : ')' ∉ hint
  oneLine : '\n' ∉ hint

/-- **The form of a line that was read.** -/
structure Line.Canonical (line : Line) : Prop where
  number : line.number ≠ 0
  hint : ∀ hint ∈ line.hint, Source.IsHint hint.toList
  trimmed : Text.trim line.text.toList = line.text.toList
  oneLine : '\n' ∉ line.text.toList

namespace Source

lemma lineNumber?_ne_zero {numeral : List Char} {n : LineNumber}
    (h : lineNumber? numeral = some n) : n ≠ 0 := by
  rw [lineNumber?] at h
  split at h
  · next value _ =>
      split at h
      · next hbounds =>
          simp only [Bool.and_eq_true, decide_eq_true_eq] at hbounds
          cases h
          intro hzero
          have hvalue := congrArg UInt32.toNat hzero
          rw [UInt32.toNat_ofNat_of_lt' hbounds.2] at hvalue
          exact absurd hvalue (Nat.ne_of_gt hbounds.1)
      · cases h
  · cases h

lemma readBody_hint {inside : List Char} (h : ')' ∉ inside) (text : List Char) :
    readBody ('(' :: (inside ++ ')' :: text)) =
      some (hintOf inside, String.ofList (Text.trim text)) := by
  have hinside : ∀ c ∈ inside, (c != ')') = true := by
    rintro c hc
    rw [bne_iff_ne]
    rintro rfl
    exact h hc
  rw [readBody, List.dropWhile_append_of_pos hinside, List.takeWhile_append_of_pos hinside]
  simp

lemma readBody_cases {rest : List Char} {hint : Option String} {text : String}
    (h : readBody rest = some (hint, text)) :
    (∃ inside tail, ')' ∉ inside ∧ rest = '(' :: (inside ++ ')' :: tail) ∧
      hint = hintOf inside ∧ text = String.ofList (Text.trim tail)) ∨
    rest.head? ≠ some '(' ∧ hint = none ∧ text = String.ofList (Text.trim rest) := by
  by_cases hhead : rest.head? = some '('
  · left
    obtain ⟨body, rfl⟩ := List.head?_eq_some_iff.mp hhead
    rw [readBody] at h
    split at h
    · cases h
    · next c tail hdrop =>
        cases h
        have hc : c = ')' := by
          have hnot := List.head?_dropWhile_not (· != ')') body
          simpa [hdrop] using hnot
        refine ⟨body.takeWhile (· != ')'), tail, ?_, ?_, rfl, rfl⟩
        · intro hmem
          simpa using List.mem_takeWhile_imp hmem
        · rw [hc] at hdrop
          rw [← hdrop, List.takeWhile_append_dropWhile]
  · rw [readBody_of_head hhead] at h
    cases h
    exact .inr ⟨hhead, rfl, rfl⟩

lemma isHint_of_hintOf {inside : List Char} (hparen : ')' ∉ inside) (hlf : '\n' ∉ inside) :
    ∀ hint ∈ hintOf inside, IsHint hint.toList := by
  intro hint hhint
  have hmem {c : Char} (h : c ∈ Text.trim inside) : c ∈ inside := (Text.trim_sublist inside).mem h
  rw [hintOf] at hhint
  split at hhint
  · cases hhint
  · next hne =>
      cases hhint
      rw [String.toList_ofList]
      refine ⟨?_, Text.trim_lowercase (Text.trim_trim inside), Text.lowercase_lowercase _,
        Text.notMem_lowercase (.inr rfl) fun h => hparen (hmem h),
        Text.notMem_lowercase (.inl rfl) fun h => hlf (hmem h)⟩
      obtain ⟨c, rest, hinside⟩ := List.exists_cons_of_ne_nil hne
      obtain ⟨piece, hpiece, -, heq⟩ := Text.lowerAfter_cons [] c rest
      rw [hinside, Text.lowercase, heq]
      simp [hpiece]

lemma hintOf_of_isHint {hint : String} (h : IsHint hint.toList) :
    hintOf hint.toList = some hint := by
  rw [hintOf, h.trimmed]
  split
  · next hnil => exact absurd hnil h.nonempty
  · rw [h.lowered, String.ofList_toList]

lemma readNumbered_cases {k : Nat} {text : List Char} {line : Line}
    (h : readNumbered k text = .ok line) :
    line.number ≠ 0 ∧
      readBody (Text.trimStart (text.dropWhile inNumeral)) = some (line.hint, line.text) := by
  simp only [readNumbered] at h
  split at h
  · cases h
  · split at h
    · cases h
    · next number hnumber =>
        split at h
        · cases h
        · next hint text hbody =>
            cases h
            exact ⟨lineNumber?_ne_zero hnumber, hbody⟩

lemma canonical_of_readBody {rest : List Char} (hlf : '\n' ∉ rest) {line : Line}
    (hnumber : line.number ≠ 0) (h : readBody rest = some (line.hint, line.text)) :
    line.Canonical := by
  have htrimmed {tail : List Char} (htext : line.text = String.ofList (Text.trim tail)) :
      Text.trim line.text.toList = line.text.toList := by
    rw [htext, String.toList_ofList, Text.trim_trim]
  have honeLine {tail : List Char} (htext : line.text = String.ofList (Text.trim tail))
      (htail : '\n' ∉ tail) : '\n' ∉ line.text.toList := by
    rw [htext, String.toList_ofList]
    exact fun hmem => htail ((Text.trim_sublist tail).mem hmem)
  obtain ⟨inside, tail, hparen, rfl, hhint, htext⟩ | ⟨-, hhint, htext⟩ := readBody_cases h
  · simp only [List.mem_cons, List.mem_append, not_or] at hlf
    obtain ⟨-, hinside, -, htail⟩ := hlf
    refine ⟨hnumber, ?_, htrimmed htext, honeLine htext htail⟩
    rw [hhint]
    exact isHint_of_hintOf hparen hinside
  · exact ⟨hnumber, by simp [hhint], htrimmed htext, honeLine htext hlf⟩

/-- **What is read is canonical.** -/
lemma canonical_of_content? {raw : List Char} (hraw : '\n' ∉ raw) {line : Line}
    (h : content? raw = some (some line)) : line.Canonical := by
  have hread := readLine_eq_ok_iff (k := 0).mpr h
  simp only [readLine] at hread
  split at hread
  · cases hread
  · split at hread
    · next found hfound =>
        cases hread
        obtain ⟨hnumber, hbody⟩ := readNumbered_cases hfound
        refine canonical_of_readBody (fun hmem => hraw ?_) hnumber hbody
        exact (Text.trim_sublist raw).mem ((List.dropWhile_sublist inNumeral).mem
          ((List.dropWhile_sublist Text.isBlank).mem hmem))
    · cases hread

end Source

/-! ## Reading a written line -/

namespace Line

/-- The instruction as it is written, with a blank before it. -/
def spaced : List Char → List Char
  | [] => []
  | text => ' ' :: text

/-- What is written after the number. -/
def body (line : Line) : List Char :=
  match line.hint with
  | some hint => ' ' :: '(' :: (hint.toList ++ ')' :: spaced line.text.toList)
  | none => spaced line.text.toList

/-- **A line whose instruction would be read as a hint:** it has none, and the instruction begins
with a parenthesis. -/
def looksHinted (line : Line) : Bool :=
  line.hint.isNone && line.text.toList.head? == some '('

lemma trim_spaced (text : List Char) : Text.trim (spaced text) = Text.trim text := by
  cases text with
  | nil => rfl
  | cons c rest => exact Text.trim_cons_blank (by decide) (c :: rest)

lemma toList_render (line : Line) :
    line.render.toList = (toString line.number).toList ++ line.body := by
  have hself : ∀ s : String, toString s = s := fun _ => rfl
  have htext : (if line.text = "" then "" else " " ++ line.text).toList =
      spaced line.text.toList := by
    split
    · next hempty => simp [hempty, spaced]
    · next hne =>
        rw [← String.toList_inj] at hne
        cases h : line.text.toList with
        | nil => exact absurd h hne
        | cons c rest => simp [h, spaced]
  cases hhint : line.hint <;> simp [render, body, hhint, hself, htext]

lemma takeWhile_body (line : Line) : line.body.takeWhile Source.inNumeral = [] := by
  have hblank : Source.inNumeral ' ' = false := by decide
  cases hhint : line.hint with
  | some hint => simp [body, hhint, hblank]
  | none => cases htext : line.text.toList <;> simp [body, hhint, htext, spaced, hblank]

lemma dropWhile_body (line : Line) : line.body.dropWhile Source.inNumeral = line.body := by
  have hsplit := List.takeWhile_append_dropWhile (p := Source.inNumeral) (l := line.body)
  rwa [takeWhile_body, List.nil_append] at hsplit

lemma inNumeral_of_isDigit {c : Char} (h : c.isDigit = true) : Source.inNumeral c = true := by
  have hparen : c ≠ '(' := by
    rintro rfl
    cases h
  simp [Source.inNumeral, Text.isBlank_of_isDigit h, hparen]

namespace Canonical

variable {line : Line}

lemma isBlank_of_mem_getLast?_body (h : line.Canonical) {c : Char} (hc : c ∈ line.body.getLast?) :
    Text.isBlank c = false := by
  have htext := (Text.trim_eq_self_iff.mp h.trimmed).2
  have hspaced : (spaced line.text.toList).getLast? = line.text.toList.getLast? := by
    cases line.text.toList <;> simp [spaced]
  cases hhint : line.hint with
  | none =>
      rw [body, hhint, hspaced] at hc
      exact htext c hc
  | some hint =>
      simp only [body, hhint, List.getLast?_cons, List.getLast?_append, hspaced] at hc
      cases hlast : line.text.toList.getLast? with
      | none =>
          obtain rfl : ')' = c := by simpa [hlast] using hc
          decide
      | some last =>
          obtain rfl : last = c := by simpa [hlast] using hc
          exact htext last hlast

lemma trim_render (h : line.Canonical) : Text.trim line.render.toList = line.render.toList := by
  have hdigits : ∀ c ∈ (toString line.number).toList, Text.isBlank c = false :=
    fun c hc => Text.isBlank_of_isDigit (Token.isDigit_of_mem_toString hc)
  rw [Text.trim_eq_self_iff, toList_render]
  constructor
  · rw [List.head?_append_of_ne_nil _ (Token.toList_toString_ne_nil line.number)]
    exact fun c hc => hdigits c (List.mem_of_head? hc)
  · intro c hc
    rw [List.getLast?_append, Option.mem_def, Option.or_eq_some_iff] at hc
    obtain hc | ⟨-, hc⟩ := hc
    · exact h.isBlank_of_mem_getLast?_body hc
    · exact hdigits c (List.mem_of_getLast? hc)

lemma lineNumber?_toString (h : line.Canonical) :
    Source.lineNumber? (toString line.number).toList = some line.number := by
  have hdecimal : Text.decimal? (toString line.number).toList = some line.number.toNat := by
    rw [Text.decimal?, if_pos, Token.ofDigitChars_toString]
    simp only [Bool.and_eq_true, Bool.not_eq_true', List.isEmpty_eq_false_iff, List.all_eq_true]
    exact ⟨Token.toList_toString_ne_nil _, fun _ => Token.isDigit_of_mem_toString⟩
  have hpos : 0 < line.number.toNat := by
    rw [Nat.pos_iff_ne_zero]
    exact fun hzero => h.number (UInt32.toNat_inj.mp hzero)
  simp [Source.lineNumber?, hdecimal, hpos, line.number.toNat_lt]

/-- **Reading a written line** is reading what follows its number. -/
lemma content?_render (h : line.Canonical) :
    Source.content? line.render.toList =
      (Source.readBody (Text.trimStart line.body)).map fun read =>
        some ⟨line.number, read.1, read.2⟩ := by
  have hdigits : ∀ c ∈ (toString line.number).toList, Source.inNumeral c = true :=
    fun c hc => inNumeral_of_isDigit (Token.isDigit_of_mem_toString hc)
  have hnumeral :
      line.render.toList.takeWhile Source.inNumeral = (toString line.number).toList := by
    rw [toList_render, List.takeWhile_append_of_pos hdigits, takeWhile_body, List.append_nil]
  have hrest : line.render.toList.dropWhile Source.inNumeral = line.body := by
    rw [toList_render, List.dropWhile_append_of_pos hdigits, dropWhile_body]
  obtain ⟨d, digits, hd⟩ := List.exists_cons_of_ne_nil (Token.toList_toString_ne_nil line.number)
  have hdigit : d.isDigit = true := Token.isDigit_of_mem_toString (n := line.number) (by simp [hd])
  have hskipped : Source.isSkipped line.render.toList = false := by
    have hhash : d ≠ '#' ∧ d ≠ '\x27' := by
      constructor <;> (rintro rfl; cases hdigit)
    simp [toList_render, hd, Source.isSkipped, hhash]
  have hhead : (toString line.number).toList.head?.any Char.isDigit = true := by
    simp [hd, hdigit]
  simp only [Source.content?, Source.readLine, h.trim_render, hskipped, Source.readNumbered,
    hnumeral, hrest, hhead, h.lineNumber?_toString]
  cases Source.readBody (Text.trimStart line.body) <;> simp [Except.toOption]

lemma readBody_body_hint (h : line.Canonical) {hint : String} (hhint : line.hint = some hint) :
    Source.readBody (Text.trimStart line.body) = some (line.hint, line.text) := by
  have hstart : Text.trimStart line.body =
      '(' :: (hint.toList ++ ')' :: spaced line.text.toList) := by
    have hopen : Text.isBlank '(' = false := by decide
    have hblank : Text.isBlank ' ' = true := by decide
    simp [Text.trimStart, body, hhint, hopen, hblank]
  have hcanonical := h.hint hint hhint
  rw [hstart, Source.readBody_hint hcanonical.enclosed, Source.hintOf_of_isHint hcanonical,
    trim_spaced, h.trimmed, String.ofList_toList, hhint]

lemma trimStart_body_none (h : line.Canonical) (hhint : line.hint = none) :
    Text.trimStart line.body = line.text.toList := by
  have hfirst := (Text.trim_eq_self_iff.mp h.trimmed).1
  have hblank : Text.isBlank ' ' = true := by decide
  cases htext : line.text.toList with
  | nil => simp [body, hhint, htext, spaced, Text.trimStart]
  | cons c rest =>
      have hc : Text.isBlank c = false := hfirst c (by simp [htext])
      simp [body, hhint, htext, spaced, Text.trimStart, hblank, hc]

lemma readBody_text_iff {text : String} (h : Text.trim text.toList = text.toList) :
    Source.readBody text.toList = some (none, text) ↔ text.toList.head? ≠ some '(' := by
  constructor
  · intro hread
    obtain ⟨inside, tail, -, htext, -, htail⟩ | ⟨hhead, -⟩ := Source.readBody_cases hread
    · -- The instruction would be shorter than itself.
      have hlong := congrArg List.length htext
      have hshort := (Text.trim_sublist tail).length_le
      rw [htail, String.toList_ofList] at hlong
      simp only [List.length_cons, List.length_append] at hlong
      omega
    · exact hhead
  · intro hhead
    rw [Source.readBody_of_head hhead, h, String.ofList_toList]

/-- **A canonical line is read back** exactly if it does not look hinted. -/
lemma content?_render_iff (h : line.Canonical) :
    Source.content? line.render.toList = some (some line) ↔ line.looksHinted = false := by
  have hread : Source.content? line.render.toList = some (some line) ↔
      Source.readBody (Text.trimStart line.body) = some (line.hint, line.text) := by
    rw [h.content?_render, Option.map_eq_some_iff]
    constructor
    · rintro ⟨⟨hint, text⟩, hbody, hline⟩
      obtain ⟨number, hint', text'⟩ := line
      cases hline
      exact hbody
    · exact fun hbody => ⟨_, hbody, rfl⟩
  rw [hread]
  cases hhint : line.hint with
  | some hint => simpa [looksHinted, hhint] using h.readBody_body_hint hhint
  | none =>
      rw [h.trimStart_body_none hhint, readBody_text_iff h.trimmed]
      simp [looksHinted, hhint]

lemma number_of_content?_render (h : line.Canonical) {read : Line}
    (hread : Source.content? line.render.toList = some (some read)) :
    read.number = line.number := by
  rw [h.content?_render, Option.map_eq_some_iff] at hread
  obtain ⟨_, -, hline⟩ := hread
  cases hline
  rfl

lemma notMem_render (h : line.Canonical) : '\n' ∉ line.render.toList := by
  have hdigits : '\n' ∉ (toString line.number).toList := fun hmem =>
    absurd (Token.isDigit_of_mem_toString hmem) (by decide)
  have hspaced : '\n' ∉ spaced line.text.toList := by
    have htext := h.oneLine
    cases hcases : line.text.toList <;> simp_all [spaced]
  rw [toList_render, List.mem_append, not_or]
  refine ⟨hdigits, ?_⟩
  cases hhint : line.hint with
  | none => simpa [body, hhint] using hspaced
  | some hint =>
      simp [body, hhint, (h.hint hint hhint).oneLine, hspaced]

end Canonical

end Line

/-! ## Reading a written program -/

namespace Program

/-- **The source of a program:** its lines as they are written, in program order. -/
def render (program : Program) : String := Source.ofLines (program.lines.toList.map Line.render)

lemma canonical_of_parse {source : String} {program : Program} (h : parse source = .ok program) :
    ∀ line ∈ program.lines.toList, line.Canonical := by
  intro line hline
  rw [(spelled_of_parse h).2.mem_iff, List.mem_filterMap] at hline
  obtain ⟨raw, hraw, hspells⟩ := hline
  rw [Source.line?, Option.join_eq_some_iff] at hspells
  exact Source.canonical_of_content? (Text.notMem_of_mem_split hraw) hspells

/-- **Which programs are read back** from the text they are written as: those without a line that
looks hinted. -/
theorem rendering_parses_iff {source : String} {program : Program}
    (h : parse source = .ok program) :
    parse program.render = .ok program ↔
      ∀ line ∈ program.lines, line.looksHinted = false := by
  have hcanonical := canonical_of_parse h
  have hlf : ∀ raw ∈ program.lines.toList.map Line.render, '\n' ∉ raw.toList := by
    intro raw hraw
    obtain ⟨line, hline, rfl⟩ := List.mem_map.mp hraw
    exact (hcanonical line hline).notMem_render
  rw [render, Source.parse_ofLines_eq_ok_iff hlf]
  constructor
  · rintro ⟨-, hperm⟩ line hline
    rw [← Array.mem_toList_iff] at hline
    have hspelled := hperm.mem_iff.mp hline
    rw [Source.spelled, List.filterMap_map, List.mem_filterMap] at hspelled
    obtain ⟨written, hwritten, hcontent⟩ := hspelled
    rw [Function.comp_apply, Source.line?, Option.join_eq_some_iff] at hcontent
    -- Numbers tell the lines of a program apart, so the line was read from its own text.
    have hnumber := (hcanonical written hwritten).number_of_content?_render hcontent
    obtain rfl := List.inj_on_of_nodup_map program.nodup_numbers hline hwritten hnumber
    exact (hcanonical line hline).content?_render_iff.mp hcontent
  · intro hplain
    have hread : ∀ line ∈ program.lines.toList,
        Source.content? line.render.toList = some (some line) := fun line hline =>
      (hcanonical line hline).content?_render_iff.mpr (hplain line (Array.mem_toList_iff.mp hline))
    constructor
    · simp only [List.forall_mem_map]
      exact fun line hline => by simp [hread line hline]
    · have hspelled : Source.spelled (program.lines.toList.map Line.render) =
          program.lines.toList := by
        rw [Source.spelled, List.filterMap_map]
        calc program.lines.toList.filterMap ((fun raw => Source.line? raw.toList) ∘ Line.render)
            = program.lines.toList.filterMap some :=
              List.filterMap_congr fun line hline => by simp [Source.line?, hread line hline]
          _ = program.lines.toList := List.filterMap_some
      rw [hspelled]

/-- A line with a hint and a parenthesis after it, one without a hint, and one with nothing but a
number. -/
def ticketSource : String := "20 ( Redis ) (again) fetch the ticket\n007 İ\n30"

/-- The program is read back: its parenthesis stands after a hint. -/
theorem rendering_parses_iff_ticketSource :
    ∃ program, parse ticketSource = .ok program ∧
      program.render = "7 İ\n20 (redis) (again) fetch the ticket\n30" ∧
      parse program.render = .ok program := by
  have hparses : (parse ticketSource).toOption.any (fun program =>
      program.render = "7 İ\n20 (redis) (again) fetch the ticket\n30" &&
        program.lines.all fun line => !line.looksHinted) = true := by decide +kernel
  obtain ⟨program, hprogram, hchecks⟩ := exists_ok_of_any hparses
  simp only [Bool.and_eq_true, decide_eq_true_eq, Array.all_eq_true_iff_forall_mem,
    Bool.not_eq_true'] at hchecks
  exact ⟨program, hprogram, hchecks.1, (rendering_parses_iff hprogram).mpr hchecks.2⟩

/-- **A written program that reads as another:** the empty hint is not written, and the instruction
after it is taken for one. -/
theorem rendering_invents_hint :
    ∃ program other, parse "10 () (redis) store it" = .ok program ∧
      parse program.render = .ok other ∧
      program.lines.toList = [⟨10, none, "(redis) store it"⟩] ∧
      other.lines.toList = [⟨10, some "redis", "store it"⟩] := by
  have hparses : (parse "10 () (redis) store it").toOption.any (fun program =>
      (program.lines.toList = [⟨10, none, "(redis) store it"⟩] &&
        (parse program.render).toOption.any fun other =>
          other.lines.toList = [⟨10, some "redis", "store it"⟩])) = true := by decide +kernel
  obtain ⟨program, hprogram, hchecks⟩ := exists_ok_of_any hparses
  simp only [Bool.and_eq_true, decide_eq_true_eq] at hchecks
  obtain ⟨other, hother, hlines⟩ := exists_ok_of_any hchecks.2
  exact ⟨program, other, hprogram, hother, hchecks.1, by simpa using hlines⟩

end Program

end NumberedProse
