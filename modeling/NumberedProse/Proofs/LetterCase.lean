import Mathlib.Tactic.Common
import NumberedProse.Proofs.Lexing
import NumberedProse.Proofs.Phrases
import NumberedProse.Proofs.TextOrder
import NumberedProse.Proofs.Verdicts

/-!
# Reading a text in another case

The readers of this program fold case where they compare words and hints, and elsewhere they only
ask for properties of characters that a letter shares with its capital.

**Characters.**  Such a property is checked on the 26 letters (`Text.apply_toLower`).

**Lines.**  Two sources that are equal up to case parse to programs that are equal up to case, or
neither parses (`Program.parse_of_toLower_eq`).

**Tokens.**  Keywords are lower-cased before they are looked up, so a text in small letters has the
same tokens at the same places, up to the case of what is quoted (`Token.scanFrom_toLower`).
-/

namespace NumberedProse

/-! ## Characters -/

namespace Text

lemma toLower_of_not_capital {c : Char} (h : ¬ ('A'.val ≤ c.val ∧ c.val ≤ 'Z'.val)) :
    c.toLower = c :=
  dif_neg h

lemma exists_capital {c : Char} (h : 'A'.val ≤ c.val ∧ c.val ≤ 'Z'.val) :
    ∃ i : Fin 26, c = Char.ofNat (65 + i) := by
  simp only [UInt32.le_iff_toNat_le] at h
  have hlow : 65 ≤ c.toNat := h.1
  have hhigh : c.toNat ≤ 90 := h.2
  refine ⟨⟨c.toNat - 65, by omega⟩, ?_⟩
  simp only [Nat.add_sub_cancel' hlow, Char.ofNat_toNat]

/-- **What agrees on each capital and its small letter** does not see the case of a letter. -/
lemma apply_toLower {α : Type*} (f : Char → α)
    (h : ∀ i : Fin 26, f (Char.ofNat (97 + i)) = f (Char.ofNat (65 + i))) (c : Char) :
    f c.toLower = f c := by
  have hcapitals : ∀ i : Fin 26, (Char.ofNat (65 + i)).toLower = Char.ofNat (97 + i) := by decide
  by_cases hc : 'A'.val ≤ c.val ∧ c.val ≤ 'Z'.val
  · obtain ⟨i, rfl⟩ := exists_capital hc
    rw [hcapitals, h]
  · rw [toLower_of_not_capital hc]

@[simp] lemma isBlank_toLower (c : Char) : isBlank c.toLower = isBlank c :=
  apply_toLower isBlank (by decide) c

@[simp] lemma isDigit_toLower (c : Char) : c.toLower.isDigit = c.isDigit :=
  apply_toLower Char.isDigit (by decide) c

@[simp] lemma isAlphabetic_toLower (c : Char) : isAlphabetic c.toLower = isAlphabetic c :=
  apply_toLower isAlphabetic (by decide) c

@[simp] lemma isWordChar_toLower (c : Char) : isWordChar c.toLower = isWordChar c :=
  apply_toLower isWordChar (by decide) c

@[simp] lemma isCased_toLower (c : Char) : isCased c.toLower = isCased c :=
  apply_toLower isCased (by decide) c

@[simp] lemma isCaseIgnorable_toLower (c : Char) : isCaseIgnorable c.toLower = isCaseIgnorable c :=
  apply_toLower isCaseIgnorable (by decide) c

@[simp] lemma lowerChar_toLower (c : Char) : lowerChar c.toLower = lowerChar c :=
  apply_toLower lowerChar (by decide) c

/-- A mark that is no letter is not made or lost. -/
lemma toLower_eq_iff {mark : Char}
    (h : ∀ i : Fin 26, Char.ofNat (97 + i) ≠ mark ∧ Char.ofNat (65 + i) ≠ mark) (c : Char) :
    c.toLower = mark ↔ c = mark := by
  simpa using apply_toLower (fun d => d = mark) (fun i => by simp [h i]) c

lemma toLower_beq {mark : Char}
    (h : ∀ i : Fin 26, Char.ofNat (97 + i) ≠ mark ∧ Char.ofNat (65 + i) ≠ mark) (c : Char) :
    (c.toLower == mark) = (c == mark) := by
  rw [Bool.eq_iff_iff, beq_iff_eq, beq_iff_eq, toLower_eq_iff h]

/-! ## Texts -/

lemma takeWhile_toLower {p : Char → Bool} (hp : ∀ c, p c.toLower = p c) (text : List Char) :
    (text.map Char.toLower).takeWhile p = (text.takeWhile p).map Char.toLower := by
  simp only [List.takeWhile_map, Function.comp_def, hp]

lemma dropWhile_toLower {p : Char → Bool} (hp : ∀ c, p c.toLower = p c) (text : List Char) :
    (text.map Char.toLower).dropWhile p = (text.dropWhile p).map Char.toLower := by
  simp only [List.dropWhile_map, Function.comp_def, hp]

lemma trimStart_toLower (text : List Char) :
    trimStart (text.map Char.toLower) = (trimStart text).map Char.toLower :=
  dropWhile_toLower isBlank_toLower text

lemma trim_toLower (text : List Char) :
    trim (text.map Char.toLower) = (trim text).map Char.toLower := by
  simp only [trim, trimEnd, trimStart_toLower, ← List.map_reverse,
    dropWhile_toLower isBlank_toLower]

lemma split_toLower (text : List Char) :
    split '\n' (text.map Char.toLower) = (split '\n' text).map (List.map Char.toLower) := by
  induction text with
  | nil => rfl
  | cons c text ih =>
      have hfeed : (c.toLower == '\n') = (c == '\n') := toLower_beq (by decide) c
      rw [List.map_cons, split_cons, split_cons, hfeed, ih]
      split
      · rfl
      · cases split '\n' text <;> rfl

lemma meetsCased_toLower (text : List Char) :
    meetsCased (text.map Char.toLower) = meetsCased text := by
  simp only [meetsCased, dropWhile_toLower isCaseIgnorable_toLower]
  cases text.dropWhile isCaseIgnorable with
  | nil => rfl
  | cons c rest => exact isCased_toLower c

/-- The context decides the form of a capital sigma, and it does so by what is cased, not by its
case. -/
lemma lowerAfter_toLower (before text : List Char) :
    lowerAfter (before.map Char.toLower) (text.map Char.toLower) = lowerAfter before text := by
  induction text generalizing before with
  | nil => rfl
  | cons c rest ih =>
      have hends : endsWord (before.map Char.toLower) (rest.map Char.toLower) =
          endsWord before rest := by
        simp only [endsWord, meetsCased_toLower]
      have hrest := ih (c :: before)
      rw [List.map_cons] at hrest
      rw [List.map_cons, lowerAfter, lowerAfter, toLower_beq (by decide), hends,
        lowerChar_toLower, hrest]

/-- **Lower-casing forgets the case of letters.** -/
theorem lowercase_toLower (text : List Char) : lowercase (text.map Char.toLower) = lowercase text :=
  lowerAfter_toLower [] text

lemma toLower_of_isDigit {c : Char} (h : c.isDigit = true) : c.toLower = c := by
  refine toLower_of_not_capital fun hcapital => ?_
  obtain ⟨i, rfl⟩ := exists_capital hcapital
  have hnone : ∀ i : Fin 26, (Char.ofNat (65 + i)).isDigit = false := by decide
  simp [hnone] at h

lemma toLower_of_not_isAlphabetic {c : Char} (h : isAlphabetic c = false) : c.toLower = c := by
  refine toLower_of_not_capital fun hcapital => ?_
  obtain ⟨i, rfl⟩ := exists_capital hcapital
  have hall : ∀ i : Fin 26, isAlphabetic (Char.ofNat (65 + i)) = true := by decide
  simp [hall] at h

lemma map_toLower_of_isDigit {text : List Char} (h : ∀ c ∈ text, c.isDigit = true) :
    text.map Char.toLower = text :=
  (List.map_congr_left fun c hc => toLower_of_isDigit (h c hc)).trans (List.map_id' text)

lemma ofList_toLower (text : List Char) :
    String.ofList (text.map Char.toLower) = (String.ofList text).toLower := by
  have hlower : (String.ofList text).toLower.toList = (String.ofList text).toList.map Char.toLower :=
    String.toList_map
  rw [← String.toList_inj, String.toList_ofList, hlower, String.toList_ofList]

lemma decimal?_toLower (text : List Char) : decimal? (text.map Char.toLower) = decimal? text := by
  have hall : (text.map Char.toLower).all Char.isDigit = text.all Char.isDigit := by
    simp [List.all_map, Function.comp_def]
  rw [decimal?, decimal?, List.isEmpty_map, hall]
  split
  · next hdigits =>
      simp only [Bool.and_eq_true, List.all_eq_true] at hdigits
      rw [map_toLower_of_isDigit hdigits.2]
  · rfl

end Text

/-! ## Lines of a source -/

/-- The line with the case of the letters in its instruction forgotten.  Its hint has none to
forget. -/
def Line.foldCase (line : Line) : Line := { line with text := line.text.toLower }

namespace Source

open Text

lemma hintOf_toLower (inside : List Char) : hintOf (inside.map Char.toLower) = hintOf inside := by
  simp only [hintOf, trim_toLower]
  cases trim inside with
  | nil => rfl
  | cons c rest =>
      exact congrArg (fun hint => some (String.ofList hint)) (lowercase_toLower (c :: rest))

lemma readBody_toLower (rest : List Char) :
    readBody (rest.map Char.toLower) =
      (readBody rest).map fun (hint, text) => (hint, text.toLower) := by
  by_cases hopen : rest.head? = some '('
  · obtain ⟨inside, rfl⟩ := List.head?_eq_some_iff.mp hopen
    have hclose : ∀ c : Char, (c.toLower != ')') = (c != ')') := by
      intro c
      rw [bne, bne, toLower_beq (by decide)]
    have hparen : '('.toLower = '(' := rfl
    simp only [List.map_cons, hparen, readBody, dropWhile_toLower (p := (· != ')')) hclose,
      takeWhile_toLower (p := (· != ')')) hclose]
    cases inside.dropWhile (· != ')') with
    | nil => rfl
    | cons c text =>
        simp only [List.map_cons, hintOf_toLower, trim_toLower, ofList_toLower, Option.map_some]
  · have hlower : (rest.map Char.toLower).head? ≠ some '(' := by
      cases rest with
      | nil => simp
      | cons c rest =>
          simp only [List.map_cons, List.head?_cons, ne_eq, Option.some.injEq] at hopen ⊢
          rwa [toLower_eq_iff (by decide)]
    rw [readBody_of_head hopen, readBody_of_head hlower, trim_toLower, ofList_toLower]
    rfl

lemma inNumeral_toLower (c : Char) : inNumeral c.toLower = inNumeral c := by
  rw [inNumeral, inNumeral, isBlank_toLower, toLower_beq (by decide)]

lemma lineNumber?_toLower (numeral : List Char) :
    lineNumber? (numeral.map Char.toLower) = lineNumber? numeral := by
  simp only [lineNumber?, decimal?_toLower]

lemma readNumbered_toLower (k : Nat) (text : List Char) :
    (readNumbered k (text.map Char.toLower)).toOption =
      (readNumbered k text).toOption.map Line.foldCase := by
  have hhead : ((text.takeWhile inNumeral).map Char.toLower).head?.any Char.isDigit =
      (text.takeWhile inNumeral).head?.any Char.isDigit := by
    cases text.takeWhile inNumeral <;> simp
  simp only [readNumbered, takeWhile_toLower inNumeral_toLower,
    dropWhile_toLower inNumeral_toLower, hhead, lineNumber?_toLower, trimStart_toLower,
    readBody_toLower]
  split
  · rfl
  · cases lineNumber? (text.takeWhile inNumeral) with
    | none => rfl
    | some number => cases readBody (trimStart (text.dropWhile inNumeral)) <;> rfl

lemma isSkipped_toLower (text : List Char) :
    isSkipped (text.map Char.toLower) = isSkipped text := by
  cases text with
  | nil => rfl
  | cons c rest =>
      rw [List.map_cons, isSkipped, isSkipped, toLower_beq (by decide), toLower_beq (by decide)]

/-- **What a source line spells,** up to the case of its letters. -/
lemma content?_toLower (raw : List Char) :
    content? (raw.map Char.toLower) = (content? raw).map (Option.map Line.foldCase) := by
  have hnumbered := readNumbered_toLower 0 (trim raw)
  simp only [content?, readLine, trim_toLower, isSkipped_toLower]
  split
  · rfl
  · cases hraw : readNumbered 0 (trim raw) <;>
      cases hlower : readNumbered 0 ((trim raw).map Char.toLower) <;>
      simp_all [Except.toOption]

lemma readable_toLower (raws : List (List Char)) :
    (∀ raw ∈ raws.map (List.map Char.toLower), (content? raw).isSome) ↔
      ∀ raw ∈ raws, (content? raw).isSome := by
  simp [content?_toLower]

lemma filterMap_line?_toLower (raws : List (List Char)) :
    (raws.map (List.map Char.toLower)).filterMap line? =
      (raws.filterMap line?).map Line.foldCase := by
  rw [List.filterMap_map, List.map_filterMap]
  refine List.filterMap_congr fun raw _ => ?_
  simp only [Function.comp_apply, line?, content?_toLower]
  cases content? raw <;> rfl

end Source

namespace Program

/-- The program with the case of the letters in its instructions forgotten. -/
def foldCase (program : Program) : Program where
  lines := program.lines.map Line.foldCase
  increasing := by simpa [List.pairwise_map, Line.foldCase] using program.increasing
  nonempty := by simpa using program.nonempty

/-- **Sources with the same letters spell programs with the same letters.** -/
theorem parse_of_toLower_eq {source source' : String} (h : source.toLower = source'.toLower)
    {program : Program} (hprogram : parse source = .ok program) :
    ∃ program', parse source' = .ok program' ∧ program'.foldCase = program.foldCase := by
  obtain ⟨hreadable, hperm⟩ := spelled_of_parse hprogram
  have hraws : (Text.split '\n' source.toList).map (List.map Char.toLower) =
      (Text.split '\n' source'.toList).map (List.map Char.toLower) := by
    have hchars : source.toList.map Char.toLower = source'.toList.map Char.toLower :=
      String.toList_map.symm.trans ((congrArg String.toList h).trans String.toList_map)
    rw [← Text.split_toLower, ← Text.split_toLower, hchars]
  have hlines : ((Text.split '\n' source.toList).filterMap Source.line?).map Line.foldCase =
      ((Text.split '\n' source'.toList).filterMap Source.line?).map Line.foldCase := by
    rw [← Source.filterMap_line?_toLower, hraws, Source.filterMap_line?_toLower]
  have hnumbers : ((Text.split '\n' source.toList).filterMap Source.line?).map Line.number =
      ((Text.split '\n' source'.toList).filterMap Source.line?).map Line.number := by
    simpa [Function.comp_def, Line.foldCase] using congrArg (List.map Line.number) hlines
  have hreadable' : ∀ raw ∈ Text.split '\n' source'.toList, (Source.content? raw).isSome := by
    rwa [← Source.readable_toLower, ← hraws, Source.readable_toLower]
  have hdistinct :
      (((Text.split '\n' source'.toList).filterMap Source.line?).map Line.number).Nodup := by
    rw [← hnumbers]
    exact (hperm.map Line.number).nodup_iff.mp program.nodup_numbers
  have hsome : (Text.split '\n' source'.toList).filterMap Source.line? ≠ [] := by
    intro hnil
    rw [hnil, List.map_nil, List.map_eq_nil_iff] at hnumbers
    exact ne_nil_of_perm hperm hnumbers
  obtain ⟨program', hprogram'⟩ := exists_parse hreadable' hdistinct hsome
  refine ⟨program', hprogram', eq_of_perm ?_⟩
  have hperm' := (spelled_of_parse hprogram').2
  simp only [foldCase, Array.toList_map]
  exact (hperm'.map _).trans (hlines ▸ (hperm.map _).symm)

end Program

/-! ## Tokens -/

namespace Token

open Text

lemma readQuotedBody_toLower (text : List Char) :
    readQuotedBody (text.map Char.toLower) =
      ⟨(readQuotedBody text).content.map Char.toLower, (readQuotedBody text).width,
        (readQuotedBody text).rest.map Char.toLower⟩ := by
  fun_induction readQuotedBody text with
  | case1 => rfl
  | case2 rest => rfl
  | case3 => rfl
  | case4 c rest body ih =>
      have hslash : '\\'.toLower = '\\' := rfl
      simp only [List.map_cons, hslash, readQuotedBody, ih, body]
  | case5 c rest hquote hlone hslash body ih =>
      have hplain := ne_backslash hlone hslash
      have hquote' : c.toLower ≠ '"' := by
        rwa [ne_eq, toLower_eq_iff (by decide)]
      have hplain' : c.toLower ≠ '\\' := by
        rwa [ne_eq, toLower_eq_iff (by decide)]
      rw [List.map_cons, readQuotedBody_cons hquote' hplain', ih]
      rfl

lemma takeWhile_isDigit_toLower (text : List Char) :
    (text.map Char.toLower).takeWhile Char.isDigit = text.takeWhile Char.isDigit := by
  rw [takeWhile_toLower isDigit_toLower]
  exact map_toLower_of_isDigit fun c hc => List.mem_takeWhile_imp hc

lemma readDigits_toLower (text : List Char) :
    readDigits (text.map Char.toLower) =
      ⟨(readDigits text).digits, (readDigits text).hasPoint,
        (readDigits text).rest.map Char.toLower⟩ := by
  have hpoint : '.'.toLower = '.' := rfl
  simp only [readDigits, takeWhile_isDigit_toLower, dropWhile_toLower isDigit_toLower]
  rcases text.dropWhile Char.isDigit with _ | ⟨c, _ | ⟨d, rest⟩⟩
  · rfl
  · have hc : c.toLower = '.' ↔ c = '.' := toLower_eq_iff (by decide) c
    by_cases hdot : c = '.' <;> simp [hdot, hc]
  · have hc : c.toLower = '.' ↔ c = '.' := toLower_eq_iff (by decide) c
    by_cases hdot : c = '.'
    · simp only [hdot, hpoint, List.map_cons, isDigit_toLower]
      split
      · next hd =>
          simp only [toLower_of_isDigit hd, takeWhile_isDigit_toLower,
            dropWhile_toLower isDigit_toLower]
      · rfl
    · simp [hdot, hc]

lemma map_toLower_readDigits (text : List Char) :
    (readDigits text).digits.map Char.toLower = (readDigits text).digits := by
  -- Both take the same characters off the text, and leave the same.
  have hmapped := congrArg (List.map Char.toLower) (readDigits_append text)
  have hread := readDigits_append (text.map Char.toLower)
  rw [readDigits_toLower, ← hmapped, List.map_append] at hread
  exact (List.append_cancel_right hread).symm

lemma readNumber_toLower (text : List Char) :
    readNumber (text.map Char.toLower) =
      { readNumber text with rest := (readNumber text).rest.map Char.toLower } := by
  have hhead : ((readDigits text).rest.map Char.toLower).head?.any isAlphabetic =
      (readDigits text).rest.head?.any isAlphabetic := by
    cases (readDigits text).rest <;> simp
  have hrun : (readDigits text).digits ++
        ((readDigits text).rest.map Char.toLower).takeWhile isWordChar =
      ((readDigits text).digits ++ (readDigits text).rest.takeWhile isWordChar).map
        Char.toLower := by
    rw [List.map_append, map_toLower_readDigits, takeWhile_toLower isWordChar_toLower]
  simp only [readNumber, readDigits_toLower, hhead]
  split
  · rw [hrun, lowercase_toLower, List.length_map, dropWhile_toLower isWordChar_toLower]
  · rfl

lemma readWord_toLower (text : List Char) :
    readWord (text.map Char.toLower) =
      { readWord text with rest := (readWord text).rest.map Char.toLower } := by
  simp only [readWord, takeWhile_toLower isWordChar_toLower, dropWhile_toLower isWordChar_toLower,
    lowercase_toLower, List.length_map]

/-- **A reader sees letters, not their case,** except inside quotes. -/
lemma read_toLower (c : Char) (rest : List Char) :
    (read c.toLower (rest.map Char.toLower)).token.outline = (read c rest).token.outline ∧
      (read c.toLower (rest.map Char.toLower)).width = (read c rest).width ∧
      (read c.toLower (rest.map Char.toLower)).rest = (read c rest).rest.map Char.toLower := by
  have hquote : (c.toLower == '"') = (c == '"') := toLower_beq (by decide) c
  have hlow : (c.toLower == '_') = (c == '_') := toLower_beq (by decide) c
  simp only [read, hquote, isDigit_toLower, isAlphabetic_toLower, hlow, ← List.map_cons,
    readNumber_toLower, readWord_toLower]
  split
  · simp [readQuoted, readQuotedBody_toLower, outline]
  · split
    · exact ⟨rfl, rfl, rfl⟩
    · split
      · exact ⟨rfl, rfl, rfl⟩
      · next hmark =>
          have halpha : isAlphabetic c = false := by
            simp_all
          rw [toLower_of_not_isAlphabetic halpha]
          exact ⟨rfl, rfl, rfl⟩

lemma scanFrom_toLower (place : Nat) (text : List Char) :
    (scanFrom place (text.map Char.toLower)).map Lexeme.outline =
      (scanFrom place text).map Lexeme.outline := by
  fun_induction scanFrom place text with
  | case1 place => rw [List.map_nil, scanFrom]
  | case2 place c rest hblank ih =>
      rw [List.map_cons, scanFrom_of_blank (by rwa [isBlank_toLower]), ih]
  | case3 place c rest hblank reading _ ih =>
      have hread : reading = read c rest := rfl
      obtain ⟨htoken, hwidth, hrest⟩ := read_toLower c rest
      rw [hread] at ih ⊢
      rw [List.map_cons, scanFrom_of_not_blank (by simpa using hblank), hwidth, hrest,
        List.map_cons, List.map_cons, ih, Lexeme.outline, htoken]
      rfl

end Token

end NumberedProse
