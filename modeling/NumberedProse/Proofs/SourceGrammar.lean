import Mathlib.Data.List.Forall2
import Mathlib.Tactic.Common
import NumberedProse.Proofs.Rendering

/-!
# The grammar of sources

Which texts are programs, which program each of them is, and what is wrong with the others.

**One line.**  A line that is not ignorable begins with the text in the number's place
(`Source.Heads`).  It is in good form (`Source.WellFormed`) if this text is the numeral of a line
number (`Source.Numbers`) and a parenthesis that opens after it is closed.  Such a line spells one
line of a program (`Source.Spells`), with the hint that stands between the parentheses
(`Source.Hints`), and any other has one of three faults (`Source.Faults`).  The reader finds the one
or the other: `Source.line?_eq_some_iff`, `Source.readLine_error`.

**All lines.**  Reading goes from top to bottom and stops at the first fault, which may be that a
number comes twice (`Source.FaultyAt`).  Up to there the draft holds exactly the lines that were
spelled, each with its place in the source (`Source.ReadUpTo`).  This is kept by every line that is
read (`Source.ReadUpTo.succ_of_ignorable`, `Source.ReadUpTo.succ_of_spells`), and it is what the
error at the first fault rests on (`Source.ReadUpTo.readLines_cases`).
-/

namespace NumberedProse

namespace Source

/-! ## The grammar of a line -/

/-- **The number's place in a line:** the longest beginning of the trimmed line without a blank or
an opening parenthesis.  The rest is what follows it. -/
structure Heads (raw numeral rest : List Char) : Prop where
  text : Text.trim raw = numeral ++ rest
  inside : ∀ c ∈ numeral, Text.isBlank c = false ∧ c ≠ '('
  longest : ∀ c ∈ rest.head?, Text.isBlank c = true ∨ c = '('

/-- **A numeral of a line number:** digits whose value is a line number other than zero. -/
structure Numbers (numeral : List Char) (n : LineNumber) : Prop where
  digits : ∀ c ∈ numeral, c.isDigit = true
  value : Nat.ofDigitChars 10 numeral 0 = n.toNat
  positive : n ≠ 0

/-- **What stands between parentheses:** a hint, which is trimmed and lower-cased, or nothing but
blanks, which is no hint. -/
inductive Hints (inside : List Char) : Option String → Prop where
  | none (h : Text.trim inside = []) : Hints inside none
  | some (h : Text.trim inside ≠ []) :
      Hints inside (some (String.ofList (Text.lowercase (Text.trim inside))))

/-- **What follows the number:** an instruction, with or without a hint before it.  A hint ends at
the first closing parenthesis. -/
inductive Body (rest : List Char) : Option String → String → Prop where
  | plain (h : (Text.trimStart rest).head? ≠ some '(') :
      Body rest none (String.ofList (Text.trim rest))
  | hinted {inside tail : List Char} {hint : Option String}
      (h : Text.trimStart rest = '(' :: (inside ++ ')' :: tail)) (hinside : ')' ∉ inside)
      (hhint : Hints inside hint) : Body rest hint (String.ofList (Text.trim tail))

/-- **A line in good form,** with the number it carries: the number's place holds a numeral, and if
the next character that is not blank opens a parenthesis, the parenthesis is closed. -/
def WellFormed (raw : List Char) (n : LineNumber) : Prop :=
  ∃ numeral rest, Heads raw numeral rest ∧ Numbers numeral n ∧
    ∀ inside, Text.trimStart rest = '(' :: inside → ')' ∈ inside

/-- **The line of a program that a source line spells.** -/
def Spells (raw : List Char) (line : Line) : Prop :=
  ∃ numeral rest, Heads raw numeral rest ∧ Numbers numeral line.number ∧
    Body rest line.hint line.text

/-- **What can be wrong with a line,** as the error that is reported at its place. -/
inductive Faults (raw : List Char) (place : Nat) : ParseError → Prop where
  | missingNumber {numeral rest : List Char} (heads : Heads raw numeral rest)
      (h : ∀ c ∈ numeral.head?, c.isDigit = false) : Faults raw place (.missingNumber place)
  | invalidNumber {numeral rest : List Char} (heads : Heads raw numeral rest) {c : Char}
      (hfirst : numeral.head? = some c) (hc : c.isDigit = true) (h : ∀ n, ¬ Numbers numeral n) :
      Faults raw place (.invalidNumber place (String.ofList numeral))
  | unterminatedHint {numeral rest inside : List Char} {n : LineNumber}
      (heads : Heads raw numeral rest) (numbers : Numbers numeral n)
      (hopen : Text.trimStart rest = '(' :: inside) (h : ')' ∉ inside) :
      Faults raw place (.unterminatedHint place n)

/-- A line that is neither ignorable nor in good form. -/
def Malformed (raw : List Char) : Prop := isIgnorable raw = false ∧ ∀ n, ¬ WellFormed raw n

/-! ## Reading a line -/

lemma inNumeral_iff {c : Char} : inNumeral c = true ↔ Text.isBlank c = false ∧ c ≠ '(' := by
  simp [inNumeral]

lemma heads_iff {raw numeral rest : List Char} :
    Heads raw numeral rest ↔
      numeral = (Text.trim raw).takeWhile inNumeral ∧
        rest = (Text.trim raw).dropWhile inNumeral := by
  constructor
  · rintro ⟨htext, hinside, hlongest⟩
    have hnumeral : ∀ c ∈ numeral, inNumeral c = true := fun c hc =>
      inNumeral_iff.mpr (hinside c hc)
    have hrest : rest.takeWhile inNumeral = [] ∧ rest.dropWhile inNumeral = rest := by
      cases rest with
      | nil => exact ⟨rfl, rfl⟩
      | cons c tail =>
          have hc : ¬ inNumeral c = true := by
            rw [inNumeral_iff]
            rintro ⟨hblank, hparen⟩
            rcases hlongest c rfl with h | h
            · rw [h] at hblank
              cases hblank
            · exact hparen h
          exact ⟨List.takeWhile_cons_of_neg hc, List.dropWhile_cons_of_neg hc⟩
    rw [htext, List.takeWhile_append_of_pos hnumeral, List.dropWhile_append_of_pos hnumeral,
      hrest.1, hrest.2, List.append_nil]
    exact ⟨rfl, rfl⟩
  · rintro ⟨rfl, rfl⟩
    refine ⟨List.takeWhile_append_dropWhile.symm, ?_, ?_⟩
    · intro c hc
      exact inNumeral_iff.mp (List.mem_takeWhile_imp hc)
    · intro c hc
      have hnot : inNumeral c = false := by
        simpa [Option.mem_def.mp hc] using List.head?_dropWhile_not inNumeral (Text.trim raw)
      by_contra hneither
      rw [not_or, Bool.not_eq_true] at hneither
      rw [inNumeral_iff.mpr hneither] at hnot
      cases hnot

lemma exists_heads (raw : List Char) : ∃ numeral rest, Heads raw numeral rest :=
  ⟨_, _, heads_iff.mpr ⟨rfl, rfl⟩⟩

lemma Numbers.head_isDigit {numeral : List Char} {n : LineNumber} (h : Numbers numeral n) :
    numeral.head?.any Char.isDigit = true := by
  cases numeral with
  | nil =>
      -- An empty numeral has the value zero.
      refine absurd (UInt32.toNat_inj.mp ?_) h.positive
      simpa using h.value.symm
  | cons c rest => exact h.digits c List.mem_cons_self

lemma lineNumber?_eq_some_iff {numeral : List Char} {n : LineNumber} :
    lineNumber? numeral = some n ↔ Numbers numeral n := by
  constructor
  · intro h
    have hpositive := lineNumber?_ne_zero h
    simp only [lineNumber?, Text.decimal?] at h
    split at h
    · next value hvalue =>
        split at hvalue
        · next hdigits =>
            cases hvalue
            split at h
            · next hbounds =>
                simp only [Bool.and_eq_true, decide_eq_true_eq] at hbounds
                cases h
                simp only [Bool.and_eq_true, List.all_eq_true] at hdigits
                refine ⟨hdigits.2, ?_, hpositive⟩
                rw [UInt32.toNat_ofNat_of_lt' hbounds.2]
            · cases h
        · cases hvalue
    · cases h
  · intro h
    have hnonempty : numeral ≠ [] := by
      rintro rfl
      cases h.head_isDigit
    have hdecimal : Text.decimal? numeral = some n.toNat := by
      rw [Text.decimal?, if_pos, h.value]
      simpa [hnonempty] using h.digits
    have hpositive : 0 < n.toNat := by
      rw [Nat.pos_iff_ne_zero]
      exact fun hzero => h.positive (UInt32.toNat_inj.mp hzero)
    simp [lineNumber?, hdecimal, hpositive, n.toNat_lt]

lemma trim_trimStart (text : List Char) : Text.trim (Text.trimStart text) = Text.trim text := by
  rw [Text.trim, Text.trim, Text.trimStart, Text.trimStart, List.dropWhile_idempotent]

lemma hintOf_eq_iff {inside : List Char} {hint : Option String} :
    hintOf inside = hint ↔ Hints inside hint := by
  rw [hintOf]
  constructor
  · rintro rfl
    split
    · next hblank => exact .none hblank
    · next hblank => exact .some hblank
  · intro h
    cases h with
    | none hblank => rw [hblank]
    | some htext =>
        split
        · next hblank => exact absurd hblank htext
        · rfl

lemma readBody_eq_some_iff {rest : List Char} {hint : Option String} {text : String} :
    readBody (Text.trimStart rest) = some (hint, text) ↔ Body rest hint text := by
  constructor
  · intro h
    obtain ⟨inside, tail, hinside, hrest, rfl, rfl⟩ | ⟨hhead, rfl, rfl⟩ := readBody_cases h
    · exact .hinted hrest hinside (hintOf_eq_iff.mp rfl)
    · rw [trim_trimStart]
      exact .plain hhead
  · intro h
    cases h with
    | plain hhead => rw [readBody_of_head hhead, trim_trimStart]
    | hinted hrest hinside hhint =>
        rw [hrest, readBody_hint hinside, hintOf_eq_iff.mpr hhint]

lemma readBody_eq_none {rest : List Char} (h : readBody rest = none) :
    ∃ inside, rest = '(' :: inside ∧ ')' ∉ inside := by
  by_cases hhead : rest.head? = some '('
  · obtain ⟨inside, rfl⟩ := List.head?_eq_some_iff.mp hhead
    refine ⟨inside, rfl, fun hmem => ?_⟩
    obtain ⟨front, tail, rfl, hfront⟩ := List.eq_append_cons_of_mem hmem
    rw [readBody_hint hfront] at h
    cases h
  · rw [readBody_of_head hhead] at h
    cases h

lemma isIgnorable_of_spells {raw : List Char} {line : Line} (h : Spells raw line) :
    isIgnorable raw = false := by
  obtain ⟨numeral, rest, heads, numbers, -⟩ := h
  have hdigit := numbers.head_isDigit
  rw [← isSkipped_trim, heads.text]
  cases numeral with
  | nil => cases hdigit
  | cons c tail =>
      have hc : c.isDigit = true := hdigit
      simp only [List.cons_append, isSkipped, Bool.or_eq_false_iff, beq_eq_false_iff_ne]
      constructor <;> (rintro rfl; cases hc)

lemma readNumbered_of_spells {raw : List Char} {line : Line} (h : Spells raw line) (place : Nat) :
    readNumbered place (Text.trim raw) = .ok line := by
  obtain ⟨numeral, rest, heads, numbers, body⟩ := h
  obtain ⟨rfl, rfl⟩ := heads_iff.mp heads
  simp only [readNumbered, numbers.head_isDigit, lineNumber?_eq_some_iff.mpr numbers,
    readBody_eq_some_iff.mpr body]
  rfl

/-- **Reading a line that is not ignorable:** it spells a line, or it has a fault. -/
lemma spells_or_faults (place : Nat) (raw : List Char) :
    (∃ line, readNumbered place (Text.trim raw) = .ok line ∧ Spells raw line) ∨
    ∃ e, readNumbered place (Text.trim raw) = .error e ∧ Faults raw place e := by
  obtain ⟨numeral, rest, heads⟩ := exists_heads raw
  obtain ⟨hnumeral, hrest⟩ := heads_iff.mp heads
  simp only [readNumbered, ← hnumeral, ← hrest]
  cases hdigit : numeral.head?.any Char.isDigit with
  | false =>
      refine .inr ⟨_, rfl, .missingNumber heads fun c hc => ?_⟩
      rw [Option.mem_def.mp hc] at hdigit
      exact hdigit
  | true =>
      obtain ⟨c, hfirst, hc⟩ := (Option.any_eq_true _ _).mp hdigit
      cases hnumber : lineNumber? numeral with
      | none =>
          refine .inr ⟨_, rfl, .invalidNumber heads hfirst hc fun n hn => ?_⟩
          rw [lineNumber?_eq_some_iff.mpr hn] at hnumber
          cases hnumber
      | some n =>
          have numbers := lineNumber?_eq_some_iff.mp hnumber
          cases hbody : readBody (Text.trimStart rest) with
          | none =>
              obtain ⟨inside, hopen, hinside⟩ := readBody_eq_none hbody
              exact .inr ⟨_, rfl, .unterminatedHint heads numbers hopen hinside⟩
          | some read =>
              exact .inl ⟨_, rfl, numeral, rest, heads, numbers, readBody_eq_some_iff.mp hbody⟩

lemma line?_eq_some_iff {raw : List Char} {line : Line} :
    line? raw = some line ↔ Spells raw line := by
  rw [line?, Option.join_eq_some_iff, ← readLine_eq_ok_iff (k := 0), readLine, isSkipped_trim]
  constructor
  · intro h
    split at h
    · cases h
    · obtain ⟨found, hfound, hspells⟩ | ⟨e, he, -⟩ := spells_or_faults 0 raw
      · rw [hfound] at h
        cases h
        exact hspells
      · rw [he] at h
        cases h
  · intro h
    simp [isIgnorable_of_spells h, readNumbered_of_spells h]

lemma content?_eq_some_none_iff {raw : List Char} :
    content? raw = some none ↔ isIgnorable raw = true := by
  refine ⟨fun h => ?_, content?_of_isIgnorable⟩
  rw [← readLine_eq_ok_iff (k := 0), readLine, isSkipped_trim] at h
  by_contra hnot
  rw [if_neg hnot] at h
  split at h <;> cases h

lemma readLine_error {raw : List Char} {place : Nat} {e : ParseError}
    (h : readLine place raw = .error e) : isIgnorable raw = false ∧ Faults raw place e := by
  simp only [readLine, isSkipped_trim] at h
  split at h
  · cases h
  · next hnot =>
      refine ⟨by simpa using hnot, ?_⟩
      obtain ⟨line, hline, -⟩ | ⟨found, hfound, hfaults⟩ := spells_or_faults place raw
      · rw [hline] at h
        cases h
      · rw [hfound] at h
        cases h
        exact hfaults

/-! ## Good form -/

lemma exists_body_iff {rest : List Char} :
    (∃ hint text, Body rest hint text) ↔
      ∀ inside, Text.trimStart rest = '(' :: inside → ')' ∈ inside := by
  constructor
  · rintro ⟨hint, text, hbody⟩ inside hinside
    cases hbody with
    | plain hhead => exact absurd (by rw [hinside]; rfl) hhead
    | hinted hopen _ _ =>
        rw [hopen, List.cons.injEq] at hinside
        rw [← hinside.2]
        simp
  · intro hclosed
    by_cases hhead : (Text.trimStart rest).head? = some '('
    · obtain ⟨inside, hinside⟩ := List.head?_eq_some_iff.mp hhead
      obtain ⟨front, tail, rfl, hfront⟩ := List.eq_append_cons_of_mem (hclosed inside hinside)
      exact ⟨_, _, .hinted hinside hfront (hintOf_eq_iff.mp rfl)⟩
    · exact ⟨_, _, .plain hhead⟩

/-- **A line is in good form exactly if it spells a line of a program.** -/
lemma wellFormed_iff {raw : List Char} {n : LineNumber} :
    WellFormed raw n ↔ ∃ line, Spells raw line ∧ line.number = n := by
  simp only [WellFormed, ← exists_body_iff]
  constructor
  · rintro ⟨numeral, rest, heads, numbers, hint, text, body⟩
    exact ⟨⟨n, hint, text⟩, ⟨numeral, rest, heads, numbers, body⟩, rfl⟩
  · rintro ⟨line, ⟨numeral, rest, heads, numbers, body⟩, rfl⟩
    exact ⟨numeral, rest, heads, numbers, _, _, body⟩

lemma exists_wellFormed_iff {raw : List Char} :
    (∃ n, WellFormed raw n) ↔ (line? raw).isSome = true := by
  simp only [wellFormed_iff, Option.isSome_iff_exists, line?_eq_some_iff]
  constructor
  · rintro ⟨_, line, hline, -⟩
    exact ⟨line, hline⟩
  · rintro ⟨line, hline⟩
    exact ⟨_, line, hline, rfl⟩

/-- Good form is decided by reading the line. -/
instance (raw : List Char) : Decidable (∃ n, WellFormed raw n) :=
  decidable_of_iff _ exists_wellFormed_iff.symm

lemma Spells.unique {raw : List Char} {line other : Line} (h : Spells raw line)
    (hother : Spells raw other) : line = other := by
  rw [← line?_eq_some_iff] at h hother
  rw [h] at hother
  exact Option.some.inj hother

/-- A fault names the place it was found at, and it leaves no good form. -/
lemma Faults.malformed {raw : List Char} {place : Nat} {e : ParseError} (h : Faults raw place e)
    (hignorable : isIgnorable raw = false) : Malformed raw := by
  refine ⟨hignorable, fun n hn => ?_⟩
  obtain ⟨numeral, rest, heads, numbers, hclosed⟩ := hn
  obtain ⟨rfl, rfl⟩ := heads_iff.mp heads
  cases h with
  | missingNumber heads h =>
      obtain ⟨rfl, -⟩ := heads_iff.mp heads
      obtain ⟨c, hc, hdigit⟩ := (Option.any_eq_true _ _).mp numbers.head_isDigit
      rw [h c hc] at hdigit
      cases hdigit
  | invalidNumber heads _ _ h =>
      obtain ⟨rfl, -⟩ := heads_iff.mp heads
      exact h n numbers
  | unterminatedHint heads _ hopen h =>
      obtain ⟨-, rfl⟩ := heads_iff.mp heads
      exact h (hclosed _ hopen)

lemma Faults.sourceLine? {raw : List Char} {place : Nat} {e : ParseError}
    (h : Faults raw place e) : e.sourceLine? = some place := by
  cases h <;> rfl

/-! ## Putting a line into the draft -/

lemma mem_of_insertPlaced_error {new : Placed} {old : List Placed} {earlier : Nat}
    (h : insertPlaced new old = .error earlier) :
    ∃ p ∈ old, p.line.number = new.line.number ∧ p.sourceLine = earlier := by
  induction old with
  | nil => cases h
  | cons first rest ih =>
      simp only [insertPlaced] at h
      split at h
      · cases h
      · next hge =>
          split at h
          · split at h
            · cases h
            · next hrest =>
                cases h
                obtain ⟨p, hp, hsame⟩ := ih hrest
                exact ⟨p, List.mem_cons_of_mem _ hp, hsame⟩
          · next hle =>
              cases h
              refine ⟨first, List.mem_cons_self, ?_, rfl⟩
              exact UInt32.le_antisymm (UInt32.not_lt.mp hge) (UInt32.not_lt.mp hle)

namespace Draft

variable {draft draft' : Draft} {new : Placed}

lemma perm_placed_insert (h : draft.insert new = .ok draft') :
    draft'.placed.Perm (new :: draft.placed) := by
  simp only [insert] at h
  split at h
  · next placed hplaced =>
      cases h
      exact perm_insertPlaced hplaced
  · cases h

/-- A line that was put in had a number of its own. -/
lemma number_ne_of_insert (h : draft.insert new = .ok draft') :
    ∀ p ∈ draft.placed, p.line.number ≠ new.line.number := by
  have hdistinct : draft'.placed.Pairwise fun a b => a.line.number ≠ b.line.number :=
    draft'.increasing.imp fun hlt => UInt32.ne_of_lt hlt
  have hall := (perm_placed_insert h).pairwise hdistinct fun h => h.symm
  intro p hp heq
  exact (List.pairwise_cons.mp hall).1 p hp heq.symm

lemma mem_of_insert_error {earlier : Nat} (h : draft.insert new = .error earlier) :
    ∃ p ∈ draft.placed, p.line.number = new.line.number ∧ p.sourceLine = earlier := by
  simp only [insert] at h
  split at h
  · cases h
  · next hearlier =>
      cases h
      exact mem_of_insertPlaced_error hearlier

end Draft

/-! ## The first fault of a source -/

/-- Two source lines in good form carry the same number. -/
structure Repeats (raws : List (List Char)) (j k : Nat) (n : LineNumber) : Prop where
  before : j < k
  earlier : ∃ raw, raws[j]? = some raw ∧ WellFormed raw n
  later : ∃ raw, raws[k]? = some raw ∧ WellFormed raw n

/-- **A place where reading cannot go on:** the line there is malformed, or it repeats the number of
an earlier one. -/
def FaultyAt (raws : List (List Char)) (k : Nat) : Prop :=
  (∃ raw, raws[k]? = some raw ∧ Malformed raw) ∨ ∃ j n, Repeats raws j k n

/-- **The error at a faulty place.** -/
def ErrorAt (raws : List (List Char)) (k : Nat) (e : ParseError) : Prop :=
  (∃ raw, raws[k]? = some raw ∧ Malformed raw ∧ Faults raw (k + 1) e) ∨
  ∃ j n, Repeats raws j k n ∧ e = .duplicateNumber (k + 1) n (j + 1)

/-- **What the draft is when reading has come to a place:** nothing before it is faulty, and the
draft holds the lines spelled before it, each with its place, counted from 1. -/
structure ReadUpTo (raws : List (List Char)) (k : Nat) (draft : Draft) : Prop where
  clean : ∀ i < k, ¬ FaultyAt raws i
  placed : ∀ p, p ∈ draft.placed ↔
    ∃ i < k, ∃ raw, raws[i]? = some raw ∧ p.sourceLine = i + 1 ∧ Spells raw p.line

namespace ReadUpTo

variable {raws : List (List Char)} {k : Nat} {draft : Draft}

lemma start (raws : List (List Char)) : ReadUpTo raws 0 .empty :=
  ⟨by simp, by simp [Draft.empty]⟩

lemma clean_succ (h : ReadUpTo raws k draft) (hk : ¬ FaultyAt raws k) :
    ∀ i < k + 1, ¬ FaultyAt raws i := by
  intro i hi
  rcases Nat.lt_or_eq_of_le (Nat.le_of_lt_succ hi) with hlt | rfl
  · exact h.clean i hlt
  · exact hk

lemma succ_of_ignorable (h : ReadUpTo raws k draft) {raw : List Char} (hraw : raws[k]? = some raw)
    (hignorable : isIgnorable raw = true) : ReadUpTo raws (k + 1) draft := by
  have hnot : ∀ line, ¬ Spells raw line := by
    intro line hline
    rw [isIgnorable_of_spells hline] at hignorable
    cases hignorable
  refine ⟨h.clean_succ ?_, fun p => ?_⟩
  · rintro (⟨found, hfound, hmalformed, -⟩ | ⟨j, n, hrepeats⟩)
    · rw [hraw] at hfound
      cases hfound
      rw [hignorable] at hmalformed
      cases hmalformed
    · obtain ⟨found, hfound, hwell⟩ := hrepeats.later
      rw [hraw] at hfound
      cases hfound
      obtain ⟨line, hline, -⟩ := wellFormed_iff.mp hwell
      exact hnot line hline
  · rw [h.placed p]
    constructor
    · rintro ⟨i, hi, hrest⟩
      exact ⟨i, by omega, hrest⟩
    · rintro ⟨i, hi, found, hfound, hplace, hspells⟩
      rcases Nat.lt_or_eq_of_le (Nat.le_of_lt_succ hi) with hlt | rfl
      · exact ⟨i, hlt, found, hfound, hplace, hspells⟩
      · rw [hraw] at hfound
        cases hfound
        exact absurd hspells (hnot _)

lemma succ_of_spells (h : ReadUpTo raws k draft) {raw : List Char} (hraw : raws[k]? = some raw)
    {line : Line} (hspells : Spells raw line) {draft' : Draft}
    (hinsert : draft.insert ⟨line, k + 1⟩ = .ok draft') : ReadUpTo raws (k + 1) draft' := by
  refine ⟨h.clean_succ ?_, fun p => ?_⟩
  · rintro (⟨found, hfound, -, hmalformed⟩ | ⟨j, n, hrepeats⟩)
    · rw [hraw] at hfound
      cases hfound
      exact hmalformed line.number (wellFormed_iff.mpr ⟨line, hspells, rfl⟩)
    · -- The line that is repeated would be in the draft, and the new one could not be put in.
      obtain ⟨found, hfound, hwell⟩ := hrepeats.later
      rw [hraw] at hfound
      cases hfound
      obtain ⟨same, hsame, hnumber⟩ := wellFormed_iff.mp hwell
      obtain rfl := hspells.unique hsame
      obtain ⟨old, hold, hearlier⟩ := hrepeats.earlier
      obtain ⟨first, hfirst, hrepeated⟩ := wellFormed_iff.mp hearlier
      have hmem : ⟨first, j + 1⟩ ∈ draft.placed :=
        (h.placed _).mpr ⟨j, hrepeats.before, old, hold, rfl, hfirst⟩
      exact Draft.number_ne_of_insert hinsert _ hmem (hrepeated.trans hnumber.symm)
  · rw [(Draft.perm_placed_insert hinsert).mem_iff, List.mem_cons, h.placed p]
    constructor
    · rintro (rfl | ⟨i, hi, hrest⟩)
      · exact ⟨k, by omega, raw, hraw, rfl, hspells⟩
      · exact ⟨i, by omega, hrest⟩
    · rintro ⟨i, hi, found, hfound, hplace, hline⟩
      rcases Nat.lt_or_eq_of_le (Nat.le_of_lt_succ hi) with hlt | rfl
      · exact .inr ⟨i, hlt, found, hfound, hplace, hline⟩
      · rw [hraw] at hfound
        cases hfound
        left
        obtain ⟨line', place⟩ := p
        obtain rfl := hspells.unique hline
        obtain rfl : place = i + 1 := hplace
        rfl

lemma errorAt_of_insert (h : ReadUpTo raws k draft) {raw : List Char} (hraw : raws[k]? = some raw)
    {line : Line} (hspells : Spells raw line) {earlier : Nat}
    (hinsert : draft.insert ⟨line, k + 1⟩ = .error earlier) :
    ErrorAt raws k (.duplicateNumber (k + 1) line.number earlier) := by
  obtain ⟨p, hp, hnumber, rfl⟩ := Draft.mem_of_insert_error hinsert
  obtain ⟨j, hj, old, hold, hplace, hfirst⟩ := (h.placed p).mp hp
  rw [hplace]
  refine .inr ⟨j, line.number, ⟨hj, ⟨old, hold, ?_⟩, ⟨raw, hraw, ?_⟩⟩, rfl⟩
  · exact wellFormed_iff.mpr ⟨p.line, hfirst, hnumber⟩
  · exact wellFormed_iff.mpr ⟨line, hspells, rfl⟩

/-- **Reading on** either comes to the end of the source without a fault, or stops at the first
faulty place with the error there.  The induction is on the lines still to be read. -/
theorem readLines_cases (h : ReadUpTo raws k draft) {rest : List (List Char)}
    (hrest : raws.drop k = rest) :
    (∃ out, readLines draft (k + 1) rest = .ok out ∧ ReadUpTo raws raws.length out) ∨
    ∃ i e, readLines draft (k + 1) rest = .error e ∧ (∀ j < i, ¬ FaultyAt raws j) ∧
      ErrorAt raws i e := by
  induction rest generalizing k draft with
  | nil =>
      left
      refine ⟨draft, rfl, fun i hi => h.clean i ?_, fun p => (h.placed p).trans ?_⟩
      · exact Nat.lt_of_lt_of_le hi (List.drop_eq_nil_iff.mp hrest)
      · constructor
        · rintro ⟨i, -, raw, hraw, hline⟩
          exact ⟨i, (List.getElem?_eq_some_iff.mp hraw).1, raw, hraw, hline⟩
        · rintro ⟨i, hi, hline⟩
          exact ⟨i, Nat.lt_of_lt_of_le hi (List.drop_eq_nil_iff.mp hrest), hline⟩
  | cons raw rest ih =>
      obtain ⟨hraw, htail⟩ := getElem?_of_drop_eq_cons hrest
      simp only [readLines]
      cases hread : readLine (k + 1) raw with
      | error e =>
          obtain ⟨hignorable, hfaults⟩ := readLine_error hread
          exact .inr ⟨k, e, rfl, h.clean,
            .inl ⟨raw, hraw, hfaults.malformed hignorable, hfaults⟩⟩
      | ok content =>
          rw [readLine_eq_ok_iff] at hread
          cases content with
          | none =>
              exact ih (h.succ_of_ignorable hraw (content?_eq_some_none_iff.mp hread)) htail
          | some line =>
              have hspells : Spells raw line := line?_eq_some_iff.mp (by rw [line?, hread]; rfl)
              simp only
              cases hinsert : draft.insert ⟨line, k + 1⟩ with
              | error earlier =>
                  exact .inr ⟨k, _, rfl, h.clean, h.errorAt_of_insert hraw hspells hinsert⟩
              | ok draft' => exact ih (h.succ_of_spells hraw hspells hinsert) htail

lemma not_faultyAt {out : Draft} (h : ReadUpTo raws raws.length out) (k : Nat) :
    ¬ FaultyAt raws k := by
  intro hfaulty
  refine h.clean k ?_ hfaulty
  rcases hfaulty with ⟨raw, hraw, -⟩ | ⟨j, n, hrepeats⟩
  · exact (List.getElem?_eq_some_iff.mp hraw).1
  · obtain ⟨raw, hraw, -⟩ := hrepeats.later
    exact (List.getElem?_eq_some_iff.mp hraw).1

end ReadUpTo

lemma ErrorAt.faultyAt {raws : List (List Char)} {k : Nat} {e : ParseError}
    (h : ErrorAt raws k e) : FaultyAt raws k := by
  rcases h with ⟨raw, hraw, hmalformed, -⟩ | ⟨j, n, hrepeats, -⟩
  · exact .inl ⟨raw, hraw, hmalformed⟩
  · exact .inr ⟨j, n, hrepeats⟩

lemma ErrorAt.sourceLine? {raws : List (List Char)} {k : Nat} {e : ParseError}
    (h : ErrorAt raws k e) : e.sourceLine? = some (k + 1) := by
  rcases h with ⟨raw, -, -, hfaults⟩ | ⟨j, n, -, rfl⟩
  · exact hfaults.sourceLine?
  · rfl

/-- At the first faulty place, the earlier line with the repeated number is the only one. -/
lemma Repeats.unique {raws : List (List Char)} {i j k : Nat} {n : LineNumber}
    (hclean : ∀ i < k, ¬ FaultyAt raws i) (hi : Repeats raws i k n) (hj : Repeats raws j k n) :
    i = j := by
  rcases Nat.lt_trichotomy i j with hlt | heq | hgt
  · exact absurd (.inr ⟨i, n, hlt, hi.earlier, hj.earlier⟩) (hclean j hj.before)
  · exact heq
  · exact absurd (.inr ⟨j, n, hgt, hj.earlier, hi.earlier⟩) (hclean i hi.before)

lemma forall_not_faultyAt_iff {raws : List (List Char)} :
    (∀ k, ¬ FaultyAt raws k) ↔
      (∀ raw ∈ raws, isIgnorable raw = true ∨ ∃ n, WellFormed raw n) ∧
        ∀ j k n, ¬ Repeats raws j k n := by
  constructor
  · intro h
    refine ⟨fun raw hraw => ?_, fun j k n hrepeats => h k (.inr ⟨j, n, hrepeats⟩)⟩
    obtain ⟨k, hk⟩ := List.mem_iff_getElem?.mp hraw
    by_contra hneither
    rw [not_or, Bool.not_eq_true, not_exists] at hneither
    exact h k (.inl ⟨raw, hk, hneither⟩)
  · rintro ⟨hlines, hdistinct⟩ k (⟨raw, hraw, hignorable, hwell⟩ | ⟨j, n, hrepeats⟩)
    · rcases hlines raw (List.mem_of_getElem? hraw) with h | ⟨n, hn⟩
      · rw [hignorable] at h
        cases h
      · exact hwell n hn
    · exact hdistinct j k n hrepeats

/-- The lines of a source, cut at its line feeds. -/
def rawLines (source : String) : List (List Char) := Text.split '\n' source.toList

end Source

/-! ## All of a source -/

namespace Program

open Source

/-- **What comes of a source:** a program, the finding that it is empty, or the error at its first
faulty place. -/
lemma parse_cases (source : String) :
    ((∃ program, parse source = .ok program) ∧ (∀ k, ¬ FaultyAt (rawLines source) k) ∧
      ∃ raw ∈ rawLines source, ∃ n, WellFormed raw n) ∨
    (parse source = .error .emptyProgram ∧ (∀ k, ¬ FaultyAt (rawLines source) k) ∧
      ∀ raw ∈ rawLines source, ∀ n, ¬ WellFormed raw n) ∨
    ∃ k e, parse source = .error e ∧ (∀ i < k, ¬ FaultyAt (rawLines source) i) ∧
      ErrorAt (rawLines source) k e := by
  rcases (ReadUpTo.start (rawLines source)).readLines_cases List.drop_zero with
    ⟨draft, hread, hupto⟩ | ⟨k, e, hread, hclean, herror⟩
  · have hdraft : readLines .empty 1 (Text.split '\n' source.toList) = .ok draft := hread
    simp only [parse, hdraft]
    cases hplaced : draft.placed with
    | nil =>
        right
        left
        refine ⟨by simp [Draft.toProgram?, hplaced], hupto.not_faultyAt, ?_⟩
        intro raw hraw n hn
        obtain ⟨line, hline, -⟩ := wellFormed_iff.mp hn
        obtain ⟨i, hi⟩ := List.mem_iff_getElem?.mp hraw
        have hmem : ⟨line, i + 1⟩ ∈ draft.placed := (hupto.placed _).mpr
          ⟨i, (List.getElem?_eq_some_iff.mp hi).1, raw, hi, rfl, hline⟩
        rw [hplaced] at hmem
        cases hmem
    | cons first rest =>
        left
        have hfirst : first ∈ draft.placed := by simp [hplaced]
        obtain ⟨i, -, raw, hraw, -, hline⟩ := (hupto.placed first).mp hfirst
        have hlines : draft.lines ≠ [] := by simp [Draft.lines, hplaced]
        obtain ⟨program, hprogram⟩ := Draft.exists_toProgram? hlines
        simp only [hprogram]
        exact ⟨⟨program, rfl⟩, hupto.not_faultyAt, raw, List.mem_of_getElem? hraw, _,
          wellFormed_iff.mpr ⟨first.line, hline, rfl⟩⟩
  · have hstops : readLines .empty 1 (Text.split '\n' source.toList) = .error e := hread
    exact .inr (.inr ⟨k, e, by simp only [parse, hstops], hclean, herror⟩)

lemma exists_parse_iff (source : String) :
    (∃ program, parse source = .ok program) ↔
      (∀ k, ¬ FaultyAt (rawLines source) k) ∧ ∃ raw ∈ rawLines source, ∃ n, WellFormed raw n := by
  rcases parse_cases source with ⟨hparses, hfaultless⟩ | ⟨hempty, -, hnone⟩ |
    ⟨k, e, herror, -, hk⟩
  · exact ⟨fun _ => hfaultless, fun _ => hparses⟩
  · constructor
    · rintro ⟨program, hprogram⟩
      rw [hempty] at hprogram
      cases hprogram
    · rintro ⟨-, raw, hraw, n, hn⟩
      exact absurd hn (hnone raw hraw n)
  · constructor
    · rintro ⟨program, hprogram⟩
      rw [herror] at hprogram
      cases hprogram
    · rintro ⟨hclean, -⟩
      exact absurd hk.faultyAt (hclean k)

lemma parse_error_cases {source : String} {e : ParseError} (h : parse source = .error e) :
    (e = .emptyProgram ∧ ∀ raw ∈ rawLines source, isIgnorable raw = true) ∨
    ∃ k, (∀ i < k, ¬ FaultyAt (rawLines source) i) ∧ ErrorAt (rawLines source) k e := by
  rcases parse_cases source with ⟨⟨program, hprogram⟩, -⟩ | ⟨hempty, hclean, hnone⟩ |
    ⟨k, found, hfound, hclean, herror⟩
  · rw [h] at hprogram
    cases hprogram
  · rw [h] at hempty
    cases hempty
    refine .inl ⟨rfl, fun raw hraw => ?_⟩
    rcases (forall_not_faultyAt_iff.mp hclean).1 raw hraw with hignorable | ⟨n, hn⟩
    · exact hignorable
    · exact absurd hn (hnone raw hraw n)
  · rw [h] at hfound
    cases hfound
    exact .inr ⟨k, hclean, herror⟩

lemma forall₂_spells (raws : List (List Char)) :
    List.Forall₂ Spells (raws.filter fun raw => ∃ n, WellFormed raw n) (raws.filterMap line?) := by
  induction raws with
  | nil => exact .nil
  | cons raw rest ih =>
      cases hline : line? raw with
      | none =>
          have hnot : ¬ ∃ n, WellFormed raw n := by simp [exists_wellFormed_iff, hline]
          rw [List.filterMap_cons_none hline, List.filter_cons_of_neg (by simpa using hnot)]
          exact ih
      | some line =>
          have hwell : ∃ n, WellFormed raw n := by simp [exists_wellFormed_iff, hline]
          rw [List.filterMap_cons_some hline, List.filter_cons_of_pos (by simpa using hwell)]
          exact .cons (line?_eq_some_iff.mp hline) ih

/-- **The parser accepts exactly the grammar,** and reports the first violation of it.

* A source parses exactly if every line is ignorable or in good form, no two lines in good form
  carry the same number, and there is one.
* The program then has one line for each source line in good form, namely the line it spells, in
  strictly increasing order of number; its text is trimmed, and its hint, if it has one, is not
  empty, trimmed, lower-cased and without a closing parenthesis (`Line.Canonical`).
* Otherwise all lines are ignorable and the program is empty, or the error names the first source
  line that is malformed or repeats a number.  In the latter case it is a duplicate and names the
  only earlier source line with that number; in the former it says what is wrong with the line. -/
theorem parse_exact (source : String) :
    ((∃ program, parse source = .ok program) ↔
      (∀ raw ∈ rawLines source, isIgnorable raw = true ∨ ∃ n, WellFormed raw n) ∧
      (∀ j k n, ¬ Repeats (rawLines source) j k n) ∧
      ∃ raw ∈ rawLines source, ∃ n, WellFormed raw n) ∧
    (∀ program, parse source = .ok program →
      (∃ spelled,
        List.Forall₂ Spells ((rawLines source).filter fun raw => ∃ n, WellFormed raw n) spelled ∧
        program.lines.toList.Perm spelled) ∧
      program.lines.toList.Pairwise (fun a b => a.number < b.number) ∧
      ∀ line ∈ program.lines, line.Canonical) ∧
    ∀ e, parse source = .error e →
      (e = .emptyProgram ∧ ∀ raw ∈ rawLines source, isIgnorable raw = true) ∨
      ∃ k, FaultyAt (rawLines source) k ∧ (∀ i < k, ¬ FaultyAt (rawLines source) i) ∧
        e.sourceLine? = some (k + 1) ∧
        ((∃ raw, (rawLines source)[k]? = some raw ∧ Malformed raw ∧ Faults raw (k + 1) e) ∨
          ∃ j n, Repeats (rawLines source) j k n ∧
            (∀ i, Repeats (rawLines source) i k n → i = j) ∧
            e = .duplicateNumber (k + 1) n (j + 1)) := by
  refine ⟨?_, ?_, ?_⟩
  · rw [← and_assoc, ← forall_not_faultyAt_iff]
    exact exists_parse_iff source
  · intro program hprogram
    refine ⟨⟨_, forall₂_spells _, (spelled_of_parse hprogram).2⟩, program.increasing, ?_⟩
    intro line hline
    exact canonical_of_parse hprogram line (Array.mem_toList_iff.mpr hline)
  · intro e he
    rcases parse_error_cases he with hempty | ⟨k, hclean, herror⟩
    · exact .inl hempty
    · refine .inr ⟨k, herror.faultyAt, hclean, herror.sourceLine?, ?_⟩
      rcases herror with hmalformed | ⟨j, n, hrepeats, rfl⟩
      · exact .inl hmalformed
      · exact .inr ⟨j, n, hrepeats, fun i hi => hi.unique hclean hrepeats, rfl⟩

/-- A source with a remark, a line with leading zeros, and a line that repeats its number before
another one that is malformed. -/
def clashingSource : String := "' REM\n0010 (Mail) greet\n\n10 () again\n20 (mail leave"

/-- The fault is found at the fourth line and names the second, although the fifth line has a fault
of its own; without its last two lines the source is a program. -/
theorem parse_exact_clashingSource :
    parse clashingSource = .error (.duplicateNumber 4 10 2) ∧
    Repeats (rawLines clashingSource) 1 3 10 ∧
    (∀ i < 3, ¬ FaultyAt (rawLines clashingSource) i) ∧
    (∀ i, Repeats (rawLines clashingSource) i 3 10 → i = 1) ∧
    ∃ program, parse "' REM\n0010 (Mail) greet\n" = .ok program ∧
      program.lines.toList = [⟨10, some "mail", "greet"⟩] ∧
      ∀ line ∈ program.lines, line.Canonical := by
  have hclash : parse clashingSource = .error (.duplicateNumber 4 10 2) := by decide +kernel
  have hparses : (parse "' REM\n0010 (Mail) greet\n").toOption.any (fun program =>
      program.lines.toList = [⟨10, some "mail", "greet"⟩]) = true := by decide +kernel
  obtain ⟨program, hprogram, hlines⟩ := exists_ok_of_any hparses
  obtain ⟨-, -, hcanonical⟩ := (parse_exact "' REM\n0010 (Mail) greet\n").2.1 program hprogram
  rcases (parse_exact clashingSource).2.2 _ hclash with ⟨hempty, -⟩ | ⟨k, -, hclean, hplace, hfault⟩
  · cases hempty
  · obtain rfl : k = 3 := by
      have hline : some 4 = some (k + 1) := hplace
      simpa using hline.symm
    rcases hfault with ⟨raw, -, -, hfaults⟩ | ⟨j, n, hrepeats, hunique, herror⟩
    · cases hfaults
    · cases herror
      exact ⟨hclash, hrepeats, hclean, hunique, program, hprogram, by simpa using hlines,
        hcanonical⟩

end Program

end NumberedProse
