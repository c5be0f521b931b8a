import Mathlib.Data.List.TakeWhile
import Mathlib.Tactic.Common
import NumberedProse.Line
import NumberedProse.Token.Scan

/-!
# Cutting at a separator

A blank between two texts keeps their tokens apart, unless it stands inside a quoted text.  So does
a quote, and any other character that goes on no word and no number (`Text.Separates`).

**Open quotes.**  `Token.quoteOpen` follows the quotes of a text from left to right and says whether
the last of them is still open at its end.

**One token.**  A reader stops at a separator at the latest, so what follows is only passed on
(`Token.read_append_separator`), and it takes exactly the characters that it counts
(`Token.width_read`).

**The whole text.**  Hence the tokens of a text that leaves no quote open are found again when a
separator and more text are put after it, and the rest is read on its own
(`Token.scanFrom_append_separator`).
-/

namespace NumberedProse

/-! ## Blanks -/

namespace Text

lemma exists_range_of_inRanges {n : Nat} {ranges : List (Nat × Nat)}
    (h : inRanges n ranges = true) : ∃ range ∈ ranges, range.1 ≤ n ∧ n ≤ range.2 := by
  induction ranges with
  | nil => cases h
  | cons range rest ih =>
      simp only [inRanges] at h
      split at h
      · cases h
      · next hfirst =>
          split at h
          · next hlast => exact ⟨range, by simp, by omega, hlast⟩
          · obtain ⟨found, hfound, hin⟩ := ih h
            exact ⟨found, by simp [hfound], hin⟩

/-- **What holds of every blank** is checked on the code points of the table, one by one. -/
lemma forall_blank {P : Char → Prop}
    (h : ∀ range ∈ blankRanges, ∀ i ≤ range.2 - range.1, P (Char.ofNat (range.1 + i))) {c : Char}
    (hc : isBlank c = true) : P c := by
  obtain ⟨range, hrange, hfirst, hlast⟩ := exists_range_of_inRanges hc
  have hchecked := h range hrange (c.toNat - range.1) (by omega)
  rwa [Nat.add_sub_cancel' hfirst, Char.ofNat_toNat] at hchecked

lemma isDigit_of_isBlank {c : Char} (h : isBlank c = true) : c.isDigit = false :=
  forall_blank (P := fun c => c.isDigit = false) (by decide) h

lemma isBlank_of_isDigit {c : Char} (h : c.isDigit = true) : isBlank c = false := by
  rw [Bool.eq_false_iff]
  intro hblank
  rw [isDigit_of_isBlank hblank] at h
  cases h

lemma isWordChar_of_isBlank {c : Char} (h : isBlank c = true) : isWordChar c = false :=
  forall_blank (P := fun c => isWordChar c = false) (by decide +kernel) h

lemma ne_of_isBlank {c mark : Char} (h : isBlank c = true) (hmark : isBlank mark = false) :
    c ≠ mark := by
  rintro rfl
  rw [h] at hmark
  cases hmark

lemma isWordChar_of_isDigit {c : Char} (h : c.isDigit = true) : isWordChar c = true := by
  have hrange : 0x30 ≤ c.toNat ∧ c.toNat ≤ 0x39 := by
    simpa [Char.isDigit, UInt32.le_iff_toNat_le] using h
  have hnumeric : isNumeric c = true := by
    rw [isNumeric, numericRanges, inRanges, if_neg (by omega), if_pos hrange.2]
  rw [isWordChar, hnumeric, Bool.or_true, Bool.true_or]

/-- **A character that keeps tokens apart:** no word and no number goes on over it. -/
structure Separates (w : Char) : Prop where
  not_word : isWordChar w = false
  not_point : w ≠ '.'

lemma separates_of_isBlank {w : Char} (h : isBlank w = true) : Separates w :=
  ⟨isWordChar_of_isBlank h, ne_of_isBlank h rfl⟩

lemma separates_quote : Separates '"' := ⟨by decide +kernel, by decide⟩

namespace Separates

variable {w : Char}

lemma not_digit (hw : Separates w) : w.isDigit = false := by
  rw [Bool.eq_false_iff]
  intro hdigit
  have hword := hw.not_word
  rw [isWordChar_of_isDigit hdigit] at hword
  cases hword

lemma not_alphabetic (hw : Separates w) : isAlphabetic w = false := by
  have hword := hw.not_word
  simp only [isWordChar, Bool.or_eq_false_iff] at hword
  exact hword.1.1

end Separates

lemma takeWhile_append_of_neg {p : Char → Bool} {w : Char} (hw : p w = false)
    (text tail : List Char) : (text ++ w :: tail).takeWhile p = text.takeWhile p := by
  induction text with
  | nil => simp [hw]
  | cons c rest ih => simp only [List.cons_append, List.takeWhile_cons, ih]

lemma dropWhile_append_of_neg {p : Char → Bool} {w : Char} (hw : p w = false)
    (text tail : List Char) : (text ++ w :: tail).dropWhile p = text.dropWhile p ++ w :: tail := by
  induction text with
  | nil => simp [hw]
  | cons c rest ih =>
      simp only [List.cons_append, List.dropWhile_cons, ih]
      split <;> simp

lemma trim_cons_blank {w : Char} (hw : isBlank w = true) (text : List Char) :
    trim (w :: text) = trim text := by
  rw [trim, trim, trimStart, trimStart, List.dropWhile_cons_of_pos hw]

lemma trim_append_blank {w : Char} (hw : isBlank w = true) (text : List Char) :
    trim (text ++ [w]) = trim text := by
  rw [trim, trim, trimStart, trimStart, List.dropWhile_append]
  split
  · next hnil =>
      rw [List.isEmpty_iff] at hnil
      simp [hnil, hw]
  · simp [trimEnd, hw]

end Text

/-- The lexeme at places further on. -/
def Lexeme.shift (k : Nat) (lexeme : Lexeme) : Lexeme :=
  { lexeme with start := lexeme.start + k, stop := lexeme.stop + k }

namespace Token

open Text

/-! ## Open quotes -/

/-- **Whether a quote is open at the end of a text** that begins inside a quoted text or outside of
one.  Inside, a backslash takes the character after it along. -/
def quoteOpen : (inside : Bool) → List Char → Bool
  | inside, [] => inside
  | false, c :: rest => quoteOpen (c == '"') rest
  | true, '\\' :: _ :: rest => quoteOpen true rest
  | true, c :: rest => quoteOpen (c != '"') rest

lemma quoteOpen_cons_of_ne {c : Char} (h : c ≠ '"') (rest : List Char) :
    quoteOpen false (c :: rest) = quoteOpen false rest := by
  rw [quoteOpen, beq_false_of_ne h]

lemma quoteOpen_append_of_notMem {taken : List Char} (h : '"' ∉ taken) (rest : List Char) :
    quoteOpen false (taken ++ rest) = quoteOpen false rest := by
  induction taken with
  | nil => rfl
  | cons c taken ih =>
      simp only [List.mem_cons, not_or] at h
      rw [List.cons_append, quoteOpen_cons_of_ne (Ne.symm h.1), ih h.2]

/-! ## One token -/

lemma readQuotedBody_cons {c : Char} (hquote : c ≠ '"') (hslash : c ≠ '\\') (rest : List Char) :
    readQuotedBody (c :: rest) =
      ⟨c :: (readQuotedBody rest).content, (readQuotedBody rest).width + 1,
        (readQuotedBody rest).rest⟩ := by
  rw [readQuotedBody]
  · exact fun h => hquote h
  · exact fun h _ => hslash h
  · exact fun _ _ h _ => hslash h

lemma ne_backslash {c : Char} {rest : List Char} (hlone : c = '\\' → rest = [] → False)
    (hslash : ∀ d rest', c = '\\' → rest = d :: rest' → False) : c ≠ '\\' := by
  rintro rfl
  cases rest with
  | nil => exact hlone rfl rfl
  | cons d rest => exact hslash d rest rfl rfl

/-- **A quoted text that is closed** is read up to its closing quote, whatever comes after. -/
lemma readQuotedBody_append {text : List Char} (h : quoteOpen true text = false)
    (tail : List Char) :
    readQuotedBody (text ++ tail) =
        { readQuotedBody text with rest := (readQuotedBody text).rest ++ tail } ∧
      (readQuotedBody text).width + (readQuotedBody text).rest.length = text.length ∧
      quoteOpen false (readQuotedBody text).rest = false := by
  fun_induction readQuotedBody text with
  | case1 => cases h
  | case2 rest => exact ⟨rfl, by simp [Nat.add_comm], h⟩
  | case3 => cases h
  | case4 c rest body ih =>
      obtain ⟨happend, hwidth, hclosed⟩ := ih h
      refine ⟨?_, ?_, hclosed⟩
      · simp only [List.cons_append, readQuotedBody, happend, body]
      · simp only [body, List.length_cons]
        omega
  | case5 c rest hquote hlone hslash body ih =>
      have hplain := ne_backslash hlone hslash
      have hrest : quoteOpen true rest = false := by
        rw [quoteOpen, bne_iff_ne.mpr hquote] at h
        · exact h
        · exact fun _ _ h _ => hplain h
      obtain ⟨happend, hwidth, hclosed⟩ := ih hrest
      refine ⟨?_, ?_, hclosed⟩
      · rw [List.cons_append, readQuotedBody_cons hquote hplain, happend]
      · simp only [body, List.length_cons]
        omega

lemma readDigits_append (text : List Char) :
    (readDigits text).digits ++ (readDigits text).rest = text := by
  have hsplit := List.takeWhile_append_dropWhile (p := Char.isDigit) (l := text)
  simp only [readDigits]
  split
  · next c rest hrest =>
      rw [hrest] at hsplit
      split
      · simpa using hsplit
      · exact hsplit
  · exact hsplit

lemma readDigits_append_separator {w : Char} (hw : Separates w) (text tail : List Char) :
    readDigits (text ++ w :: tail) =
      { readDigits text with rest := (readDigits text).rest ++ w :: tail } := by
  have hdigit := hw.not_digit
  simp only [readDigits, takeWhile_append_of_neg hdigit, dropWhile_append_of_neg hdigit]
  have hpoint := hw.not_point
  rcases text.dropWhile Char.isDigit with _ | ⟨c, _ | ⟨d, rest⟩⟩
  · simp [hpoint]
  · by_cases hc : c = '.' <;> simp [hc, hdigit]
  · by_cases hc : c = '.'
    · simp only [hc, List.cons_append]
      split <;> simp [takeWhile_append_of_neg hdigit, dropWhile_append_of_neg hdigit]
    · simp [hc]

lemma quote_notMem_takeWhile {p : Char → Bool} (hp : p '"' = false) (text : List Char) :
    '"' ∉ text.takeWhile p := by
  intro hmem
  rw [List.mem_takeWhile_imp hmem] at hp
  cases hp

lemma quote_notMem_readDigits (text : List Char) : '"' ∉ (readDigits text).digits := by
  have hwhole : ∀ t : List Char, '"' ∉ t.takeWhile Char.isDigit := quote_notMem_takeWhile rfl
  simp only [readDigits]
  split
  · next c rest hrest =>
      split
      · next hc =>
          have hquote : c ≠ '"' := by
            rintro rfl
            cases hc
          simp [hwhole, hquote.symm]
      · exact hwhole text
  · exact hwhole text

lemma readNumber_append_separator {w : Char} (hw : Separates w) (text tail : List Char) :
    readNumber (text ++ w :: tail) =
      { readNumber text with rest := (readNumber text).rest ++ w :: tail } := by
  have hword := hw.not_word
  have hhead : ((readDigits text).rest ++ w :: tail).head?.any isAlphabetic =
      (readDigits text).rest.head?.any isAlphabetic := by
    cases (readDigits text).rest <;> simp [hw.not_alphabetic]
  simp only [readNumber, readDigits_append_separator hw, hhead, takeWhile_append_of_neg hword,
    dropWhile_append_of_neg hword]
  split <;> rfl

lemma readWord_append_separator {w : Char} (hw : Separates w) (text tail : List Char) :
    readWord (text ++ w :: tail) =
      { readWord text with rest := (readWord text).rest ++ w :: tail } := by
  have hword := hw.not_word
  simp only [readWord, takeWhile_append_of_neg hword, dropWhile_append_of_neg hword]

/-- **A token that is not quoted** takes characters up to a place, and no quote. -/
lemma exists_taken {c : Char} (h : c ≠ '"') (rest : List Char) :
    ∃ taken, taken ++ (read c rest).rest = c :: rest ∧ taken.length = (read c rest).width ∧
      '"' ∉ taken := by
  have hquote : (c == '"') = false := beq_false_of_ne h
  simp only [read, hquote, Bool.false_eq_true, if_false]
  have hword := quote_notMem_takeWhile (p := isWordChar) (by decide)
  split
  · have hdigits := readDigits_append (c :: rest)
    have hnone := quote_notMem_readDigits (c :: rest)
    simp only [readNumber]
    split
    · exact ⟨_, by simp [hdigits], rfl, by simp [hnone, hword]⟩
    · exact ⟨_, hdigits, rfl, hnone⟩
  · split
    · exact ⟨_, List.takeWhile_append_dropWhile, rfl, hword _⟩
    · exact ⟨[c], rfl, rfl, by simpa using h.symm⟩

/-- **A reader stops at a separator:** what comes after is passed on. -/
lemma read_append_separator {c w : Char} {rest : List Char}
    (h : quoteOpen false (c :: rest) = false) (hw : Separates w) (tail : List Char) :
    read c (rest ++ w :: tail) = { read c rest with rest := (read c rest).rest ++ w :: tail } := by
  simp only [read]
  split
  · next hquote =>
      rw [quoteOpen, hquote] at h
      simp only [readQuoted, (readQuotedBody_append h (w :: tail)).1]
  · split
    · exact readNumber_append_separator hw (c :: rest) tail
    · split
      · exact readWord_append_separator hw (c :: rest) tail
      · rfl

/-- A reader takes as many characters as it counts, and leaves no quote open. -/
lemma width_read {c : Char} {rest : List Char} (h : quoteOpen false (c :: rest) = false) :
    (read c rest).width + (read c rest).rest.length = rest.length + 1 ∧
      quoteOpen false (read c rest).rest = false := by
  by_cases hquote : c = '"'
  · subst hquote
    obtain ⟨-, hwidth, hclosed⟩ := readQuotedBody_append h []
    have hread : read '"' rest = readQuoted rest := rfl
    simp only [hread, readQuoted]
    exact ⟨by omega, hclosed⟩
  · obtain ⟨taken, htaken, hwidth, hnone⟩ := exists_taken hquote rest
    have hlength := congrArg List.length htaken
    rw [← htaken, quoteOpen_append_of_notMem hnone] at h
    simp only [List.length_append, List.length_cons] at hlength
    exact ⟨by omega, h⟩

/-! ## The whole text -/

lemma scanFrom_of_blank {c : Char} (h : isBlank c = true) (place : Nat) (rest : List Char) :
    scanFrom place (c :: rest) = scanFrom (place + 1) rest := by
  rw [scanFrom, if_pos h]

lemma scanFrom_of_not_blank {c : Char} (h : isBlank c = false) (place : Nat) (rest : List Char) :
    scanFrom place (c :: rest) =
      ⟨(read c rest).token, place, place + (read c rest).width⟩ ::
        scanFrom (place + (read c rest).width) (read c rest).rest := by
  rw [scanFrom, if_neg (by simp [h])]

lemma scanFrom_ne_nil (place : Nat) (text : List Char) : scanFrom place text ≠ [] := by
  fun_induction scanFrom place text <;> simp_all

/-- Moving a text moves its tokens. -/
lemma scanFrom_add (place k : Nat) (text : List Char) :
    scanFrom (place + k) text = (scanFrom place text).map (Lexeme.shift k) := by
  fun_induction scanFrom place text with
  | case1 place => rw [scanFrom]; rfl
  | case2 place c rest hblank ih =>
      rw [scanFrom_of_blank hblank, ← ih, Nat.add_right_comm]
  | case3 place c rest hblank reading _ ih =>
      have hread : reading = read c rest := rfl
      rw [hread] at ih ⊢
      rw [scanFrom_of_not_blank (by simpa using hblank), List.map_cons, ← ih, Lexeme.shift,
        Nat.add_right_comm]

/-- **A separator keeps tokens apart:** the tokens of a text that leaves no quote open come first,
all but its end mark, and the rest is read on its own. -/
theorem scanFrom_append_separator {text : List Char} (h : quoteOpen false text = false) {w : Char}
    (hw : Separates w) (place : Nat) (tail : List Char) :
    scanFrom place (text ++ w :: tail) =
      (scanFrom place text).dropLast ++ scanFrom (place + text.length) (w :: tail) := by
  fun_induction scanFrom place text with
  | case1 place => simp
  | case2 place c rest hblank ih =>
      rw [quoteOpen_cons_of_ne (ne_of_isBlank hblank rfl)] at h
      rw [List.cons_append, scanFrom_of_blank hblank, ih h, List.length_cons]
      congr 2
      omega
  | case3 place c rest hblank reading _ ih =>
      obtain ⟨hwidth, hclosed⟩ := width_read h
      have hread : reading = read c rest := rfl
      rw [hread] at ih ⊢
      rw [List.cons_append, scanFrom_of_not_blank (by simpa using hblank),
        read_append_separator h hw, ih hclosed, List.dropLast_cons_of_ne_nil (scanFrom_ne_nil _ _),
        List.cons_append, List.length_cons]
      congr 3
      omega

lemma scanFrom_append_blank {text : List Char} (h : quoteOpen false text = false) {w : Char}
    (hw : isBlank w = true) (place : Nat) (tail : List Char) :
    scanFrom place (text ++ w :: tail) =
      (scanFrom place text).dropLast ++ scanFrom (place + text.length + 1) tail := by
  rw [scanFrom_append_separator h (separates_of_isBlank hw), scanFrom_of_blank hw]

/-! ## Words and numerals on their own -/

lemma head_read_word (k : Keyword) :
    (k.word.toList.head?.map fun c =>
      (isBlank c, (read c k.word.toList.tail).token, (read c k.word.toList.tail).width,
        (read c k.word.toList.tail).rest)) = some (false, .keyword k, k.word.length, []) := by
  cases k <;> decide +kernel

/-- A keyword is one token. -/
lemma scanFrom_keyword (k : Keyword) (place : Nat) :
    scanFrom place k.word.toList =
      [⟨.keyword k, place, place + k.word.length⟩,
        ⟨.eof, place + k.word.length, place + k.word.length⟩] := by
  have hread := head_read_word k
  cases hword : k.word.toList with
  | nil => simp [hword] at hread
  | cons c rest =>
      simp only [hword, List.head?_cons, List.tail_cons, Option.map_some, Option.some.injEq,
        Prod.mk.injEq] at hread
      obtain ⟨hblank, htoken, hwidth, hrest⟩ := hread
      rw [scanFrom_of_not_blank hblank, htoken, hwidth, hrest, scanFrom]

/-- A numeral is one token. -/
lemma scanFrom_numeral {digits : List Char} (hsome : digits ≠ [])
    (hdigits : ∀ c ∈ digits, c.isDigit = true) (place : Nat) :
    scanFrom place digits =
      [⟨ofNumeral ⟨digits, false, []⟩, place, place + digits.length⟩,
        ⟨.eof, place + digits.length, place + digits.length⟩] := by
  have hnumeral : readDigits digits = ⟨digits, false, []⟩ := by
    simp only [readDigits, List.takeWhile_eq_self_iff.mpr hdigits,
      List.dropWhile_eq_nil_iff.mpr hdigits]
  cases digits with
  | nil => exact absurd rfl hsome
  | cons c rest =>
      have hc : c.isDigit = true := hdigits c (by simp)
      have hquote : (c == '"') = false := by
        refine beq_false_of_ne ?_
        rintro rfl
        cases hc
      have hread : read c rest = ⟨ofNumeral ⟨c :: rest, false, []⟩, (c :: rest).length, []⟩ := by
        simp [read, hquote, hc, readNumber, hnumeral]
      rw [scanFrom_of_not_blank (isBlank_of_isDigit hc), hread, scanFrom]

lemma ofNumeral_of_lt {digits : List Char} (h : Nat.ofDigitChars 10 digits 0 < UInt64.size) :
    ofNumeral ⟨digits, false, []⟩ = .integer (Nat.ofDigitChars 10 digits 0) := by
  simp [ofNumeral, h]

lemma ofNumeral_of_le {digits : List Char} (h : UInt64.size ≤ Nat.ofDigitChars 10 digits 0) :
    ofNumeral ⟨digits, false, []⟩ = .number (String.ofList digits) := by
  simp [ofNumeral, Nat.not_lt.mpr h]

lemma toList_toString (n : LineNumber) : (toString n).toList = Nat.toDigits 10 n.toNat := by
  have hrepr : toString n = n.toNat.repr := rfl
  rw [hrepr, Nat.repr_eq_ofList_toDigits, String.toList_ofList]

lemma toList_toString_ne_nil (n : LineNumber) : (toString n).toList ≠ [] := by
  rw [toList_toString]
  exact Nat.toDigits_ne_nil

lemma isDigit_of_mem_toString {n : LineNumber} {c : Char} (h : c ∈ (toString n).toList) :
    c.isDigit = true := by
  rw [toList_toString] at h
  exact Nat.isDigit_of_mem_toDigits (by decide) (by decide) h

lemma ofDigitChars_toString (n : LineNumber) :
    Nat.ofDigitChars 10 (toString n).toList 0 = n.toNat := by
  rw [toList_toString, Nat.ofDigitChars_ten_toDigits]

lemma scanFrom_lineNumber (n : LineNumber) (place : Nat) :
    scanFrom place (toString n).toList =
      [⟨.integer n.toNat, place, place + (toString n).toList.length⟩,
        ⟨.eof, place + (toString n).toList.length, place + (toString n).toList.length⟩] := by
  have hfits : n.toNat < UInt64.size := Nat.lt_trans n.toNat_lt (by decide)
  have hvalue := ofDigitChars_toString n
  rw [scanFrom_numeral (toList_toString_ne_nil n) (fun _ => isDigit_of_mem_toString),
    ofNumeral_of_lt (by rwa [hvalue]), hvalue]

lemma token_read_ne_eof (c : Char) (rest : List Char) : (read c rest).token ≠ .eof := by
  have hword : ∀ text, ofWord text ≠ .eof := by
    intro text
    unfold ofWord
    split <;> simp
  have hnumeral : ∀ numeral, ofNumeral numeral ≠ .eof := by
    intro numeral
    simp only [ofNumeral]
    split <;> simp
  simp only [read]
  split
  · simp [readQuoted]
  · split
    · simp only [readNumber]
      split
      · simp
      · exact hnumeral _
    · split
      · exact hword _
      · simp

/-- **The end mark is the last token** and no other. -/
lemma filter_scanFrom (place : Nat) (text : List Char) :
    (scanFrom place text).filter (fun l => l.token != .eof) = (scanFrom place text).dropLast := by
  fun_induction scanFrom place text with
  | case1 place => rfl
  | case2 place c rest hblank ih => exact ih
  | case3 place c rest hblank reading _ ih =>
      have htoken : (reading.token != .eof) = true := bne_iff_ne.mpr (token_read_ne_eof c rest)
      rw [List.filter_cons, if_pos htoken, ih, List.dropLast_cons_of_ne_nil (scanFrom_ne_nil _ _)]

end Token

end NumberedProse
