import NumberedProse.Token
import NumberedProse.Text.Numeric
import NumberedProse.Text.Trim
import NumberedProse.Text.Lowercase

/-!
# Cutting an instruction into tokens

Instructions are prose, so cutting them up never fails: a quoted text that is not closed runs to
the end, and a character of no other use is a mark.  The reader of each kind of token returns the
rest of the text, which is never longer than what it was given (`read_rest_length_le`); that is
why the whole walk ends.
-/

namespace NumberedProse.Token

/-! ## One token -/

/-- A token at the head of a text: how many places it takes, and what follows it. -/
structure Reading where
  token : Token
  width : Nat
  rest : List Char

/-- The inside of a quoted text, its closing quote included in the width. -/
structure QuotedBody where
  content : List Char
  width : Nat
  rest : List Char

/-- **The text up to the closing quote.**  A backslash stands for the character after it.  A
backslash with nothing after it stands for nothing, and still takes two places. -/
def readQuotedBody : List Char → QuotedBody
  | [] => ⟨[], 0, []⟩
  | '"' :: rest => ⟨[], 1, rest⟩
  | ['\\'] => ⟨[], 2, []⟩
  | '\\' :: c :: rest =>
      let body := readQuotedBody rest
      ⟨c :: body.content, body.width + 2, body.rest⟩
  | c :: rest =>
      let body := readQuotedBody rest
      ⟨c :: body.content, body.width + 1, body.rest⟩

/-- A quoted text, read from after its opening quote. -/
def readQuoted (text : List Char) : Reading :=
  let body := readQuotedBody text
  ⟨.quoted (String.ofList body.content), body.width + 1, body.rest⟩

/-- Digits, and perhaps a decimal point with digits after it. -/
structure Numeral where
  digits : List Char
  hasPoint : Bool
  rest : List Char

/-- **The longest numeral.**  A point belongs to it only if a digit follows: `40.` ends a sentence,
`4.5` is a number. -/
def readDigits (text : List Char) : Numeral :=
  let whole := text.takeWhile Char.isDigit
  match text.dropWhile Char.isDigit with
  | '.' :: c :: rest =>
      if c.isDigit then
        ⟨whole ++ '.' :: c :: rest.takeWhile Char.isDigit, true, rest.dropWhile Char.isDigit⟩
      else ⟨whole, false, '.' :: c :: rest⟩
  | rest => ⟨whole, false, rest⟩

/-- A numeral that no letter follows. -/
def ofNumeral (numeral : Numeral) : Token :=
  let value := Nat.ofDigitChars 10 numeral.digits 0
  if !numeral.hasPoint && value < UInt64.size then .integer value
  else .number (String.ofList numeral.digits)

/-- **A number, or a word that begins with one.**  Letters right after the digits make the whole
run a word, as in `10th`. -/
def readNumber (text : List Char) : Reading :=
  let numeral := readDigits text
  if numeral.rest.head?.any Text.isAlphabetic then
    let run := numeral.digits ++ numeral.rest.takeWhile Text.isWordChar
    ⟨.word (String.ofList (Text.lowercase run)), run.length,
      numeral.rest.dropWhile Text.isWordChar⟩
  else ⟨ofNumeral numeral, numeral.digits.length, numeral.rest⟩

/-- A lower-cased word: a keyword or any other. -/
def ofWord (text : String) : Token :=
  match Keyword.ofWord? text with
  | some k => .keyword k
  | none => .word text

/-- The longest run of word characters. -/
def readWord (text : List Char) : Reading :=
  let run := text.takeWhile Text.isWordChar
  ⟨ofWord (String.ofList (Text.lowercase run)), run.length, text.dropWhile Text.isWordChar⟩

/-- **The token that begins with `c`,** which is not blank. -/
def read (c : Char) (rest : List Char) : Reading :=
  if c == '"' then readQuoted rest
  else if c.isDigit then readNumber (c :: rest)
  else if Text.isAlphabetic c || c == '_' then readWord (c :: rest)
  else ⟨.punct c, 1, rest⟩

/-! ## Every reader moves on -/

/-- The rest of a quoted text is part of it. -/
theorem readQuotedBody_rest_length_le (text : List Char) :
    (readQuotedBody text).rest.length ≤ text.length := by
  fun_induction readQuotedBody text with
  | case1 => simp
  | case2 rest => simp
  | case3 => simp
  | case4 c rest body ih =>
      have : body.rest.length ≤ rest.length := ih
      simp only [List.length_cons]
      omega
  | case5 c rest _ _ _ body ih =>
      have : body.rest.length ≤ rest.length := ih
      simp only [List.length_cons]
      omega

/-- All digits in front are read. -/
theorem readDigits_rest_length_le (text : List Char) :
    (readDigits text).rest.length ≤ (text.dropWhile Char.isDigit).length := by
  simp only [readDigits]
  split
  · next c rest heq =>
      rw [heq]
      split
      · have := (List.dropWhile_sublist Char.isDigit (l := rest)).length_le
        simp only [List.length_cons]
        omega
      · simp
  · simp

/-- A number takes all digits in front. -/
theorem readNumber_rest_length_le (text : List Char) :
    (readNumber text).rest.length ≤ (text.dropWhile Char.isDigit).length := by
  have digits := readDigits_rest_length_le text
  simp only [readNumber]
  split
  · exact Nat.le_trans (List.dropWhile_sublist _).length_le digits
  · exact digits

/-- **The rest is part of what followed the first character.** -/
theorem read_rest_length_le (c : Char) (rest : List Char) :
    (read c rest).rest.length ≤ rest.length := by
  unfold read
  split
  · exact readQuotedBody_rest_length_le rest
  · split
    · next hdigit =>
        refine Nat.le_trans (readNumber_rest_length_le _) ?_
        rw [List.dropWhile_cons_of_pos hdigit]
        exact (List.dropWhile_sublist _).length_le
    · split
      · next hword =>
          have hchar : Text.isWordChar c = true := by
            simp only [Text.isWordChar]
            grind
          simp only [readWord, List.dropWhile_cons_of_pos hchar]
          exact (List.dropWhile_sublist _).length_le
      · exact Nat.le_refl _

/-! ## The whole text -/

/-- The tokens of a text whose first character has the given place. -/
def scanFrom (place : Nat) : List Char → List Lexeme
  | [] => [⟨.eof, place, place⟩]
  | c :: rest =>
      if Text.isBlank c then scanFrom (place + 1) rest
      else
        let reading := read c rest
        have _ := read_rest_length_le c rest
        ⟨reading.token, place, place + reading.width⟩
          :: scanFrom (place + reading.width) reading.rest
termination_by text => text.length

/-- **The tokens of a text,** with the end of the text as the last one. -/
def scan (text : List Char) : List Lexeme := scanFrom 0 text

/-- **The words between two places,** trimmed.  Places beyond the end count as the end. -/
def slice (text : List Char) (start stop : Nat) : List Char :=
  Text.trim ((text.take stop).drop start)

end NumberedProse.Token
