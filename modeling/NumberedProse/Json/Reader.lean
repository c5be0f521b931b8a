import NumberedProse.Json.Strings

/-!
# Reading JSON

The strict grammar: no comments, no trailing commas, no blanks but the four of the format, and
nothing after the value.  Every reader returns the rest of the text.  Values nest, so the readers
of values, items and fields take turns; each turn spends one unit of fuel, and a text has fewer
turns than characters.
-/

namespace NumberedProse.Json

/-- Whether a character may stand between the parts of a text. -/
def isSpace (c : Char) : Bool := c == ' ' || c == '\n' || c == '\t' || c == '\r'

/-- The text after the blanks at its start. -/
def skipSpace (text : List Char) : List Char := text.dropWhile isSpace

/-! ## Numbers -/

/-- At least one digit. -/
def readDigits (text : List Char) : Option (List Char × List Char) :=
  match text.takeWhile Char.isDigit with
  | [] => none
  | digits => some (digits, text.dropWhile Char.isDigit)

/-- A whole number without a sign; a zero stands alone. -/
def readWhole : List Char → Option (List Char × List Char)
  | '0' :: rest => some (['0'], rest)
  | text => readDigits text

/-- A point and digits, if a point comes next. -/
def readFraction : List Char → Option (List Char × List Char)
  | '.' :: rest => do
      let (digits, rest) ← readDigits rest
      return ('.' :: digits, rest)
  | text => some ([], text)

/-- The sign of an exponent, if one comes next. -/
def readSign : List Char → List Char × List Char
  | '+' :: rest => (['+'], rest)
  | '-' :: rest => (['-'], rest)
  | text => ([], text)

/-- An exponent, if one comes next. -/
def readExponent : List Char → Option (List Char × List Char)
  | c :: rest =>
      if c == 'e' || c == 'E' then do
        let (sign, rest) := readSign rest
        let (digits, rest) ← readDigits rest
        return (c :: (sign ++ digits), rest)
      else some ([], c :: rest)
  | [] => some ([], [])

/-- **A number.** -/
def readNumber (text : List Char) : Option (Value × List Char) := do
  let (sign, rest) := match text with
    | '-' :: rest => (['-'], rest)
    | rest => ([], rest)
  let (whole, rest) ← readWhole rest
  let (fraction, rest) ← readFraction rest
  let (exponent, rest) ← readExponent rest
  return (.number (String.ofList (sign ++ whole ++ fraction ++ exponent)), rest)

/-! ## Values -/

/-- What follows a word at the head of a text. -/
def afterWord? : (word : List Char) → List Char → Option (List Char)
  | [], text => some text
  | w :: word, c :: text => if w == c then afterWord? word text else none
  | _ :: _, [] => none

mutual

/-- **A value,** blanks before it included. -/
def readValue : (fuel : Nat) → List Char → Option (Value × List Char)
  | 0, _ => none
  | fuel + 1, text =>
      match skipSpace text with
      | '"' :: rest => do
          let (value, rest) ← readString rest
          return (.string value, rest)
      | '[' :: rest =>
          match skipSpace rest with
          | ']' :: rest => some (.array [], rest)
          | rest => do
              let (items, rest) ← readItems fuel rest
              return (.array items, rest)
      | '\x7b' :: rest =>
          match skipSpace rest with
          | '\x7d' :: rest => some (.object [], rest)
          | rest => do
              let (fields, rest) ← readFields fuel rest
              return (.object fields, rest)
      | 'n' :: rest => (.null, ·) <$> afterWord? ['u', 'l', 'l'] rest
      | 't' :: rest => (.bool true, ·) <$> afterWord? ['r', 'u', 'e'] rest
      | 'f' :: rest => (.bool false, ·) <$> afterWord? ['a', 'l', 's', 'e'] rest
      | rest => readNumber rest

/-- The items of an array up to its end. -/
def readItems : (fuel : Nat) → List Char → Option (List Value × List Char)
  | 0, _ => none
  | fuel + 1, text => do
      let (item, rest) ← readValue fuel text
      match skipSpace rest with
      | ']' :: rest => return ([item], rest)
      | ',' :: rest =>
          let (items, rest) ← readItems fuel rest
          return (item :: items, rest)
      | _ => none

/-- The fields of an object up to its end. -/
def readFields : (fuel : Nat) → List Char → Option (List (StringValue × Value) × List Char)
  | 0, _ => none
  | fuel + 1, text =>
      match skipSpace text with
      | '"' :: rest => do
          let (name, rest) ← readString rest
          match skipSpace rest with
          | ':' :: rest =>
              let (value, rest) ← readValue fuel rest
              match skipSpace rest with
              | '\x7d' :: rest => return ([(name, value)], rest)
              | ',' :: rest =>
                  let (fields, rest) ← readFields fuel rest
                  return ((name, value) :: fields, rest)
              | _ => none
          | _ => none
      | _ => none

end

/-- **The value a JSON text stands for.** -/
def parse? (text : List Char) : Option Value := do
  let (value, rest) ← readValue (2 * text.length + 2) text
  if (skipSpace rest).isEmpty then some value else none

end NumberedProse.Json
