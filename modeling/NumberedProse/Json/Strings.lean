import NumberedProse.Json.Value

/-!
# JSON strings

Escapes of the form `\u` and four hexadecimal digits give UTF-16 code units.  A high surrogate
followed at once by a low one makes a character; either of them alone makes none.
-/

namespace NumberedProse.Json

/-- A piece of a string: a character, or the code unit of an escape. -/
inductive StringPiece where
  | char (c : Char)
  | unit (value : Nat)
deriving Repr, DecidableEq

/-- The value of a hexadecimal digit of either case. -/
def hexValue? (c : Char) : Option Nat :=
  if c.isDigit then some (c.toNat - '0'.toNat)
  else if 'a' ≤ c && c ≤ 'f' then some (c.toNat - 'a'.toNat + 10)
  else if 'A' ≤ c && c ≤ 'F' then some (c.toNat - 'A'.toNat + 10)
  else none

/-- The code unit that four hexadecimal digits spell. -/
def unitValue? (a b c d : Char) : Option Nat := do
  return (((← hexValue? a) * 16 + (← hexValue? b)) * 16 + (← hexValue? c)) * 16 + (← hexValue? d)

/-- The character of an escape of two characters. -/
def escaped? : Char → Option Char
  | '"' => some '"'
  | '\\' => some '\\'
  | '/' => some '/'
  | 'b' => some '\x08'
  | 'f' => some '\x0c'
  | 'n' => some '\n'
  | 'r' => some '\r'
  | 't' => some '\t'
  | _ => none

/-- **The pieces up to the closing quote,** and what follows it.  Control characters must be
escaped. -/
def readPieces : List Char → Option (List StringPiece × List Char)
  | [] => none
  | '"' :: rest => some ([], rest)
  | '\\' :: 'u' :: a :: b :: c :: d :: rest => do
      let unit ← unitValue? a b c d
      let (pieces, rest) ← readPieces rest
      return (.unit unit :: pieces, rest)
  | '\\' :: c :: rest => do
      let c ← escaped? c
      let (pieces, rest) ← readPieces rest
      return (.char c :: pieces, rest)
  | c :: rest =>
      if c.toNat < 0x20 then none
      else do
        let (pieces, rest) ← readPieces rest
        return (.char c :: pieces, rest)

/-- **The text of a string,** if no code unit is half of a pair. -/
def joinPieces : List StringPiece → Option (List Char)
  | [] => some []
  | .char c :: rest => (c :: ·) <$> joinPieces rest
  | .unit high :: .unit low :: rest =>
      if 0xD800 ≤ high && high < 0xDC00 then
        if 0xDC00 ≤ low && low < 0xE000 then
          (Char.ofNat (0x10000 + (high - 0xD800) * 0x400 + (low - 0xDC00)) :: ·) <$> joinPieces rest
        else none
      else if 0xDC00 ≤ high && high < 0xE000 then none
      else (Char.ofNat high :: ·) <$> joinPieces (.unit low :: rest)
  | .unit unit :: rest =>
      if 0xD800 ≤ unit && unit < 0xE000 then none else (Char.ofNat unit :: ·) <$> joinPieces rest

/-- **A string, read from after its opening quote,** and what follows it. -/
def readString (text : List Char) : Option (StringValue × List Char) := do
  let (pieces, rest) ← readPieces text
  return ((joinPieces pieces).map String.ofList, rest)

end NumberedProse.Json
