/-!
# Tokens

Only the words that can spell a control transfer are told apart.  All other words, numbers,
quoted texts and marks are carried along without being understood.
-/

namespace NumberedProse

/-- The words that take part in spelling a control transfer. -/
inductive Keyword where
  | goto | go | gosub | jump | to_ | line | call | return_ | if_ | then_ | on | error
deriving Repr, DecidableEq

namespace Keyword

/-- The word itself. -/
def word : Keyword → String
  | goto => "goto"
  | go => "go"
  | gosub => "gosub"
  | jump => "jump"
  | to_ => "to"
  | line => "line"
  | call => "call"
  | return_ => "return"
  | if_ => "if"
  | then_ => "then"
  | on => "on"
  | error => "error"

/-- Every keyword. -/
def all : List Keyword :=
  [goto, go, gosub, jump, to_, line, call, return_, if_, then_, on, error]

/-- The keyword a lower-cased word is, if it is one. -/
def ofWord? (text : String) : Option Keyword := all.find? (·.word == text)

end Keyword

/-- A piece of an instruction. -/
inductive Token where
  /-- A whole number below 2⁶⁴. -/
  | integer (value : Nat)
  /-- Any other number: one with a decimal point, or one of 2⁶⁴ or more. -/
  | number (numeral : String)
  /-- What stood between double quotes. -/
  | quoted (content : String)
  | keyword (word : Keyword)
  /-- Any other word, lower-cased. -/
  | word (text : String)
  /-- A character that belongs to none of the above. -/
  | punct (mark : Char)
  /-- The end of the text. -/
  | eof
deriving Repr, DecidableEq

namespace Token

/-- Whether the token is a single mark. -/
def isPunct : Token → Bool
  | punct _ => true
  | _ => false

/-- A short label for the kind of token. -/
def kind : Token → String
  | integer _ => "int"
  | number _ => "num"
  | quoted _ => "str"
  | keyword _ => "cue"
  | word _ => "word"
  | punct _ => "punct"
  | eof => "eof"

/-- The token as it is shown; a quoted text is shown in quotes, its escapes undone. -/
def render : Token → String
  | integer value => toString value
  | number numeral => numeral
  | quoted content => s!"\"{content}\""
  | keyword k => k.word
  | word text => text
  | punct mark => String.singleton mark
  | eof => "<eof>"

/-- What the token carries: as `render`, but without the quotes. -/
def payload : Token → String
  | quoted content => content
  | token => token.render

end Token

/-- A token and the places it takes in the text, from `start` up to, but not including,
`stop`.  Places count characters from 0. -/
structure Lexeme where
  token : Token
  start : Nat
  stop : Nat
deriving Repr, DecidableEq

/-- The column of the first character, counted from 1. -/
def Lexeme.column (lexeme : Lexeme) : Nat := lexeme.start + 1

end NumberedProse
