import NumberedProse.Token

/-!
# Cues

A cue is a phrase that spells a control transfer:

* **a jump** is `goto 40`, `go to 40`, `jump to 40` or `jump to line 40`;
* **a call** is `call 40` or `gosub 40`;
* **an error handler** is `on error` with a jump after it;
* **a return** is the word `return` with nothing but marks around it.

A keyword that no number follows is plain prose.  Phrases are found from left to right, and the
words of one phrase never begin another.
-/

namespace NumberedProse

/-- A phrase that spells a transfer.  The number it names may be too large for a line. -/
inductive Cue where
  /-- A jump, with the place among the tokens of its first word. -/
  | jump (target : Nat) (place : Nat)
  | call (target : Nat)
  | ret
  | handler (target : Nat)
deriving Repr, DecidableEq

namespace Cue

/-- How the cue is named in a message. -/
def label : Cue → String
  | jump _ _ => "goto"
  | call _ => "call"
  | ret => "return"
  | handler _ => "on error goto"

/-- **A jump phrase at the head of the tokens:** its target and its number of tokens. -/
def jumpPhrase? : List Token → Option (Nat × Nat)
  | .keyword .goto :: .integer n :: _ => some (n, 2)
  | .keyword .go :: .keyword .to_ :: .integer n :: _ => some (n, 3)
  | .keyword .jump :: .keyword .to_ :: .integer n :: _ => some (n, 3)
  | .keyword .jump :: .keyword .to_ :: .keyword .line :: .integer n :: _ => some (n, 4)
  | _ => none

/-- Whether an instruction is the word `return` alone, marks apart. -/
def isBareReturn (tokens : List Token) : Bool :=
  tokens.filter (fun token => !token.isPunct) == [.keyword .return_]

/-- **The cue at the head of the tokens,** if one begins there, and its number of tokens.  The
first token has the given place; `bare` says whether the whole instruction is a bare return. -/
def atHead? (bare : Bool) (place : Nat) : List Token → Option (Cue × Nat)
  | .keyword .on :: .keyword .error :: rest =>
      (jumpPhrase? rest).map fun (target, width) => (handler target, width + 2)
  | .keyword .call :: .integer n :: _ => some (call n, 2)
  | .keyword .gosub :: .integer n :: _ => some (call n, 2)
  | .keyword .return_ :: _ => if bare then some (ret, 1) else none
  | tokens => (jumpPhrase? tokens).map fun (target, width) => (jump target place, width)

/-- The cues among tokens, of which the first `skip` belong to a phrase already found. -/
def scanFrom (bare : Bool) (place : Nat) : (skip : Nat) → List Token → List Cue
  | _, [] => []
  | skip + 1, _ :: rest => scanFrom bare (place + 1) skip rest
  | 0, token :: rest =>
      match atHead? bare place (token :: rest) with
      | some (cue, width) => cue :: scanFrom bare (place + 1) (width - 1) rest
      | none => scanFrom bare (place + 1) 0 rest

/-- **The cues of an instruction,** in the order of its tokens. -/
def scan (tokens : List Token) : List Cue := scanFrom (isBareReturn tokens) 0 0 tokens

end Cue

end NumberedProse
