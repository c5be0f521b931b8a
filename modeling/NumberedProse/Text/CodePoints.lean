/-!
# Sets of code points

A character property is given as a list of closed intervals of code points, in increasing order
and apart from one another.  The property tables of this folder all have that form, and
`inRanges` is the one way to read them.
-/

namespace NumberedProse.Text

/-- **Membership.**  The walk stops at the first interval that begins beyond the code point, so
a character of the first few blocks never meets the long tail of a table. -/
def inRanges (n : Nat) : List (Nat × Nat) → Bool
  | [] => false
  | (first, last) :: rest =>
      if n < first then false else if n ≤ last then true else inRanges n rest

end NumberedProse.Text
