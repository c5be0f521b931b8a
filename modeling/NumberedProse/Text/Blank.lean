import NumberedProse.Text.CodePoints

/-!
# Blank characters

The characters with the property White_Space.  They separate words, and they are what trimming
removes.  The file, group, record and unit separators, the zero width space and the byte order
mark do not have the property.
-/

namespace NumberedProse.Text

/-- The code points with the property White_Space. -/
def blankRanges : List (Nat × Nat) := [
  (0x9, 0xD), (0x20, 0x20), (0x85, 0x85), (0xA0, 0xA0), (0x1680, 0x1680), (0x2000, 0x200A),
  (0x2028, 0x2029), (0x202F, 0x202F), (0x205F, 0x205F), (0x3000, 0x3000)]

/-- Whether a character separates words. -/
def isBlank (c : Char) : Bool := inRanges c.toNat blankRanges

end NumberedProse.Text
