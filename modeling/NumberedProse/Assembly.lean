import NumberedProse.Control
import NumberedProse.Flow
import NumberedProse.Numbered
import NumberedProse.Resource.Usage

/-!
# Assemblies

The compiled form of a program: a block of statements for each line, in program order, with all
that is needed to run it.  An assembly that was read from bytes may hold anything, so the order of
its blocks is not part of the type.
-/

namespace NumberedProse

/-- The compiled form of one line. -/
structure Block where
  line : Line
  control : Control
  /-- The error handler that the line installs. -/
  handler : Option LineNumber
  use : ResourceUse
  /-- The statements that carry out the instruction, in order. -/
  statements : List String
deriving Repr, DecidableEq

/-- The number of the line a block was made from. -/
def Block.number (block : Block) : LineNumber := block.line.number

/-- A compiled program. -/
structure Assembly where
  mode : Mode
  /-- The resources in order of acquisition. -/
  resources : List ResourceEntry
  /-- The blocks, by increasing number if the assembly was compiled. -/
  blocks : Array Block
deriving Repr, DecidableEq

namespace Assembly

/-- The number of the first block, where a run begins. -/
def entry? (assembly : Assembly) : Option LineNumber := assembly.blocks[0]?.map Block.number

/-- The position of the block with this number. -/
def position? (assembly : Assembly) (n : LineNumber) : Option Nat :=
  Numbered.position? Block.number assembly.blocks n

/-- The block with this number. -/
def block? (assembly : Assembly) (n : LineNumber) : Option Block :=
  (assembly.position? n).bind fun i => assembly.blocks[i]?

/-- The number of the next block in program order; the last block has none. -/
def successor? (assembly : Assembly) (n : LineNumber) : Option LineNumber :=
  Numbered.successor? Block.number assembly.blocks n

end Assembly

end NumberedProse
