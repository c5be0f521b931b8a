import NumberedProse.Assembly
import NumberedProse.Text.Column

/-!
# Listings

An assembly printed for a reader: its mode and resources, then every block with its statements.  A
block where some transfer can land is set off by a rule and a mark.
-/

namespace NumberedProse

namespace Assembly

/-- The lines where a block's transfers can land: the target of its control, the handler it
installs, and, for a call, the line it comes back to. -/
def landingsOf (assembly : Assembly) (block : Block) : List LineNumber :=
  let resumption := match block.control with
    | .call _ => (assembly.successor? block.number).toList
    | _ => []
  block.control.target?.toList ++ block.handler.toList ++ resumption

/-- **The lines where some transfer can land.** -/
def landings (assembly : Assembly) : List LineNumber :=
  assembly.blocks.toList.flatMap assembly.landingsOf

end Assembly

namespace Block

/-- Where a block leads. -/
def destination : Control → String
  | .jump target | .call target => s!" -> {target}"
  | .branch target predicate => s!" -> {target} when ({predicate})"
  | .fallthrough | .ret => ""

/-- The first row of a block. -/
def heading (block : Block) (marked : Bool) : String :=
  let number := Text.zeroPadded 5 block.number.toNat
  let mark := if marked then "► " else "  "
  let kind := Text.padRight 10 block.control.name
  let handler := match block.handler with
    | some handler => s!" [on error -> {handler}]"
    | none => ""
  let use := match block.use with
    | .unneeded => ""
    | use => s!" [{use.render}]"
  s!"{number} {mark}{kind}" ++ destination block.control ++ handler ++ use ++ "\n"

/-- A block with its statements, set off if it is marked. -/
def listing (block : Block) (marked : Bool) : String :=
  let rule := if marked then "      ┌──────────────────────────────────\n" else ""
  let statements := block.statements.map fun statement => "        " ++ statement ++ "\n"
  rule ++ block.heading marked ++ String.join statements

end Block

namespace Assembly

/-- The rule above and below the head of a listing. -/
def rule : String := Text.fill '═' 40 ++ "\n"

/-- The mode, the number of blocks, and the resources. -/
def head (assembly : Assembly) : String :=
  let resources := assembly.resources.map fun entry =>
    let key := Text.padRight 12 entry.key
    s!"   {key} init at line {entry.firstLine}\n"
  let resources := if resources.isEmpty then "" else " resources:\n" ++ String.join resources
  s!" mode: {assembly.mode.render}\n {assembly.blocks.size} blocks\n" ++ resources

/-- **The listing of an assembly.** -/
def listing (assembly : Assembly) : String :=
  let landings := assembly.landings
  let blocks := assembly.blocks.toList.map fun block =>
    block.listing (landings.contains block.number)
  rule ++ assembly.head ++ rule ++ String.join blocks

end Assembly

end NumberedProse
