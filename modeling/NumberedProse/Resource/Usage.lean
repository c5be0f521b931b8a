import NumberedProse.Program
import NumberedProse.Resource.Table

/-!
# Use of resources

A resource is acquired at the first line, in program order, whose hint names it, whatever the
control flow does when the program runs.  Every later line that names it only refers to it.
-/

namespace NumberedProse

/-- What a line needs of a resource. -/
inductive ResourceUse where
  /-- The resource is to be acquired here. -/
  | first (key : String)
  /-- The resource was acquired by an earlier line. -/
  | again (key : String)
  /-- The line names no resource. -/
  | unneeded
deriving Repr, DecidableEq

namespace ResourceUse

/-- The resource that is used. -/
def key? : ResourceUse → Option String
  | first key | again key => some key
  | unneeded => none

/-- The use in words. -/
def render : ResourceUse → String
  | first key => s!"init {key}"
  | again key => s!"reuse {key}"
  | unneeded => "-"

end ResourceUse

/-- A resource and the line that acquires it. -/
structure ResourceEntry where
  key : String
  firstLine : LineNumber
deriving Repr, DecidableEq

/-- The resources of a program. -/
structure ResourceContext where
  /-- One entry for each resource, in order of acquisition. -/
  entries : List ResourceEntry
  /-- What each line needs. -/
  uses : InsertionMap LineNumber ResourceUse
deriving Repr, DecidableEq

namespace ResourceContext

/-- No line looked at yet. -/
def empty : ResourceContext := ⟨[], .empty⟩

/-- What a line with this number needs; nothing, if it was not looked at. -/
def use (context : ResourceContext) (line : LineNumber) : ResourceUse :=
  (context.uses.get? line).getD .unneeded

/-- What a line with the given hint would need next. -/
def nextUse (context : ResourceContext) (table : ResourceTable) (hint : Option String) :
    ResourceUse :=
  match hint.bind table.resolve? with
  | none => .unneeded
  | some key => if context.entries.any (·.key == key) then .again key else .first key

/-- **Takes the next line into account.** -/
def observe (context : ResourceContext) (table : ResourceTable) (number : LineNumber)
    (hint : Option String) : ResourceContext :=
  let use := context.nextUse table hint
  let entries := match use with
    | .first key => context.entries ++ [⟨key, number⟩]
    | .again _ | .unneeded => context.entries
  ⟨entries, context.uses.insert number use⟩

/-- **The resources of a program** under a table. -/
def ofProgram (program : Program) (table : ResourceTable) : ResourceContext :=
  program.lines.toList.foldl
    (fun context line => context.observe table line.number line.hint) empty

end ResourceContext

end NumberedProse
