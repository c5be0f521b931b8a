import NumberedProse.Json.Reader
import NumberedProse.Resource.Table

/-!
# Resource tables as text

A table is written as JSON: an object whose field `aliases` maps hints to keys.  Other fields are
passed over.  The object of aliases may also stand alone in an array.
-/

namespace NumberedProse

/-- Why a text is not a resource table. -/
inductive TableError where
  /-- The text is not JSON of the right form. -/
  | json
  /-- A key is empty or blank; the hint as it was written. -/
  | emptyKey (hint : String)
deriving Repr, DecidableEq

/-- The wording of the error.  What exactly is wrong with the JSON is left open. -/
def TableError.message : TableError → String
  | json => "invalid resource table: "
  | emptyKey hint => s!"invalid resource table: empty resource key for hint '{hint}'"

namespace ResourceTable

/-- One alias: both sides must be strings that stand for a text. -/
def alias? : Json.StringValue × Json.Value → Option (String × String)
  | (some hint, .string (some key)) => some (hint, key)
  | _ => none

/-- **The aliases of an object,** a repeated hint keeping its first place and its last key. -/
def aliases? : Json.Value → Option (InsertionMap String String)
  | .object fields => (fields.mapM alias?).map InsertionMap.ofList
  | _ => none

/-- **The value of the field `aliases`.**  Every name must stand for a text, and the field must
occur once. -/
def aliasesField? (fields : List (Json.StringValue × Json.Value)) : Option Json.Value :=
  if fields.any fun field => field.1.isNone then none
  else match fields.filter fun field => field.1 == some "aliases" with
    | [(_, value)] => some value
    | _ => none

/-- The aliases of a whole JSON text, as they were written. -/
def ofJson? : Json.Value → Option (InsertionMap String String)
  | .object fields => (aliasesField? fields).bind aliases?
  | .array [value] => aliases? value
  | _ => none

/-- Adds aliases one after the other, stopping at the first blank key. -/
def insertAll (table : ResourceTable) : List (String × String) → Except TableError ResourceTable
  | [] => .ok table
  | (hint, key) :: rest =>
      if (Text.trim key.toList).isEmpty then .error (.emptyKey hint)
      else (table.insert hint key).insertAll rest

/-- **The table that a text stands for.** -/
def parse (text : String) : Except TableError ResourceTable :=
  match (Json.parse? text.toList).bind ofJson? with
  | some aliases => empty.insertAll aliases.toList
  | none => .error .json

end ResourceTable

end NumberedProse
