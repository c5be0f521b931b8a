/-!
# JSON values

Values of a JSON text, as far as the text fixes them.  The fields of an object stay in order and
may repeat.  A string whose escapes hold half of a surrogate pair is well formed, but it stands
for no text.
-/

namespace NumberedProse.Json

/-- A string: its text, or `none` if an escape in it is half of a surrogate pair. -/
abbrev StringValue := Option String

/-- A JSON value. -/
inductive Value where
  | null
  | bool (value : Bool)
  /-- A number, as it was written. -/
  | number (numeral : String)
  | string (value : StringValue)
  | array (items : List Value)
  | object (fields : List (StringValue × Value))
deriving Repr

end NumberedProse.Json
