import NumberedProse.InsertionMap
import NumberedProse.Text.Lowercase
import NumberedProse.Text.Trim

/-!
# Resource tables

A table maps task hints to the keys of external resources.  Several hints may name one resource
(`pg` and `postgres`); a hint that the table lacks names none.  Case and outer blanks do not count
in hints or keys.
-/

namespace NumberedProse

/-- **The form in which hints and keys are compared:** trimmed and lower-cased. -/
def normalizeName (name : String) : String :=
  String.ofList (Text.lowercase (Text.trim name.toList))

/-- A map from hints to resource keys. -/
structure ResourceTable where
  aliases : InsertionMap String String
deriving Repr, DecidableEq

namespace ResourceTable

/-- The table without entries. -/
def empty : ResourceTable := ⟨.empty⟩

/-- Maps a hint to a resource key. -/
def insert (table : ResourceTable) (hint key : String) : ResourceTable :=
  ⟨table.aliases.insert (normalizeName hint) (normalizeName key)⟩

/-- Lays another table over this one. -/
def extend (table other : ResourceTable) : ResourceTable := ⟨table.aliases.extend other.aliases⟩

/-- **The resource a hint names.** -/
def resolve? (table : ResourceTable) (hint : String) : Option String :=
  table.aliases.get? (normalizeName hint)

/-- The services known without any table of one's own. -/
def builtinAliases : List (String × String) := [
  ("redis", "redis"), ("cache", "redis"), ("postgres", "postgres"), ("postgresql", "postgres"),
  ("pg", "postgres"), ("mysql", "mysql"), ("mariadb", "mysql"), ("sqlite", "sqlite"),
  ("mongo", "mongodb"), ("mongodb", "mongodb"), ("dynamodb", "dynamodb"), ("s3", "s3"),
  ("object-store", "s3"), ("sqs", "sqs"), ("queue", "sqs"), ("kafka", "kafka"), ("ses", "ses"),
  ("smtp", "smtp"), ("email", "smtp"), ("sftp", "sftp"), ("http", "http"), ("api", "http"),
  ("rest", "http"), ("llm", "llm"), ("ai", "llm")]

/-- The table of the known services. -/
def builtin : ResourceTable :=
  builtinAliases.foldl (fun table (hint, key) => table.insert hint key) empty

end ResourceTable

end NumberedProse
