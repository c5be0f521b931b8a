/-!
# Maps in insertion order

A map that lists its entries in the order in which their keys were first inserted.  Inserting a
key again replaces its value and leaves its place alone.
-/

namespace NumberedProse

/-- A map from `κ` to `ν` that remembers the order of insertion. -/
structure InsertionMap (κ ν : Type) where
  /-- The entries, oldest first. -/
  toList : List (κ × ν)
deriving Repr, DecidableEq

namespace InsertionMap

variable {κ ν : Type} [DecidableEq κ]

/-- Replaces the value of a key, or adds the entry at the end. -/
def insertEntry (key : κ) (value : ν) : List (κ × ν) → List (κ × ν)
  | [] => [(key, value)]
  | (k, v) :: rest => if k = key then (key, value) :: rest else (k, v) :: insertEntry key value rest

/-- The map without entries. -/
def empty : InsertionMap κ ν := ⟨[]⟩

/-- Sets the value of a key. -/
def insert (map : InsertionMap κ ν) (key : κ) (value : ν) : InsertionMap κ ν :=
  ⟨insertEntry key value map.toList⟩

/-- The value of a key. -/
def get? (map : InsertionMap κ ν) (key : κ) : Option ν := map.toList.lookup key

/-- The number of keys. -/
def size (map : InsertionMap κ ν) : Nat := map.toList.length

/-- Sets all values of another map over this one, in its order. -/
def extend (map other : InsertionMap κ ν) : InsertionMap κ ν :=
  other.toList.foldl (fun map (key, value) => map.insert key value) map

/-- The map that results from setting the entries one after the other. -/
def ofList (entries : List (κ × ν)) : InsertionMap κ ν :=
  entries.foldl (fun map (key, value) => map.insert key value) empty

/-- **The last value set for a key counts,** and other keys keep theirs. -/
theorem lookup_insertEntry (key k : κ) (value : ν) (entries : List (κ × ν)) :
    (insertEntry key value entries).lookup k
      = if k = key then some value else entries.lookup k := by
  induction entries with
  | nil =>
      by_cases h : k = key
      · simp [insertEntry, h]
      · simp [insertEntry, List.lookup_cons, beq_false_of_ne h, h]
  | cons entry rest ih =>
      obtain ⟨first, v⟩ := entry
      by_cases hfirst : first = key
      · subst hfirst
        by_cases h : k = first
        · simp [insertEntry, h]
        · simp [insertEntry, List.lookup_cons, beq_false_of_ne h, h]
      · by_cases h : k = first
        · subst h
          simp [insertEntry, hfirst]
        · simp [insertEntry, List.lookup_cons, hfirst, beq_false_of_ne h, ih]

/-- The same of the map as a whole. -/
theorem get?_insert (map : InsertionMap κ ν) (key k : κ) (value : ν) :
    (map.insert key value).get? k = if k = key then some value else map.get? k :=
  lookup_insertEntry key k value map.toList

end InsertionMap

end NumberedProse
