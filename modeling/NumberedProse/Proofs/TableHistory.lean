import Mathlib.Data.Finset.Card
import Mathlib.Data.Finset.Dedup
import Mathlib.Tactic.Common
import NumberedProse.Proofs.Rendering
import NumberedProse.Resource.TableText

/-!
# Resource tables by their history

A resource table is built by operations: it is replaced, single mappings are written to it, and
other tables are laid over it.  What it answers depends on the mappings written since it was last
replaced, and of those that share the normal form of their hints the last one counts.

**The history.**  `TableOperation.writes` lists these mappings as they were written.  It never
looks at a table; a table that is laid over brings its own history along.  A text writes the fields
of its aliases in their order, a repeated hint at its first place and with its last key
(`ResourceTable.writesOf`).

**The table.**  `ResourceTable.Records` says that a table holds the last writes of a history, each
hint once.  All operations keep it.  Laying one table over another copies entries as they are, so
what is stored must be in normal form already, and normal forms must be their own
(`normalizeName_normalizeName`).
-/

namespace NumberedProse

/-! ## Maps -/

namespace InsertionMap

variable {κ ν : Type} [DecidableEq κ]

/-- The keys, oldest first. -/
def keys (map : InsertionMap κ ν) : List κ := map.toList.map Prod.fst

lemma get?_eq_none_iff {map : InsertionMap κ ν} {key : κ} :
    map.get? key = none ↔ key ∉ map.keys := by
  rw [get?, List.lookup_eq_none_iff, keys]
  constructor
  · intro h hmem
    obtain ⟨entry, hentry, rfl⟩ := List.mem_map.mp hmem
    simpa using h entry hentry
  · intro h entry hentry
    have hne : key ≠ entry.1 := by
      rintro rfl
      exact h (List.mem_map_of_mem hentry)
    simpa using hne

lemma map_fst_insertEntry (key : κ) (value : ν) (entries : List (κ × ν)) :
    (insertEntry key value entries).map Prod.fst =
      if key ∈ entries.map Prod.fst then entries.map Prod.fst
      else entries.map Prod.fst ++ [key] := by
  induction entries with
  | nil => simp [insertEntry]
  | cons entry rest ih =>
      by_cases h : entry.1 = key
      · simp [insertEntry, h]
      · have hne : ¬ key = entry.1 := fun heq => h heq.symm
        simp only [insertEntry, h, if_false, List.map_cons, ih, List.mem_cons, hne, false_or]
        split <;> rfl

lemma nodup_keys_insert {map : InsertionMap κ ν} (h : map.keys.Nodup) (key : κ) (value : ν) :
    (map.insert key value).keys.Nodup := by
  rw [keys, insert, map_fst_insertEntry]
  split
  · exact h
  · next hnew => exact List.nodup_append_comm.mp (List.nodup_cons.mpr ⟨hnew, h⟩)

lemma nodup_keys_foldl_insert {map : InsertionMap κ ν} (h : map.keys.Nodup)
    (entries : List (κ × ν)) :
    (entries.foldl (fun map entry => map.insert entry.1 entry.2) map).keys.Nodup := by
  induction entries generalizing map with
  | nil => exact h
  | cons entry rest ih => exact ih (nodup_keys_insert h entry.1 entry.2)

/-- An entry is what its key is mapped to. -/
lemma get?_of_mem {map : InsertionMap κ ν} (h : map.keys.Nodup) {entry : κ × ν}
    (hentry : entry ∈ map.toList) : map.get? entry.1 = some entry.2 := by
  obtain ⟨before, after, heq⟩ := List.append_of_mem hentry
  refine List.lookup_eq_some_iff.mpr ⟨before, after, heq, fun other hother => ?_⟩
  rw [keys, heq, List.map_append, List.nodup_append] at h
  have hne := h.2.2 other.1 (List.mem_map_of_mem hother) entry.1 (by simp)
  simpa using hne.symm

/-- **A map laid over another** answers first. -/
theorem get?_extend (map : InsertionMap κ ν) {other : InsertionMap κ ν} (h : other.keys.Nodup)
    (key : κ) : (map.extend other).get? key = (other.get? key).or (map.get? key) := by
  obtain ⟨entries⟩ := other
  simp only [extend, keys] at h ⊢
  induction entries generalizing map with
  | nil => rfl
  | cons entry rest ih =>
      obtain ⟨k, v⟩ := entry
      rw [List.map_cons, List.nodup_cons] at h
      rw [List.foldl_cons, ih (map.insert k v) h.2, get?_insert]
      by_cases hkey : key = k
      · -- The key does not come again, so nothing is written over its value.
        subst hkey
        have hnone : get? ⟨rest⟩ key = none := get?_eq_none_iff.mpr h.1
        rw [hnone]
        simp [get?]
      · simp [get?, List.lookup_cons, beq_false_of_ne hkey, hkey]

/-- **One entry for each key:** where the key stands first, with the value that it has last. -/
def lastOfEach (entries : List (κ × ν)) : List (κ × ν) :=
  (entries.map Prod.fst).eraseDups.filterMap fun key =>
    (entries.filter fun entry => entry.1 = key).getLast?

lemma ofList_concat (entries : List (κ × ν)) (entry : κ × ν) :
    ofList (entries ++ [entry]) = (ofList entries).insert entry.1 entry.2 := by
  rw [ofList, List.foldl_concat]
  rfl

lemma keys_ofList (entries : List (κ × ν)) :
    (ofList entries).keys = (entries.map Prod.fst).eraseDups := by
  induction entries using List.reverseRecOn with
  | nil => rfl
  | append_singleton entries entry ih =>
      rw [keys] at ih
      rw [ofList_concat, keys, insert, map_fst_insertEntry, ih, List.map_append, List.map_singleton,
        List.eraseDups_append]
      by_cases h : entry.1 ∈ entries.map Prod.fst
      · simp [List.removeAll, h]
      · simp [List.removeAll, h, List.eraseDups_cons]

lemma get?_ofList (entries : List (κ × ν)) (key : κ) :
    (ofList entries).get? key =
      (entries.filter fun entry => entry.1 = key).getLast?.map Prod.snd := by
  induction entries using List.reverseRecOn with
  | nil => rfl
  | append_singleton entries entry ih =>
      rw [ofList_concat, get?_insert, ih, List.filter_append]
      by_cases h : key = entry.1
      · simp [h]
      · have hne : ¬ entry.1 = key := fun heq => h heq.symm
        simp [h, hne]

lemma toList_eq_filterMap {map : InsertionMap κ ν} (h : map.keys.Nodup) :
    map.toList = map.keys.filterMap fun key => (map.get? key).map (Prod.mk key) := by
  rw [keys, List.filterMap_map]
  conv_lhs => rw [← List.filterMap_some (l := map.toList)]
  refine List.filterMap_congr fun entry hentry => ?_
  rw [Function.comp_apply, get?_of_mem h hentry]
  rfl

/-- **Setting entries one after the other** keeps first places and last values. -/
theorem toList_ofList (entries : List (κ × ν)) : (ofList entries).toList = lastOfEach entries := by
  have hempty : (empty : InsertionMap κ ν).keys.Nodup := List.nodup_nil
  have hnodup : (ofList entries).keys.Nodup := nodup_keys_foldl_insert hempty entries
  rw [toList_eq_filterMap hnodup, keys_ofList, lastOfEach]
  refine List.filterMap_congr fun key _ => ?_
  rw [get?_ofList]
  cases hlast : (entries.filter fun entry => entry.1 = key).getLast? with
  | none => rfl
  | some entry =>
      have hkey := (List.mem_filter.mp (List.mem_of_getLast? hlast)).2
      rw [← of_decide_eq_true hkey]
      rfl

end InsertionMap

/-! ## Normal forms -/

lemma Text.lowercase_ne_nil {text : List Char} (h : text ≠ []) : lowercase text ≠ [] := by
  cases text with
  | nil => exact absurd rfl h
  | cons c rest =>
      obtain ⟨piece, hne, -, heq⟩ := lowerAfter_cons [] c rest
      rw [lowercase, heq]
      simp [hne]

/-- **A normal form is its own.** -/
theorem normalizeName_normalizeName (name : String) :
    normalizeName (normalizeName name) = normalizeName name := by
  have htrim := Text.trim_lowercase (Text.trim_trim name.toList)
  simp only [normalizeName, String.toList_ofList, htrim, Text.lowercase_lowercase]

lemma normalizeName_ne_empty {name : String} (h : Text.trim name.toList ≠ []) :
    normalizeName name ≠ "" := by
  intro hempty
  have hnil : (normalizeName name).toList = [] := by rw [hempty]; rfl
  rw [normalizeName, String.toList_ofList] at hnil
  exact Text.lowercase_ne_nil h hnil

/-! ## Operations -/

/-- **What a table is built by.** -/
inductive TableOperation where
  /-- Replaces the table by the one without entries. -/
  | clear
  /-- Replaces the table by the one of the known services. -/
  | builtin
  /-- Maps a hint to a key. -/
  | write (hint key : String)
  /-- Replaces the table by the one that a text stands for. -/
  | load (text : String)
  /-- Lays a table over this one that is built by operations of its own. -/
  | extend (operations : List TableOperation)

namespace ResourceTable

/-- The value that holds the aliases: the field of that name, or what stands alone in an array. -/
def aliasesOf : Json.Value → Json.Value
  | .object fields => (fields.lookup (some "aliases")).getD .null
  | .array items => items.head?.getD .null
  | _ => .null

/-- The fields of an object that map a text to a text, in their order. -/
def mappingsOf : Json.Value → List (String × String)
  | .object fields => fields.filterMap fun
      | (some hint, .string (some key)) => some (hint, key)
      | _ => none
  | _ => []

/-- **The mappings of a text:** one for each hint of its aliases, where the hint stands first, and
with the key that it has last. -/
def writesOf (text : String) : List (String × String) :=
  match Json.parse? text.toList with
  | some value => InsertionMap.lastOfEach (mappingsOf (aliasesOf value))
  | none => []

end ResourceTable

namespace TableOperation

mutual

/-- **One operation.**  It fails if it comes upon a text that stands for no table. -/
def apply (table : ResourceTable) : TableOperation → Except TableError ResourceTable
  | clear => .ok .empty
  | builtin => .ok .builtin
  | write hint key => .ok (table.insert hint key)
  | load text => ResourceTable.parse text
  | extend operations =>
      match build .empty operations with
      | .ok other => .ok (table.extend other)
      | .error e => .error e

/-- **Operations one after the other.** -/
def build (table : ResourceTable) : List TableOperation → Except TableError ResourceTable
  | [] => .ok table
  | operation :: rest =>
      match apply table operation with
      | .ok next => build next rest
      | .error e => .error e

end

mutual

/-- The mappings written up to an operation and by it, since the table was last replaced. -/
def writesAfter (earlier : List (String × String)) : TableOperation → List (String × String)
  | clear => []
  | builtin => ResourceTable.builtinAliases
  | write hint key => earlier ++ [(hint, key)]
  | load text => ResourceTable.writesOf text
  | extend operations => earlier ++ writes [] operations

/-- **The mappings written since the table was last replaced,** in the order of writing. -/
def writes (earlier : List (String × String)) : List TableOperation → List (String × String)
  | [] => earlier
  | operation :: rest => writes (writesAfter earlier operation) rest

end

end TableOperation

/-! ## Tables and their histories -/

namespace ResourceTable

/-- **The last key written for a name,** both in normal form. -/
def lastKey? (writes : List (String × String)) (name : String) : Option String :=
  ((writes.filter fun written => normalizeName written.1 = name).getLast?).map fun written =>
    normalizeName written.2

/-- **The table holds the last writes of a history,** each hint once. -/
structure Records (table : ResourceTable) (writes : List (String × String)) : Prop where
  nodup : table.aliases.keys.Nodup
  get? : ∀ name, table.aliases.get? name = lastKey? writes name

variable {table other made : ResourceTable} {writes later : List (String × String)}

lemma lastKey?_append (writes later : List (String × String)) (name : String) :
    lastKey? (writes ++ later) name = (lastKey? later name).or (lastKey? writes name) := by
  simp only [lastKey?, List.filter_append, List.getLast?_append, Option.map_or]

lemma lastKey?_singleton (hint key name : String) :
    lastKey? [(hint, key)] name =
      if name = normalizeName hint then some (normalizeName key) else none := by
  by_cases h : name = normalizeName hint
  · simp [lastKey?, h]
  · have hne : ¬ normalizeName hint = name := fun heq => h heq.symm
    simp [lastKey?, h, hne]

lemma exists_of_lastKey? {name key : String} (h : lastKey? writes name = some key) :
    ∃ written ∈ writes, normalizeName written.1 = name ∧ normalizeName written.2 = key := by
  obtain ⟨written, hlast, hkey⟩ := Option.map_eq_some_iff.mp h
  have hmem := List.mem_filter.mp (List.mem_of_getLast? hlast)
  exact ⟨written, hmem.1, by simpa using hmem.2, hkey⟩

lemma lastKey?_eq_none_iff {name : String} :
    lastKey? writes name = none ↔ name ∉ writes.map fun written => normalizeName written.1 := by
  simp [lastKey?]

lemma records_empty : empty.Records [] := ⟨List.nodup_nil, fun _ => rfl⟩

lemma Records.insert (h : table.Records writes) (hint key : String) :
    (table.insert hint key).Records (writes ++ [(hint, key)]) where
  nodup := InsertionMap.nodup_keys_insert h.nodup _ _
  get? name := by
    rw [ResourceTable.insert, InsertionMap.get?_insert, h.get?, lastKey?_append, lastKey?_singleton]
    split <;> rfl

lemma Records.extend (h : table.Records writes) (h' : other.Records later) :
    (table.extend other).Records (writes ++ later) where
  nodup := InsertionMap.nodup_keys_foldl_insert h.nodup _
  get? name := by
    rw [ResourceTable.extend, InsertionMap.get?_extend _ h'.nodup, h.get?, h'.get?, lastKey?_append]

lemma Records.foldl_insert (h : table.Records writes) (entries : List (String × String)) :
    (entries.foldl (fun table entry => table.insert entry.1 entry.2) table).Records
      (writes ++ entries) := by
  induction entries generalizing table writes with
  | nil => simpa using h
  | cons entry rest ih => simpa using ih (h.insert entry.1 entry.2)

lemma records_builtin : builtin.Records builtinAliases := records_empty.foldl_insert builtinAliases

/-- Aliases are added exactly if no key is blank. -/
lemma insertAll_eq_ok_iff {entries : List (String × String)} :
    table.insertAll entries = .ok made ↔
      (∀ entry ∈ entries, Text.trim entry.2.toList ≠ []) ∧
        entries.foldl (fun table entry => table.insert entry.1 entry.2) table = made := by
  induction entries generalizing table with
  | nil => simp [insertAll]
  | cons entry rest ih =>
      obtain ⟨hint, key⟩ := entry
      by_cases hblank : Text.trim key.toList = []
      · simp [insertAll, hblank]
      · simp [insertAll, hblank, ih]

lemma filterMap_of_mapM {fields : List (Json.StringValue × Json.Value)}
    {entries : List (String × String)} (h : fields.mapM alias? = some entries) :
    fields.filterMap alias? = entries := by
  induction fields generalizing entries with
  | nil =>
      cases h
      rfl
  | cons field rest ih =>
      rw [List.mapM_cons] at h
      obtain ⟨entry, hentry, h⟩ := Option.bind_eq_some_iff.mp h
      obtain ⟨others, hothers, h⟩ := Option.bind_eq_some_iff.mp h
      cases h
      rw [List.filterMap_cons_some hentry, ih hothers]

lemma toList_of_aliases? {value : Json.Value} {aliases : InsertionMap String String}
    (h : aliases? value = some aliases) :
    aliases.toList = InsertionMap.lastOfEach (mappingsOf value) := by
  cases value with
  | object fields =>
      obtain ⟨entries, hentries, rfl⟩ := Option.map_eq_some_iff.mp h
      rw [InsertionMap.toList_ofList, ← filterMap_of_mapM hentries]
      rfl
  | _ => cases h

lemma lookup_of_aliasesField? {fields : List (Json.StringValue × Json.Value)} {value : Json.Value}
    (h : aliasesField? fields = some value) : fields.lookup (some "aliases") = some value := by
  rw [aliasesField?] at h
  split at h
  · cases h
  · split at h
    · next name found hfilter =>
        cases h
        obtain ⟨before, after, hfields, hbefore, hname, -⟩ := List.filter_eq_cons_iff.mp hfilter
        refine List.lookup_eq_some_iff.mpr ⟨before, after, ?_, fun field hfield => ?_⟩
        · rw [hfields, ← eq_of_beq hname]
        · rw [bne_comm]
          simpa using hbefore field hfield
    · cases h

/-- What the reader delivers of a text is what the text writes. -/
lemma toList_of_ofJson? {value : Json.Value} {aliases : InsertionMap String String}
    (h : ofJson? value = some aliases) :
    aliases.toList = InsertionMap.lastOfEach (mappingsOf (aliasesOf value)) := by
  unfold ofJson? at h
  split at h
  · next fields =>
      obtain ⟨found, hfound, haliases⟩ := Option.bind_eq_some_iff.mp h
      rw [aliasesOf, lookup_of_aliasesField? hfound]
      exact toList_of_aliases? haliases
  · exact toList_of_aliases? h
  · cases h

/-- **A text that stands for a table** brings all of its aliases, and no blank key. -/
theorem records_of_parse {text : String} (h : parse text = .ok table) :
    table.Records (writesOf text) ∧
      ∀ written ∈ writesOf text, Text.trim written.2.toList ≠ [] := by
  rw [parse] at h
  split at h
  · next aliases haliases =>
      obtain ⟨value, hvalue, hread⟩ := Option.bind_eq_some_iff.mp haliases
      obtain ⟨hkeys, rfl⟩ := insertAll_eq_ok_iff.mp h
      have hwrites : writesOf text = aliases.toList := by
        simp only [writesOf, hvalue, toList_of_ofJson? hread]
      rw [hwrites]
      exact ⟨records_empty.foldl_insert aliases.toList, hkeys⟩
  · cases h

lemma Records.normal (h : table.Records writes) {entry : String × String}
    (hentry : entry ∈ table.aliases.toList) :
    normalizeName entry.1 = entry.1 ∧ normalizeName entry.2 = entry.2 := by
  have hget := InsertionMap.get?_of_mem h.nodup hentry
  rw [h.get?] at hget
  obtain ⟨written, -, hhint, hkey⟩ := exists_of_lastKey? hget
  rw [← hhint, ← hkey]
  exact ⟨normalizeName_normalizeName _, normalizeName_normalizeName _⟩

lemma Records.size_eq (h : table.Records writes) :
    table.aliases.size = (writes.map fun written => normalizeName written.1).toFinset.card := by
  have hkeys : table.aliases.keys.toFinset =
      (writes.map fun written => normalizeName written.1).toFinset := by
    ext name
    rw [List.mem_toFinset, List.mem_toFinset, ← not_iff_not, ← InsertionMap.get?_eq_none_iff,
      h.get?, lastKey?_eq_none_iff]
  rw [← hkeys, List.toFinset_card_of_nodup h.nodup, InsertionMap.keys, List.length_map,
    InsertionMap.size]

end ResourceTable

namespace TableOperation

open ResourceTable

-- The two go together: a table that is laid over another is built by operations of its own.
mutual

/-- **The table after an operation holds the last writes of its history.** -/
theorem records_apply : ∀ (operation : TableOperation) {table made : ResourceTable}
    {earlier : List (String × String)}, table.Records earlier →
    apply table operation = .ok made → made.Records (writesAfter earlier operation)
  | clear, _, _, _, _, h => by
      cases h
      exact records_empty
  | builtin, _, _, _, _, h => by
      rw [← Except.ok.inj h]
      exact records_builtin
  | write hint key, _, _, _, hrecords, h => by
      cases h
      exact hrecords.insert hint key
  | load text, _, _, _, _, h => (records_of_parse h).1
  | extend operations, _, _, _, hrecords, h => by
      simp only [apply] at h
      split at h
      · next other hother =>
          cases h
          exact hrecords.extend (records_build operations records_empty hother)
      · cases h

/-- **The table that operations build holds the last writes of their history.** -/
theorem records_build : ∀ (operations : List TableOperation) {table made : ResourceTable}
    {earlier : List (String × String)}, table.Records earlier →
    build table operations = .ok made → made.Records (writes earlier operations)
  | [], _, _, _, hrecords, h => by
      cases h
      exact hrecords
  | operation :: rest, _, _, _, hrecords, h => by
      simp only [build] at h
      split at h
      · next next hnext => exact records_build rest (records_apply operation hrecords hnext) h
      · cases h

end

/-- **The last write wins.**  A table built by any operations answers a hint with the key of the
last mapping written since the table was last replaced whose hint has the same normal form.  What it
stores is in normal form, once for each hint written; and a table read from a text alone answers no
hint with an empty key. -/
theorem last_write_wins (operations : List TableOperation) {table : ResourceTable}
    (h : build .empty operations = .ok table) :
    (∀ hint, table.resolve? hint = lastKey? (writes [] operations) (normalizeName hint)) ∧
    (∀ entry ∈ table.aliases.toList,
      normalizeName entry.1 = entry.1 ∧ normalizeName entry.2 = entry.2) ∧
    table.aliases.size =
      ((writes [] operations).map fun written => normalizeName written.1).toFinset.card ∧
    ∀ text loaded, ResourceTable.parse text = .ok loaded →
      ∀ hint, loaded.resolve? hint ≠ some "" := by
  have hrecords := records_build operations records_empty h
  refine ⟨fun hint => hrecords.get? _, fun entry => hrecords.normal, hrecords.size_eq, ?_⟩
  intro text loaded hparse hint hempty
  obtain ⟨hloaded, hkeys⟩ := records_of_parse hparse
  rw [resolve?, hloaded.get?] at hempty
  obtain ⟨written, hmem, -, hkey⟩ := exists_of_lastKey? hempty
  exact normalizeName_ne_empty (hkeys written hmem) hkey

/-- Two spellings of one hint, and the first of them again, which keeps its place. -/
def spellings : String :=
  "\x7b\"aliases\": \x7b\"PG\": \"Citus\", \"pg\": \"timescale\", \"PG\": \"aurora\"\x7d\x7d"

/-- A mapping that a replacement drops, one over a known service, and a table laid over it. -/
def restocking : List TableOperation := [
  .write "legacy" "tape", .builtin, .write " Cache" "Memcached",
  .extend [.load spellings, .write "CACHE" " Valkey "]]

/-- Of the spellings the later one counts, over them all the table that was laid over, and nothing
is left of what was written before the replacement. -/
theorem last_write_wins_restocking :
    ∃ table, build .empty restocking = .ok table ∧ table.resolve? " Pg " = some "timescale" ∧
      table.resolve? "cache" = some "valkey" ∧ table.resolve? "legacy" = none ∧
      table.aliases.size = 25 := by
  have hbuild : (build .empty restocking).toOption.any (fun _ => true) = true := by
    decide +kernel
  obtain ⟨table, htable, -⟩ := exists_ok_of_any hbuild
  obtain ⟨hresolve, -, hsize, -⟩ := last_write_wins restocking htable
  refine ⟨table, htable, ?_⟩
  rw [hresolve, hresolve, hresolve, hsize]
  decide +kernel

end TableOperation

end NumberedProse
