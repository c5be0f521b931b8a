import Mathlib.Data.List.Nodup
import Mathlib.Tactic.Common
import NumberedProse.Proofs.Compiled

/-!
# Resources are acquired once

Lines are observed in program order, and what has been observed is kept in two places: the list of
resources with the lines that acquire them, and the use of each line.  `ResourceContext.Tracks` says
how both follow from the lines observed so far.

**The entries.**  An entry names a resource and the first line that names it, and no two entries
have the same resource.

**The uses.**  A line that names a resource acquires it if it is the line of the entry, and refers
to it otherwise.

Observing a line with a larger number keeps this (`Tracks.observe`), so it holds of whole programs.
Blocks carry the uses of their lines, hence `Compilation.resources_acquired_once`.
-/

namespace NumberedProse

/-- The resource that a line names by its hint. -/
def Line.resource? (table : ResourceTable) (line : Line) : Option String :=
  line.hint.bind table.resolve?

namespace ResourceContext

variable {table : ResourceTable} {context : ResourceContext} {lines : List Line} {line : Line}

/-! ## Observing a line -/

/-- **The context has the use of a line right:** a line that names a resource acquires it if it is
the line of the entry, and refers to it otherwise. -/
structure Serves (context : ResourceContext) (table : ResourceTable) (line : Line) : Prop where
  unneeded : line.resource? table = none → context.use line.number = .unneeded
  needed : ∀ key, line.resource? table = some key → ∃ e ∈ context.entries, e.key = key ∧
    context.use line.number = if line.number = e.firstLine then .first key else .again key

/-- **How a context follows from the lines observed.** -/
structure Tracks (table : ResourceTable) (lines : List Line) (context : ResourceContext) :
    Prop where
  ordered : context.entries.Pairwise fun a b => a.key ≠ b.key ∧ a.firstLine < b.firstLine
  /-- The line of an entry is the first that names the resource. -/
  first : ∀ e ∈ context.entries, ∃ line ∈ lines, line.number = e.firstLine ∧
    line.resource? table = some e.key ∧
    ∀ m ∈ lines, m.resource? table = some e.key → e.firstLine ≤ m.number
  serves : ∀ line ∈ lines, context.Serves table line

lemma serves_of_entry {e : ResourceEntry} (he : e ∈ context.entries)
    (hresource : line.resource? table = some e.key)
    (huse : context.use line.number =
      if line.number = e.firstLine then .first e.key else .again e.key) :
    context.Serves table line := by
  refine ⟨fun hnone => ?_, fun key hkey => ?_⟩
  · rw [hresource] at hnone
    cases hnone
  · rw [hresource] at hkey
    cases hkey
    exact ⟨e, he, rfl, huse⟩

lemma tracks_empty (table : ResourceTable) : Tracks table [] empty where
  ordered := List.Pairwise.nil
  first e he := by cases he
  serves line hline := by cases hline

/-- **All that observing a line can do:** the line names no resource, or one that has an entry, or
one that gets its entry now. -/
lemma observe_cases (table : ResourceTable) (context : ResourceContext) (line : Line) :
    (line.resource? table = none ∧ context.observe table line.number line.hint =
      ⟨context.entries, context.uses.insert line.number .unneeded⟩) ∨
    (∃ e ∈ context.entries, line.resource? table = some e.key ∧
      context.observe table line.number line.hint =
        ⟨context.entries, context.uses.insert line.number (.again e.key)⟩) ∨
    ∃ key, line.resource? table = some key ∧ (∀ e ∈ context.entries, e.key ≠ key) ∧
      context.observe table line.number line.hint =
        ⟨context.entries ++ [⟨key, line.number⟩],
          context.uses.insert line.number (.first key)⟩ := by
  cases hresource : line.hint.bind table.resolve? with
  | none =>
      refine Or.inl ⟨hresource, ?_⟩
      simp only [observe, nextUse, hresource]
  | some key =>
      by_cases hknown : context.entries.any (·.key == key)
      · obtain ⟨e, he, hkey⟩ := List.any_eq_true.mp hknown
        obtain rfl := eq_of_beq hkey
        refine Or.inr (Or.inl ⟨e, he, hresource, ?_⟩)
        simp only [observe, nextUse, hresource, hknown, if_true]
      · refine Or.inr (Or.inr ⟨key, hresource, ?_, ?_⟩)
        · intro e he hkey
          exact hknown (List.any_eq_true.mpr ⟨e, he, beq_iff_eq.mpr hkey⟩)
        · simp only [observe, nextUse, hresource, hknown]
          rfl

lemma use_insert (entries : List ResourceEntry) (uses : InsertionMap LineNumber ResourceUse)
    (number n : LineNumber) (use : ResourceUse) :
    ResourceContext.use ⟨entries, uses.insert number use⟩ n =
      if n = number then use else ResourceContext.use ⟨entries, uses⟩ n := by
  simp only [ResourceContext.use, InsertionMap.get?_insert]
  split <;> rfl

namespace Tracks

lemma firstLine_lt (h : Tracks table lines context) (hlater : ∀ m ∈ lines, m.number < line.number)
    {e : ResourceEntry} (he : e ∈ context.entries) : e.firstLine < line.number := by
  obtain ⟨m, hm, hnumber, -⟩ := h.first e he
  rw [← hnumber]
  exact hlater m hm

/-- The use of a line stays right when the use of a later line is set. -/
lemma serves_of_later (h : Tracks table lines context)
    (hlater : ∀ m ∈ lines, m.number < line.number) {entries : List ResourceEntry}
    (hentries : context.entries ⊆ entries) (use : ResourceUse) :
    ∀ m ∈ lines, Serves ⟨entries, context.uses.insert line.number use⟩ table m := by
  intro m hm
  have hother : ResourceContext.use ⟨entries, context.uses.insert line.number use⟩ m.number =
      context.use m.number := by
    rw [use_insert, if_neg (UInt32.ne_of_lt (hlater m hm))]
    rfl
  refine ⟨fun hnone => ?_, fun key hkey => ?_⟩
  · rw [hother]
    exact (h.serves m hm).unneeded hnone
  · obtain ⟨e, he, hsame, huse⟩ := (h.serves m hm).needed key hkey
    exact ⟨e, hentries he, hsame, hother.trans huse⟩

lemma first_of_later (h : Tracks table lines context)
    (hlater : ∀ m ∈ lines, m.number < line.number) {e : ResourceEntry} (he : e ∈ context.entries) :
    ∃ l ∈ lines ++ [line], l.number = e.firstLine ∧ l.resource? table = some e.key ∧
      ∀ m ∈ lines ++ [line], m.resource? table = some e.key → e.firstLine ≤ m.number := by
  obtain ⟨l, hl, hnumber, hresource, hleast⟩ := h.first e he
  refine ⟨l, List.mem_append_left _ hl, hnumber, hresource, ?_⟩
  intro m hm hkey
  rcases List.mem_append.mp hm with hold | hnew
  · exact hleast m hold hkey
  · rw [List.mem_singleton.mp hnew]
    exact UInt32.le_of_lt (h.firstLine_lt hlater he)

/-- A later line that brings no entry keeps the context right if its own use is. -/
lemma insert_use (h : Tracks table lines context) (hlater : ∀ m ∈ lines, m.number < line.number)
    {use : ResourceUse}
    (hline : Serves ⟨context.entries, context.uses.insert line.number use⟩ table line) :
    Tracks table (lines ++ [line])
      ⟨context.entries, context.uses.insert line.number use⟩ where
  ordered := h.ordered
  first _ he := h.first_of_later hlater he
  serves := List.forall_mem_append.mpr
    ⟨h.serves_of_later hlater (List.Subset.refl _) use, List.forall_mem_singleton.mpr hline⟩

/-- A later line that names a resource without an entry brings the entry. -/
lemma insert_entry (h : Tracks table lines context)
    (hlater : ∀ m ∈ lines, m.number < line.number) {key : String}
    (hresource : line.resource? table = some key) (hnew : ∀ e ∈ context.entries, e.key ≠ key)
    (hline : Serves ⟨context.entries ++ [⟨key, line.number⟩],
      context.uses.insert line.number (.first key)⟩ table line) :
    Tracks table (lines ++ [line]) ⟨context.entries ++ [⟨key, line.number⟩],
      context.uses.insert line.number (.first key)⟩ where
  ordered := by
    refine List.pairwise_append.mpr ⟨h.ordered, List.pairwise_singleton _ _, ?_⟩
    intro a ha b hb
    rw [List.mem_singleton.mp hb]
    exact ⟨hnew a ha, h.firstLine_lt hlater ha⟩
  first := by
    refine List.forall_mem_append.mpr ⟨fun e he => h.first_of_later hlater he,
      List.forall_mem_singleton.mpr ⟨line, List.mem_append_right _ (List.mem_singleton_self line),
        rfl, hresource, ?_⟩⟩
    refine List.forall_mem_append.mpr ⟨?_, List.forall_mem_singleton.mpr fun _ => UInt32.le_refl _⟩
    -- an earlier line with this resource would have left an entry
    intro m hm hkey
    obtain ⟨e, he, hsame, -⟩ := (h.serves m hm).needed key hkey
    exact absurd hsame (hnew e he)
  serves := List.forall_mem_append.mpr
    ⟨h.serves_of_later hlater (List.subset_append_left _ _) _, List.forall_mem_singleton.mpr hline⟩

/-- **Observing the next line keeps the context right.** -/
theorem observe (h : Tracks table lines context) (hlater : ∀ m ∈ lines, m.number < line.number) :
    Tracks table (lines ++ [line]) (context.observe table line.number line.hint) := by
  have hself : ∀ entries use, ResourceContext.use
      ⟨entries, context.uses.insert line.number use⟩ line.number = use := by
    intro entries use
    rw [use_insert, if_pos rfl]
  rcases observe_cases table context line with
    ⟨hresource, hobserve⟩ | ⟨e, he, hresource, hobserve⟩ | ⟨key, hresource, hnew, hobserve⟩
  · rw [hobserve]
    refine h.insert_use hlater ⟨fun _ => hself _ _, fun key hkey => ?_⟩
    rw [hresource] at hkey
    cases hkey
  · rw [hobserve]
    have hlt := h.firstLine_lt hlater he
    refine h.insert_use hlater (serves_of_entry he hresource ?_)
    rw [hself, if_neg (UInt32.ne_of_lt hlt).symm]
  · rw [hobserve]
    have hlast : (⟨key, line.number⟩ : ResourceEntry) ∈ context.entries ++ [⟨key, line.number⟩] :=
      List.mem_append_right _ (List.mem_singleton_self _)
    refine h.insert_entry hlater hresource hnew (serves_of_entry hlast hresource ?_)
    rw [hself, if_pos rfl]

lemma eq_of_key_eq (h : Tracks table lines context) {a b : ResourceEntry} (ha : a ∈ context.entries)
    (hb : b ∈ context.entries) (hkey : a.key = b.key) : a = b := by
  have hdistinct : (context.entries.map ResourceEntry.key).Nodup :=
    List.pairwise_map.mpr (h.ordered.imp fun hab => hab.1)
  exact List.inj_on_of_nodup_map hdistinct ha hb hkey

lemma use_of_key (h : Tracks table lines context) (hline : line ∈ lines) {e : ResourceEntry}
    (he : e ∈ context.entries) (hkey : line.resource? table = some e.key) :
    context.use line.number =
      if line.number = e.firstLine then .first e.key else .again e.key := by
  obtain ⟨other, hother, hsame, huse⟩ := (h.serves line hline).needed e.key hkey
  obtain rfl := h.eq_of_key_eq hother he hsame
  exact huse

lemma key?_use (h : Tracks table lines context) (hline : line ∈ lines) :
    (context.use line.number).key? = line.resource? table := by
  cases hresource : line.resource? table with
  | none =>
      rw [(h.serves line hline).unneeded hresource]
      rfl
  | some key =>
      obtain ⟨e, -, -, huse⟩ := (h.serves line hline).needed key hresource
      rw [huse]
      split <;> rfl

/-- **Only the line of the entry acquires the resource.** -/
theorem use_eq_first_iff (h : Tracks table lines context) (hline : line ∈ lines)
    {e : ResourceEntry} (he : e ∈ context.entries) :
    context.use line.number = .first e.key ↔ line.number = e.firstLine := by
  constructor
  · intro huse
    have hkey : line.resource? table = some e.key := by
      rw [← h.key?_use hline, huse]
      rfl
    rw [h.use_of_key hline he hkey] at huse
    split at huse
    · assumption
    · cases huse
  · intro hnumber
    obtain ⟨first, hfirst, hplace, hkey, -⟩ := h.first e he
    rw [hnumber, ← hplace, h.use_of_key hfirst he hkey, if_pos hplace]

end Tracks

/-! ## Whole programs -/

lemma tracks_foldl (h : Tracks table lines context) {later : List Line}
    (hincreasing : (lines ++ later).Pairwise fun a b => a.number < b.number) :
    Tracks table (lines ++ later)
      (later.foldl (fun context line => context.observe table line.number line.hint) context) := by
  induction later generalizing lines context with
  | nil => simpa using h
  | cons line rest ih =>
      have hlater : ∀ m ∈ lines, m.number < line.number := fun m hm =>
        (List.pairwise_append.mp hincreasing).2.2 m hm line List.mem_cons_self
      have hsplit : lines ++ line :: rest = lines ++ [line] ++ rest := by simp
      rw [hsplit] at hincreasing ⊢
      exact ih (h.observe hlater) hincreasing

/-- **The context of a program follows from its lines.** -/
theorem tracks_ofProgram (program : Program) (table : ResourceTable) :
    Tracks table program.lines.toList (.ofProgram program table) :=
  tracks_foldl (tracks_empty table) program.increasing

end ResourceContext

/-! ## Compiled programs -/

lemma ResourceUse.key?_eq_none_iff {use : ResourceUse} : use.key? = none ↔ use = .unneeded := by
  cases use <;> simp [key?]

/-- Of blocks with distinct numbers exactly one has a given number. -/
lemma filter_number_eq {blocks : List Block} (hdistinct : (blocks.map Block.number).Nodup)
    {n : LineNumber} (hn : n ∈ blocks.map Block.number) :
    (blocks.filter fun block => block.number = n).map Block.number = [n] := by
  have hfilter : (blocks.map Block.number).filter (fun m => m = n) =
      (blocks.filter fun block => block.number = n).map Block.number := List.filter_map
  rw [← hfilter, List.filter_eq, List.count_eq_one_of_mem hdistinct hn]
  rfl

namespace Compilation

/-- **Each resource is acquired exactly once, at its first use.**  The resources of a compiled
program have different keys and increasing lines.  For every entry there is exactly one block that
acquires the resource, the block of its line; no earlier block names the resource, and every later
block that does refers to it.  Every resource that a block uses has an entry, and a block uses
none exactly if its hint names none. -/
theorem resources_acquired_once {σ : Type} {source : String} {table : ResourceTable}
    {translator : Translator σ} {switch : CancelSwitch} {state : σ} {compilation : Compilation}
    (h : (ofSource source table translator switch state).result = .ok compilation) :
    (compilation.assembly.resources.Pairwise fun a b =>
      a.key ≠ b.key ∧ a.firstLine < b.firstLine) ∧
    (∀ e ∈ compilation.assembly.resources,
      (compilation.assembly.blocks.toList.filter fun block => block.use = .first e.key).map
        Block.number = [e.firstLine] ∧
      (∀ block ∈ compilation.assembly.blocks, block.number < e.firstLine →
        block.line.resource? table ≠ some e.key) ∧
      ∀ block ∈ compilation.assembly.blocks, e.firstLine < block.number →
        block.line.resource? table = some e.key → block.use = .again e.key) ∧
    (∀ block ∈ compilation.assembly.blocks, ∀ key, block.use.key? = some key →
      ∃ e ∈ compilation.assembly.resources, e.key = key) ∧
    ∀ block ∈ compilation.assembly.blocks,
      block.use = .unneeded ↔ block.line.resource? table = none := by
  obtain ⟨analysis, hanalysis, hcompile⟩ := exists_compile_of_ofSource h
  have checked := Analysis.checked_of_ofSource hanalysis
  obtain ⟨yields, -⟩ := checked.yields hcompile
  obtain ⟨hresources, huses⟩ := checked.resources_and_uses hcompile
  have htracks := ResourceContext.tracks_ofProgram analysis.program table
  rw [← Analysis.context_of_ofSource hanalysis] at htracks
  have hline : ∀ block ∈ compilation.assembly.blocks,
      block.line ∈ analysis.program.lines.toList := by
    intro block hblock
    rw [← yields.lines]
    exact List.mem_map_of_mem (Array.mem_toList_iff.mpr hblock)
  have hkeys : ∀ block ∈ compilation.assembly.blocks,
      (analysis.context.use block.number).key? = block.line.resource? table :=
    fun block hblock => htracks.key?_use (hline block hblock)
  rw [hresources]
  refine ⟨htracks.ordered, fun e he => ⟨?_, ?_, ?_⟩, ?_, ?_⟩
  · obtain ⟨first, hfirst, hplace, -⟩ := htracks.first e he
    have hacquires : ∀ block ∈ compilation.assembly.blocks.toList,
        decide (block.use = .first e.key) = decide (block.number = e.firstLine) := by
      intro block hblock
      rw [Array.mem_toList_iff] at hblock
      rw [decide_eq_decide, huses block hblock]
      exact htracks.use_eq_first_iff (hline block hblock) he
    rw [List.filter_congr hacquires]
    have hnumbers : compilation.assembly.blocks.toList.map Block.number =
        analysis.program.numbers := yields.numbers_eq
    apply filter_number_eq
    · rw [hnumbers]
      exact analysis.program.nodup_numbers
    · rw [hnumbers, ← hplace]
      exact List.mem_map_of_mem hfirst
  · intro block hblock hlt hkey
    obtain ⟨-, -, -, -, hleast⟩ := htracks.first e he
    exact absurd (hleast block.line (hline block hblock) hkey) (UInt32.not_le.mpr hlt)
  · intro block hblock hlt hkey
    have hother : block.line.number ≠ e.firstLine := (UInt32.ne_of_lt hlt).symm
    rw [huses block hblock, Block.number, htracks.use_of_key (hline block hblock) he hkey,
      if_neg hother]
  · intro block hblock key hkey
    rw [huses block hblock, hkeys block hblock] at hkey
    obtain ⟨e, he, hsame, -⟩ := (htracks.serves _ (hline block hblock)).needed key hkey
    exact ⟨e, he, hsame⟩
  · intro block hblock
    rw [huses block hblock, ← ResourceUse.key?_eq_none_iff, hkeys block hblock]

/-- Lines out of order that name one database twice, a cache once, and a service no table knows. -/
def sharedSource : String :=
  "40 (Postgres) save it\n10 (pg) load the cart\n20 (cache) keep it\n30 print\n50 (fax) send it"

/-- The database is acquired on line 10 alone, though line 40 calls it by another name. -/
theorem resources_acquired_once_sharedSource :
    ∃ compilation, (ofSource sharedSource .builtin .echo .absent ()).result = .ok compilation ∧
      compilation.assembly.resources = [⟨"postgres", 10⟩, ⟨"redis", 20⟩] ∧
      (∃ block ∈ compilation.assembly.blocks, 10 < block.number ∧
        block.line.resource? .builtin = some "postgres") ∧
      (compilation.assembly.blocks.toList.filter fun block => block.use = .first "postgres").map
        Block.number = [10] ∧
      ∀ block ∈ compilation.assembly.blocks, 10 < block.number →
        block.line.resource? .builtin = some "postgres" → block.use = .again "postgres" := by
  have hcompiles : (ofSource sharedSource .builtin .echo .absent ()).result.toOption.any
      (fun compilation =>
        compilation.assembly.resources = [⟨"postgres", 10⟩, ⟨"redis", 20⟩] ∧
        ∃ block ∈ compilation.assembly.blocks, 10 < block.number ∧
          block.line.resource? .builtin = some "postgres") = true := by
    decide +kernel
  obtain ⟨compilation, hcompilation, hcompiles⟩ := exists_ok_of_any hcompiles
  obtain ⟨hresources, hshared⟩ := of_decide_eq_true hcompiles
  have hentry : ⟨"postgres", 10⟩ ∈ compilation.assembly.resources := by
    rw [hresources]
    exact List.mem_cons_self
  obtain ⟨hfirst, -, hagain⟩ := (resources_acquired_once hcompilation).2.1 _ hentry
  exact ⟨compilation, hcompilation, hresources, hshared, hfirst, hagain⟩

end Compilation

end NumberedProse
