import Mathlib.Tactic.Common
import NumberedProse.Assembly
import NumberedProse.Program

/-!
# Finding a number in order

What the search by halves answers on an array whose numbers increase strictly.

**The search is exact.**  The window only ever loses entries that cannot carry the number
(`narrow_eq`), so the entry left at the end is the one that does, if there is one:
`position?_eq_some_iff`.  Without the order the search may miss a number, but a position it answers
always carries the number asked for.

**The successor is the next entry.**  `successor?_eq` reads the number after position `i` off
position `i + 1`, and `successor?_eq_some_iff` says which number that is: the least larger one.
-/

namespace NumberedProse

lemma getElem?_of_drop_eq_cons {α : Type} {items rest : List α} {item : α} {i : Nat}
    (h : items.drop i = item :: rest) : items[i]? = some item ∧ items.drop (i + 1) = rest := by
  constructor
  · rw [← List.head?_drop, h, List.head?_cons]
  · rw [← List.tail_drop, h, List.tail_cons]

namespace Numbered

variable {α : Type}

/-- The numbers of the entries increase strictly. -/
def Increasing (number : α → LineNumber) (items : Array α) : Prop :=
  items.toList.Pairwise fun a b => number a < number b

variable {number : α → LineNumber} {items : Array α} {n : LineNumber}

lemma Increasing.lt (h : Increasing number items) {i j : Nat} (hi : i < items.size)
    (hj : j < items.size) (hij : i < j) : number items[i] < number items[j] := by
  have hpairs := List.pairwise_iff_getElem.mp h i j (by simpa using hi) (by simpa using hj) hij
  simpa using hpairs

lemma Increasing.lt_iff (h : Increasing number items) {i j : Nat} (hi : i < items.size)
    (hj : j < items.size) : number items[i] < number items[j] ↔ i < j := by
  refine ⟨fun hlt => ?_, h.lt hi hj⟩
  by_contra hge
  rcases Nat.eq_or_lt_of_le (Nat.le_of_not_lt hge) with rfl | hgt
  · exact UInt32.lt_irrefl _ hlt
  · exact UInt32.lt_irrefl _ (UInt32.lt_trans hlt (h.lt hj hi hgt))

lemma mem_numbers_iff :
    n ∈ items.toList.map number ↔ ∃ (i : Nat) (hi : i < items.size), number items[i] = n := by
  simp only [List.mem_map, Array.mem_toList_iff, Array.mem_iff_getElem]
  constructor
  · rintro ⟨item, ⟨i, hi, rfl⟩, rfl⟩
    exact ⟨i, hi, rfl⟩
  · rintro ⟨i, hi, rfl⟩
    exact ⟨_, ⟨i, hi, rfl⟩, rfl⟩

/-- **The window never loses the number:** if the entry at place `k` of the window carries it, that
entry is left at the end. -/
lemma narrow_eq (h : Increasing number items) {base size k : Nat}
    {inside : base + size ≤ items.size} (hlt : k < items.size) (hk : number items[k] = n)
    (hbase : base ≤ k) (hsize : k < base + size) :
    narrow number items n base size inside = k := by
  fun_induction narrow number items n base size inside with
  | case1 base size inside hwide half hhalf hless ih =>
      -- the middle entry lies beyond the number, so place `k` lies before the middle
      have hbefore : k < base + half := by
        by_contra hge
        rcases Nat.eq_or_lt_of_le (Nat.le_of_not_lt hge) with heq | hgt
        · subst heq
          rw [hk] at hless
          exact absurd hless (UInt32.lt_irrefl _)
        · have hgreater := h.lt hhalf hlt hgt
          rw [hk] at hgreater
          exact absurd (UInt32.lt_trans hless hgreater) (UInt32.lt_irrefl _)
      exact ih hbase (by omega)
  | case2 base size inside hwide half hhalf hless ih =>
      -- the middle entry does not lie beyond the number, so place `k` does not lie before it
      have hafter : base + half ≤ k := by
        by_contra hbefore
        have hgreater := h.lt hlt hhalf (Nat.lt_of_not_le hbefore)
        rw [hk] at hgreater
        exact hless hgreater
      exact ih hafter (by omega)
  | case3 base size inside hnarrow => omega

/-- A position that is answered carries the number, in whatever order the entries stand. -/
lemma number_of_position? {i : Nat} (h : position? number items n = some i) :
    items[i]?.map number = some n := by
  obtain ⟨item, hitem, hif⟩ := Option.bind_eq_some_iff.mp h
  split at hif
  · next hnumber =>
      cases hif
      rw [hitem, Option.map_some, hnumber]
  · cases hif

/-- **The search is exact** on entries in order. -/
theorem position?_eq_some_iff (h : Increasing number items) {i : Nat} :
    position? number items n = some i ↔ items[i]?.map number = some n := by
  refine ⟨number_of_position?, fun hi => ?_⟩
  obtain ⟨item, hitem, hnumber⟩ := Option.map_eq_some_iff.mp hi
  obtain ⟨hlt, hget⟩ := Array.getElem?_eq_some_iff.mp hitem
  have hleft : narrow number items n 0 items.size (by simp) = i :=
    narrow_eq h hlt (by rw [hget, hnumber]) (Nat.zero_le i) (by omega)
  simp [position?, hleft, hitem, hnumber]

/-- A number has a position exactly if an entry carries it. -/
theorem position?_isSome_iff (h : Increasing number items) :
    (position? number items n).isSome ↔ n ∈ items.toList.map number := by
  constructor
  · intro hsome
    obtain ⟨i, hi⟩ := Option.isSome_iff_exists.mp hsome
    obtain ⟨item, hitem, rfl⟩ := Option.map_eq_some_iff.mp (number_of_position? hi)
    exact List.mem_map_of_mem (Array.mem_toList_iff.mpr (Array.mem_of_getElem? hitem))
  · intro hmem
    obtain ⟨item, hitem, rfl⟩ := List.mem_map.mp hmem
    obtain ⟨i, hi⟩ := Array.mem_iff_getElem?.mp (Array.mem_toList_iff.mp hitem)
    exact Option.isSome_iff_exists.mpr ⟨i, (position?_eq_some_iff h).mpr (by rw [hi]; rfl)⟩

/-- **The successor is the next entry's number.** -/
theorem successor?_eq (h : Increasing number items) {i : Nat}
    (hi : items[i]?.map number = some n) :
    successor? number items n = items[i + 1]?.map number := by
  rw [successor?, (position?_eq_some_iff h).mpr hi, Option.bind_some]

/-- **The successor depends on the numbers alone:** two arrays in order with the same numbers answer
the same. -/
theorem successor?_congr {β : Type} {number' : β → LineNumber} {items' : Array β}
    (h : Increasing number items) (h' : Increasing number' items')
    (heq : items.toList.map number = items'.toList.map number') :
    successor? number items n = successor? number' items' n := by
  have hget : ∀ i : Nat, items[i]?.map number = items'[i]?.map number' := by
    intro i
    have hi := congrArg (·[i]?) heq
    simpa using hi
  have hposition : position? number items n = position? number' items' n := by
    apply Option.ext
    intro i
    rw [position?_eq_some_iff h, position?_eq_some_iff h', hget]
  simp only [successor?, hposition, hget]

/-- **The successor is the least larger number.** -/
theorem successor?_eq_some_iff (h : Increasing number items) (hn : n ∈ items.toList.map number)
    {m : LineNumber} :
    successor? number items n = some m ↔
      m ∈ items.toList.map number ∧ n < m ∧ ∀ k ∈ items.toList.map number, n < k → m ≤ k := by
  obtain ⟨i, hi, rfl⟩ := mem_numbers_iff.mp hn
  rw [successor?_eq h (by simp [hi] : items[i]?.map number = some (number items[i]))]
  constructor
  · intro hnext
    obtain ⟨item, hitem, rfl⟩ := Option.map_eq_some_iff.mp hnext
    obtain ⟨hlt, rfl⟩ := Array.getElem?_eq_some_iff.mp hitem
    refine ⟨mem_numbers_iff.mpr ⟨_, hlt, rfl⟩, h.lt hi hlt (by omega), ?_⟩
    intro k hk hless
    obtain ⟨j, hj, rfl⟩ := mem_numbers_iff.mp hk
    have hij := (h.lt_iff hi hj).mp hless
    rcases Nat.eq_or_lt_of_le hij with rfl | hgt
    · exact UInt32.le_refl _
    · exact UInt32.le_of_lt (h.lt hlt hj hgt)
  · rintro ⟨hm, hless, hleast⟩
    obtain ⟨j, hj, rfl⟩ := mem_numbers_iff.mp hm
    have hij := (h.lt_iff hi hj).mp hless
    have hnext : i + 1 < items.size := by omega
    have hle := hleast _ (mem_numbers_iff.mpr ⟨_, hnext, rfl⟩) (h.lt hi hnext (by omega))
    -- nothing stands between two neighbours
    rcases Nat.eq_or_lt_of_le hij with rfl | hgt
    · simp [hnext]
    · exact absurd (h.lt hnext hj hgt) (UInt32.not_lt.mpr hle)

/-- A successor is the number of an entry. -/
lemma mem_of_successor? {m : LineNumber} (hm : successor? number items n = some m) :
    m ∈ items.toList.map number := by
  obtain ⟨i, -, hnext⟩ := Option.bind_eq_some_iff.mp hm
  obtain ⟨item, hitem, rfl⟩ := Option.map_eq_some_iff.mp hnext
  exact List.mem_map_of_mem (Array.mem_toList_iff.mpr (Array.mem_of_getElem? hitem))

end Numbered

/-! ## Programs and assemblies -/

namespace Program

lemma contains_iff (program : Program) {n : LineNumber} :
    program.contains n = true ↔ n ∈ program.numbers :=
  Numbered.position?_isSome_iff program.increasing

lemma nodup_numbers (program : Program) : program.numbers.Nodup := by
  refine List.Pairwise.imp ?_ (List.pairwise_map.mpr program.increasing)
  intro a b hlt heq
  rw [heq] at hlt
  exact absurd hlt (UInt32.lt_irrefl b)

lemma mem_of_successor? {program : Program} {n m : LineNumber}
    (h : program.successor? n = some m) : m ∈ program.numbers :=
  Numbered.mem_of_successor? h

lemma successor?_eq_some_iff (program : Program) {n m : LineNumber} (hn : n ∈ program.numbers) :
    program.successor? n = some m ↔
      m ∈ program.numbers ∧ n < m ∧ ∀ k ∈ program.numbers, n < k → m ≤ k :=
  Numbered.successor?_eq_some_iff program.increasing hn

end Program

namespace Assembly

variable {assembly : Assembly}

/-- The numbers of the blocks, in the order they stand. -/
def numbers (assembly : Assembly) : List LineNumber := assembly.blocks.toList.map Block.number

/-- The blocks stand in strictly increasing order of number. -/
def Ordered (assembly : Assembly) : Prop := Numbered.Increasing Block.number assembly.blocks

/-- The place after a block is the end of the program or a block. -/
lemma mem_numbers_of_successor? {n m : LineNumber}
    (h : assembly.successor? n = some m) : m ∈ assembly.numbers :=
  Numbered.mem_of_successor? h

lemma number_mem {block : Block} (h : block ∈ assembly.blocks) :
    block.number ∈ assembly.numbers :=
  List.mem_map_of_mem (Array.mem_toList_iff.mpr h)

/-- The block a run begins at, if there is one, carries a number. -/
lemma mem_numbers_of_entry? {n : LineNumber}
    (h : assembly.entry? = some n) : n ∈ assembly.numbers := by
  obtain ⟨block, hblock, rfl⟩ := Option.map_eq_some_iff.mp h
  exact number_mem (Array.mem_of_getElem? hblock)

end Assembly

end NumberedProse
