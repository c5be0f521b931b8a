import Mathlib.Tactic.Common
import NumberedProse.Assembly.Listing

/-!
# The rows of a listing

How a listing is to be read.  Below its head come the blocks in order.  Each begins with a row that
gives the number in five places, the mark, the kind in ten columns, and whatever else is to be said;
the statements follow.  The mark is a triangle or two blanks, and a block with a triangle is set off
by a rule above it.

**One reading.**  A predicate, a resource or a statement may hold any text, line feeds and whole
rows among it, so a row is known by where it stands and not by how it looks.  A block is set off
exactly if its text begins with a blank (`Block.Shown.head?_append`), and what it shows has the same
length in every reading (`Block.Shown.length_eq`).  Hence the blocks above fix where a row stands
(`Block.Shows.rest_unique`), and the row tells whether it is marked (`Block.Shown.marked_unique`).

**The listing.**  What is written can be read: `Block.shown_listing`, `Block.shows_join`.
-/

namespace NumberedProse

/-! ## The grammar -/

/-- **A number in a column:** digits of its value, with zeros in front up to the width. -/
structure Text.Padded (width n : Nat) (text : String) : Prop where
  digits : ∀ c ∈ text.toList, c.isDigit = true
  value : Nat.ofDigitChars 10 text.toList 0 = n
  length : text.length = max width (toString n).length

/-- **The kind of a block,** and where the block leads. -/
inductive Control.Named : Control → String → String → Prop where
  | fallthrough : Named .fallthrough "fallthrough" ""
  | jump (target : LineNumber) : Named (.jump target) "goto" (" -> " ++ toString target)
  | branch (target : LineNumber) (predicate : String) : Named (.branch target predicate) "if-goto"
      (" -> " ++ toString target ++ " when (" ++ predicate ++ ")")
  | call (target : LineNumber) : Named (.call target) "call" (" -> " ++ toString target)
  | ret : Named .ret "return" ""

namespace Block

/-- What a row says about the error handler. -/
inductive NamesHandler : Option LineNumber → String → Prop where
  | none : NamesHandler none ""
  | some (handler : LineNumber) :
      NamesHandler (some handler) (" [on error -> " ++ toString handler ++ "]")

/-- What a row says about the resource. -/
inductive NamesUse : ResourceUse → String → Prop where
  | unneeded : NamesUse .unneeded ""
  | first (key : String) : NamesUse (.first key) (" [init " ++ key ++ "]")
  | again (key : String) : NamesUse (.again key) (" [reuse " ++ key ++ "]")

/-- **The first row of a block:** number, mark, kind, where it leads, handler and resource. -/
inductive Row (block : Block) (mark : String) : String → Prop where
  | intro {number kind gap leads handler use : String}
      (hnumber : Text.Padded 5 block.number.toNat number)
      (hkind : block.control.Named kind leads)
      (hgap : gap.toList = List.replicate (10 - kind.length) ' ')
      (hhandler : NamesHandler block.handler handler) (huse : NamesUse block.use use) :
      Row block mark
        (number ++ " " ++ mark ++ kind ++ gap ++ leads ++ handler ++ use ++ "\n")

/-- The statements of a block, each in a row of its own. -/
def statementRows (block : Block) : String :=
  String.join (block.statements.map fun statement => "        " ++ statement ++ "\n")

/-- **A block in a listing:** below a rule and with a triangle, or with two blanks in its place. -/
inductive Shown (block : Block) : (marked : Bool) → String → Prop where
  | marked {row : String} (hrow : Row block "► " row) :
      Shown block true
        ("      ┌──────────────────────────────────\n" ++ row ++ block.statementRows)
  | plain {row : String} (hrow : Row block "  " row) :
      Shown block false (row ++ block.statementRows)

/-- **Blocks one below the other,** each marked or not. -/
inductive Shows : List Block → String → Prop where
  | nil : Shows [] ""
  | cons {block : Block} {rest : List Block} {marked : Bool} {text below : String}
      (hblock : Shown block marked text) (hrest : Shows rest below) :
      Shows (block :: rest) (text ++ below)

end Block

/-! ## One reading -/

lemma Control.Named.unique {control : Control} {kind kind' leads leads' : String}
    (h : control.Named kind leads) (h' : control.Named kind' leads') :
    kind = kind' ∧ leads = leads' := by
  cases h <;> cases h' <;> exact ⟨rfl, rfl⟩

namespace Block

variable {block : Block} {mark row row' : String} {marked marked' : Bool} {text text' : String}

lemma NamesHandler.unique {handler : Option LineNumber} (h : NamesHandler handler text)
    (h' : NamesHandler handler text') : text = text' := by
  cases h <;> cases h' <;> rfl

lemma NamesUse.unique {use : ResourceUse} (h : NamesUse use text) (h' : NamesUse use text') :
    text = text' := by
  cases h <;> cases h' <;> rfl

/-- The parts of a row other than its number are fixed, and so is the width of the number. -/
lemma Row.length_eq (h : Row block mark row) (h' : Row block mark row') :
    row.length = row'.length := by
  obtain ⟨hnumber, hkind, hgap, hhandler, huse⟩ := h
  obtain ⟨hnumber', hkind', hgap', hhandler', huse'⟩ := h'
  obtain ⟨rfl, rfl⟩ := hkind.unique hkind'
  obtain rfl := hhandler.unique hhandler'
  obtain rfl := huse.unique huse'
  obtain rfl := String.toList_inj.mp (hgap.trans hgap'.symm)
  simp only [String.length_append, hnumber.length, hnumber'.length]

lemma Row.head?_append (h : Row block mark row) (tail : List Char) :
    (row.toList ++ tail).head?.map Char.isDigit = some true := by
  obtain @⟨number, _, _, _, _, _, hnumber, _, _, _, _⟩ := h
  cases hdigits : number.toList with
  | nil =>
      have hlength := hnumber.length
      rw [← String.length_toList, hdigits, List.length_nil] at hlength
      omega
  | cons c rest =>
      have hc : c.isDigit = true := hnumber.digits c (by rw [hdigits]; exact List.mem_cons_self)
      simp [String.toList_append, hdigits, hc]

/-- **The first character of a block tells whether it is set off.** -/
lemma Shown.head?_append (h : Shown block marked text) (tail : List Char) :
    (text.toList ++ tail).head?.map Char.isDigit = some !marked := by
  cases h with
  | marked hrow => simp [String.toList_append]
  | plain hrow =>
      rw [String.toList_append, List.append_assoc]
      exact hrow.head?_append _

lemma Shown.length_eq (h : Shown block marked text) (h' : Shown block marked text') :
    text.length = text'.length := by
  cases h with
  | marked hrow =>
      cases h' with
      | marked hrow' => simp only [String.length_append, hrow.length_eq hrow']
  | plain hrow =>
      cases h' with
      | plain hrow' => simp only [String.length_append, hrow.length_eq hrow']

/-- **A block is marked in every reading or in none.** -/
lemma Shown.marked_unique (h : Shown block marked text) (h' : Shown block marked' text')
    {rest rest' : List Char} (heq : text.toList ++ rest = text'.toList ++ rest') :
    marked = marked' := by
  have hfirst := congrArg (fun text => text.head?.map Char.isDigit) heq
  simp only [h.head?_append, h'.head?_append, Option.some.injEq] at hfirst
  exact Bool.not_inj hfirst

/-- **Blocks end at the same place in every reading.** -/
theorem Shows.rest_unique {blocks : List Block} (h : Shows blocks text) (h' : Shows blocks text')
    {rest rest' : List Char} (heq : text.toList ++ rest = text'.toList ++ rest') :
    rest = rest' := by
  induction h generalizing text' with
  | nil =>
      cases h'
      exact heq
  | cons hblock hrest ih =>
      cases h' with
      | cons hblock' hrest' =>
          simp only [String.toList_append, List.append_assoc] at heq
          obtain rfl := hblock.marked_unique hblock' heq
          have hlength := hblock.length_eq hblock'
          rw [← String.length_toList, ← String.length_toList] at hlength
          exact ih hrest' (List.append_inj_right heq hlength)

end Block

/-! ## What is written -/

lemma Text.ofDigitChars_fill_zero (count : Nat) :
    Nat.ofDigitChars 10 (fill '0' count).toList 0 = 0 := by
  rw [fill, String.toList_ofList]
  induction count with
  | zero => rfl
  | succ count ih =>
      rw [List.replicate_succ, Nat.ofDigitChars_cons]
      exact ih

lemma Text.padded_zeroPadded (width n : Nat) : Padded width n (zeroPadded width n) := by
  have hdigits : (toString n).toList = Nat.toDigits 10 n := by
    rw [Nat.toString_eq_repr, Nat.toList_repr]
  refine ⟨fun c hc => ?_, ?_, ?_⟩
  · rw [zeroPadded, String.toList_append, List.mem_append, hdigits] at hc
    rcases hc with hc | hc
    · rw [fill, String.toList_ofList] at hc
      rw [List.eq_of_mem_replicate hc]
      rfl
    · exact Nat.isDigit_of_mem_toDigits (by decide) (by decide) hc
  · rw [zeroPadded, String.toList_append, Nat.ofDigitChars_append, ofDigitChars_fill_zero, hdigits,
      Nat.ofDigitChars_ten_toDigits]
  · rw [zeroPadded, String.length_append, fill, String.length_ofList, List.length_replicate]
    omega

lemma Control.named_name (control : Control) :
    control.Named control.name (Block.destination control) := by
  cases control with
  | fallthrough => exact .fallthrough
  | jump target => exact .jump target
  | branch target predicate => exact .branch target predicate
  | call target => exact .call target
  | ret => exact .ret

namespace Block

/-- **The heading of a block is its first row.** -/
lemma row_heading (block : Block) (marked : Bool) :
    Row block (if marked then "► " else "  ") (block.heading marked) := by
  have hrow : ∀ {mark handler use}, NamesHandler block.handler handler →
      NamesUse block.use use →
      Row block mark (Text.zeroPadded 5 block.number.toNat ++ " " ++ mark ++
        Text.padRight 10 block.control.name ++ destination block.control ++ handler ++ use ++
        "\n") := by
    intro mark handler use hhandler huse
    rw [Text.padRight, ← String.append_assoc]
    exact .intro (Text.padded_zeroPadded 5 _) block.control.named_name String.toList_ofList
      hhandler huse
  refine hrow ?handler ?use
  case handler => cases block.handler <;> constructor
  case use => cases block.use <;> constructor

example : heading ⟨⟨30, none, "work"⟩, .fallthrough, some 50, .first "redis", []⟩ true =
    "00030 ► fallthrough [on error -> 50] [init redis]\n" := by
  decide +kernel

/-- **What is written for a block** shows it as it is said to be marked. -/
lemma shown_listing (block : Block) (marked : Bool) :
    Shown block marked (block.listing marked) := by
  have hrow := row_heading block marked
  cases marked with
  | true => exact .marked hrow
  | false =>
      rw [listing, if_neg Bool.false_ne_true, String.empty_append]
      exact .plain hrow

/-- What is written for blocks one after the other shows them all. -/
lemma shows_join (blocks : List Block) (marked : LineNumber → Bool) :
    Shows blocks
      (String.join (blocks.map fun block => block.listing (marked block.number))) := by
  induction blocks with
  | nil => exact .nil
  | cons block rest ih =>
      rw [List.map_cons, String.join_cons]
      exact .cons (block.shown_listing _) ih

end Block

end NumberedProse
