import Mathlib.Tactic.Common
import NumberedProse.Proofs.Lexing
import NumberedProse.Proofs.Search

/-!
# Tokens tile the text

The tokens of a text stand one after the other, begin where they say and leave out nothing but
blanks (`Token.scan_tiles`).  One token alone can reach beyond the text, and by one place only: a
quoted text that is never closed and whose last character is a backslash that escapes nothing.

**Inside quotes.**  `Token.Enclosed` spells the characters after an opening quote that do not close
it.  They are read the same whatever comes after (`Enclosed.readQuotedBody_append`), and what comes
after is a closing quote, the end of the text, or a lone backslash at the end (`exists_enclosed`).

**One token.**  A reader leaves what stands behind its token (`drop_read`), takes at least one
character (`width_read_pos`), and ends with the text at the latest unless it has found such a
backslash (`width_read_le`).

**The whole text.**  `Tiles` is about all places from a given one on, so that a blank or a token in
front keeps it (`Tiles.blank`, `Tiles.token`).
-/

namespace NumberedProse.Token

open Text

/-! ## Inside quotes -/

/-- **Characters inside a quoted text that do not close it:** each is neither a quote nor a
backslash, or stands after a backslash. -/
inductive Enclosed : List Char → Prop where
  | nil : Enclosed []
  | plain {c : Char} {rest : List Char} (hquote : c ≠ '"') (hslash : c ≠ '\\')
      (h : Enclosed rest) : Enclosed (c :: rest)
  | escaped (c : Char) {rest : List Char} (h : Enclosed rest) : Enclosed ('\\' :: c :: rest)

namespace Enclosed

variable {inside : List Char}

lemma readQuotedBody_append (h : Enclosed inside) (tail : List Char) :
    readQuotedBody (inside ++ tail) =
      ⟨(readQuotedBody inside).content ++ (readQuotedBody tail).content,
        inside.length + (readQuotedBody tail).width, (readQuotedBody tail).rest⟩ := by
  induction h with
  | nil => simp [readQuotedBody]
  | plain hquote hslash h ih =>
      rw [List.cons_append, readQuotedBody_cons hquote hslash, readQuotedBody_cons hquote hslash,
        ih, List.cons_append, List.length_cons, Nat.add_right_comm]
  | escaped c h ih =>
      simp only [List.cons_append, readQuotedBody, ih, List.length_cons]
      rw [Nat.add_right_comm]

lemma read_append (h : Enclosed inside) (tail : List Char) :
    read '"' (inside ++ tail) =
      ⟨.quoted (String.ofList ((readQuotedBody inside).content ++ (readQuotedBody tail).content)),
        inside.length + (readQuotedBody tail).width + 1, (readQuotedBody tail).rest⟩ := by
  have hread : read '"' (inside ++ tail) = readQuoted (inside ++ tail) := rfl
  rw [hread, readQuoted, h.readQuotedBody_append]

end Enclosed

/-- **What stands after an opening quote** is enclosed up to the closing quote, the end of the text,
or a lone backslash at the end. -/
lemma exists_enclosed (text : List Char) :
    ∃ inside tail, Enclosed inside ∧ text = inside ++ tail ∧
      (tail = [] ∨ tail = ['\\'] ∨ ∃ rest, tail = '"' :: rest) := by
  fun_induction readQuotedBody text with
  | case1 => exact ⟨[], [], .nil, rfl, .inl rfl⟩
  | case2 rest => exact ⟨[], '"' :: rest, .nil, rfl, .inr (.inr ⟨rest, rfl⟩)⟩
  | case3 => exact ⟨[], ['\\'], .nil, rfl, .inr (.inl rfl)⟩
  | case4 c rest body ih =>
      obtain ⟨inside, tail, henclosed, rfl, htail⟩ := ih
      exact ⟨'\\' :: c :: inside, tail, .escaped c henclosed, rfl, htail⟩
  | case5 c rest hquote hlone hslash body ih =>
      obtain ⟨inside, tail, henclosed, rfl, htail⟩ := ih
      exact ⟨c :: inside, tail, .plain hquote (ne_backslash hlone hslash) henclosed, rfl, htail⟩

/-! ## One token -/

/-- **A quoted text that begins here is never closed,** and its last character is a backslash that
escapes nothing. -/
def Dangling (text : List Char) : Prop :=
  ∃ inside, Enclosed inside ∧ text = '"' :: (inside ++ ['\\'])

lemma width_read_of_dangling {c : Char} {rest : List Char} (h : Dangling (c :: rest)) :
    (∃ content, (read c rest).token = .quoted content) ∧ (read c rest).rest = [] ∧
      (read c rest).width = rest.length + 2 := by
  obtain ⟨inside, henclosed, heq⟩ := h
  obtain ⟨rfl, rfl⟩ := List.cons.inj heq
  rw [henclosed.read_append]
  exact ⟨⟨_, rfl⟩, rfl, by simp [readQuotedBody]⟩

/-- **A reader that finds no lone backslash** takes a piece of the text. -/
lemma exists_taken_of_not_dangling {c : Char} {rest : List Char} (h : ¬ Dangling (c :: rest)) :
    ∃ taken, taken ++ (read c rest).rest = c :: rest ∧ taken.length = (read c rest).width := by
  by_cases hquote : c = '"'
  · subst hquote
    obtain ⟨inside, tail, henclosed, rfl, rfl | rfl | ⟨rest, rfl⟩⟩ := exists_enclosed rest
    · rw [henclosed.read_append]
      exact ⟨'"' :: inside, rfl, rfl⟩
    · exact absurd ⟨inside, henclosed, rfl⟩ h
    · rw [henclosed.read_append]
      exact ⟨'"' :: (inside ++ ['"']), by simp [readQuotedBody], by simp [readQuotedBody]⟩
  · obtain ⟨taken, hsplit, hwidth, -⟩ := exists_taken hquote rest
    exact ⟨taken, hsplit, hwidth⟩

/-- **A reader leaves what stands behind its token.** -/
lemma drop_read (c : Char) (rest : List Char) :
    (c :: rest).drop (read c rest).width = (read c rest).rest := by
  by_cases h : Dangling (c :: rest)
  · obtain ⟨-, hrest, hwidth⟩ := width_read_of_dangling h
    rw [hrest, hwidth]
    exact List.drop_eq_nil_of_le (by simp)
  · obtain ⟨taken, hsplit, hwidth⟩ := exists_taken_of_not_dangling h
    rw [← hwidth, ← hsplit, List.drop_left]

lemma width_read_le {c : Char} {rest : List Char} (h : ¬ Dangling (c :: rest)) :
    (read c rest).width ≤ rest.length + 1 := by
  obtain ⟨taken, hsplit, hwidth⟩ := exists_taken_of_not_dangling h
  have hlength := congrArg List.length hsplit
  rw [List.length_append, List.length_cons] at hlength
  omega

lemma width_read_pos (c : Char) (rest : List Char) : 0 < (read c rest).width := by
  have hle := read_rest_length_le c rest
  have hdrop := congrArg List.length (drop_read c rest)
  rw [List.length_drop, List.length_cons] at hdrop
  omega

/-! ## The whole text -/

/-- A lexeme of a quoted text that is never closed and ends in a backslash that escapes nothing. -/
def Dangles (text : List Char) (l : Lexeme) : Prop :=
  (∃ content, l.token = .quoted content) ∧ Dangling (text.drop l.start)

/-- **Lexemes and an end mark tile a text from a place on.** -/
structure Tiles (text : List Char) (place : Nat) (lexemes : List Lexeme) (mark : Lexeme) :
    Prop where
  after : ∀ l ∈ lexemes, place ≤ l.start
  proper : ∀ l ∈ lexemes, l.token ≠ .eof ∧ l.start < l.stop
  begins : ∀ l ∈ lexemes, ∃ c, text[l.start]? = some c ∧ isBlank c = false
  column : ∀ l ∈ lexemes ++ [mark], l.column = l.start + 1
  /-- Each lexeme ends where the next begins, or before. -/
  apart : (lexemes ++ [mark]).Pairwise fun l m => l.stop ≤ m.start
  /-- What lies in no lexeme is blank. -/
  covers : ∀ p c, place ≤ p → text[p]? = some c →
    (∀ l ∈ lexemes, ¬(l.start ≤ p ∧ p < l.stop)) → isBlank c = true
  within : ∀ l ∈ lexemes, ¬ Dangles text l → l.stop ≤ text.length
  beyond : ∀ l ∈ lexemes, Dangles text l →
    lexemes.getLast? = some l ∧ l.stop = text.length + 1
  /-- The end mark stands at the end of the text or of the last lexeme, whichever is later. -/
  ends : mark.token = .eof ∧ mark.stop = mark.start ∧
    mark.start = max text.length ((lexemes.getLast?.map Lexeme.stop).getD place)

namespace Tiles

variable {text rest : List Char} {place : Nat} {lexemes : List Lexeme} {mark : Lexeme} {c : Char}

/-- At the end of the text nothing is left to tile. -/
lemma done (h : text.drop place = []) : Tiles text place [] ⟨.eof, place, place⟩ := by
  have hle : text.length ≤ place := List.drop_eq_nil_iff.mp h
  refine ⟨by simp, by simp, by simp, by simp [Lexeme.column], by simp, ?_, by simp, by simp, ?_⟩
  · intro p c hp hc
    rw [List.getElem?_eq_none (Nat.le_trans hle hp)] at hc
    cases hc
  · simp [hle]

lemma lt_length (h : text.drop place = c :: rest) : place < text.length := by
  have hlength := congrArg List.length h
  rw [List.length_drop, List.length_cons] at hlength
  omega

/-- **A blank in front** is in no lexeme. -/
lemma blank (hdrop : text.drop place = c :: rest) (hblank : isBlank c = true)
    (h : Tiles text (place + 1) lexemes mark) : Tiles text place lexemes mark := by
  refine { h with after := fun l hl => Nat.le_of_succ_le (h.after l hl), covers := ?_, ends := ?_ }
  · intro p d hp hd hout
    rcases Nat.eq_or_lt_of_le hp with rfl | hlt
    · rw [(getElem?_of_drop_eq_cons hdrop).1] at hd
      cases hd
      exact hblank
    · exact h.covers p d hlt hd hout
  · obtain ⟨htoken, hstop, hstart⟩ := h.ends
    refine ⟨htoken, hstop, hstart.trans ?_⟩
    have hlt := lt_length hdrop
    cases lexemes.getLast? with
    | none =>
        simp only [Option.map_none, Option.getD_none]
        omega
    | some last => rfl

/-- Behind the end of the text there is no lexeme. -/
lemma eq_nil_of_length_le (h : Tiles text place lexemes mark) (hle : text.length ≤ place) :
    lexemes = [] := by
  refine List.eq_nil_iff_forall_not_mem.mpr fun l hl => ?_
  obtain ⟨c, hc, -⟩ := h.begins l hl
  rw [List.getElem?_eq_none (Nat.le_trans hle (h.after l hl))] at hc
  cases hc

lemma le_mark (h : Tiles text place lexemes mark) : place ≤ mark.start := by
  obtain ⟨-, -, hstart⟩ := h.ends
  cases hlast : lexemes.getLast? with
  | none =>
      rw [hlast] at hstart
      rw [hstart]
      exact Nat.le_max_right _ _
  | some last =>
      have hmem := List.mem_of_getLast? hlast
      have hafter := h.after last hmem
      have hproper := (h.proper last hmem).2
      rw [hlast, Option.map_some, Option.getD_some] at hstart
      omega

lemma dangles_iff (hdrop : text.drop place = c :: rest) (stop : Nat) :
    Dangles text ⟨(read c rest).token, place, stop⟩ ↔ Dangling (c :: rest) := by
  rw [Dangles, hdrop]
  exact ⟨fun h => h.2, fun h => ⟨(width_read_of_dangling h).1, h⟩⟩

/-- **A token in front** takes the places up to those of the others. -/
lemma token (hdrop : text.drop place = c :: rest) (hc : isBlank c = false)
    (h : Tiles text (place + (read c rest).width) lexemes mark) :
    Tiles text place (⟨(read c rest).token, place, place + (read c rest).width⟩ :: lexemes)
      mark := by
  have hpos := width_read_pos c rest
  have hlength : text.length = place + (rest.length + 1) := by
    have hle := lt_length hdrop
    have hrest := congrArg List.length hdrop
    rw [List.length_drop, List.length_cons] at hrest
    omega
  have hdangles := dangles_iff hdrop (place + (read c rest).width)
  refine ⟨?after, ?proper, ?begins, fun l _ => rfl, ?apart, ?covers, ?within, ?beyond, ?ends⟩
  case after =>
    refine List.forall_mem_cons.mpr ⟨Nat.le_refl _, fun l hl => ?_⟩
    exact Nat.le_trans (Nat.le_add_right _ _) (h.after l hl)
  case proper =>
    refine List.forall_mem_cons.mpr ⟨⟨token_read_ne_eof c rest, ?_⟩, h.proper⟩
    exact Nat.lt_add_of_pos_right hpos
  case begins =>
    have hplace := (getElem?_of_drop_eq_cons hdrop).1
    exact List.forall_mem_cons.mpr ⟨⟨c, hplace, hc⟩, h.begins⟩
  case apart =>
    rw [List.cons_append, List.pairwise_cons, List.forall_mem_append, List.forall_mem_singleton]
    exact ⟨⟨h.after, h.le_mark⟩, h.apart⟩
  case covers =>
    intro p d hp hd hout
    obtain ⟨hfirst, hothers⟩ := List.forall_mem_cons.mp hout
    exact h.covers p d (Nat.le_of_not_lt fun hlt => hfirst ⟨hp, hlt⟩) hd hothers
  case within =>
    refine List.forall_mem_cons.mpr ⟨fun hnot => ?_, h.within⟩
    have hle := width_read_le (mt hdangles.mpr hnot)
    simp only
    omega
  case beyond =>
    refine List.forall_mem_cons.mpr ⟨fun hdangling => ?_, fun l hl hdangling => ?_⟩
    · obtain ⟨-, -, hwidth⟩ := width_read_of_dangling (hdangles.mp hdangling)
      -- nothing of the text is left, so this lexeme is the last
      obtain rfl := h.eq_nil_of_length_le (by omega)
      exact ⟨rfl, by simp only; omega⟩
    · obtain ⟨hlast, hstop⟩ := h.beyond l hl hdangling
      rw [List.getLast?_cons, hlast]
      exact ⟨rfl, hstop⟩
  case ends =>
    obtain ⟨htoken, hstop, hstart⟩ := h.ends
    refine ⟨htoken, hstop, hstart.trans ?_⟩
    rw [List.getLast?_cons]
    cases lexemes.getLast? <;> rfl

end Tiles

/-- What is left of a text is tiled by its tokens. -/
lemma exists_tiles (text : List Char) {place : Nat} {left : List Char}
    (h : text.drop place = left) :
    ∃ lexemes mark, scanFrom place left = lexemes ++ [mark] ∧ Tiles text place lexemes mark := by
  fun_induction scanFrom place left with
  | case1 place => exact ⟨[], _, rfl, .done h⟩
  | case2 place c rest hblank ih =>
      have hrest : text.drop (place + 1) = rest := by rw [← List.tail_drop, h, List.tail_cons]
      obtain ⟨lexemes, mark, hscan, htiles⟩ := ih hrest
      exact ⟨lexemes, mark, hscan, htiles.blank h hblank⟩
  | case3 place c rest hblank reading _ ih =>
      have hread : reading = read c rest := rfl
      rw [hread] at ih ⊢
      have hrest : text.drop (place + (read c rest).width) = (read c rest).rest := by
        rw [← List.drop_drop, h, drop_read]
      obtain ⟨lexemes, mark, hscan, htiles⟩ := ih hrest
      refine ⟨_ :: lexemes, mark, ?_, htiles.token h (by simpa using hblank)⟩
      rw [hscan, List.cons_append]

/-- **Tokens tile the text.**  Every text is cut into tokens and one end mark.  The tokens begin at
characters that are not blank, take at least one place each and follow one another; all that they
leave out is blank.  They end with the text at the latest, except for a last quoted text that is
never closed and ends in a backslash that escapes nothing: it ends one place after the text. -/
theorem scan_tiles (text : List Char) :
    ∃ lexemes mark, scan text = lexemes ++ [mark] ∧ Tiles text 0 lexemes mark :=
  exists_tiles text List.drop_zero

example : scan ['a', ' ', '"', '\\'] =
    [⟨.word "a", 0, 1⟩, ⟨.quoted "", 2, 5⟩, ⟨.eof, 5, 5⟩] := by
  decide +kernel

end NumberedProse.Token
