import Mathlib.Tactic.Common
import NumberedProse.Proofs.Tiling
import NumberedProse.Proofs.TokenCuts

/-!
# Texts put together with a blank between them

The tokens of two texts with a blank between them are those of the first and then those of the
second, moved by the length of the first and the blank.  This holds exactly if the first text does
not end inside a quoted text (`Token.scan_across_blank_iff`).

**One way** it is `scanFrom_append_blank`: no reader gets past a blank outside quotes.

**The other way.**  A text that ends inside a quoted text has a quote that is opened and not closed
again (`exists_open_quote`).  Up to that quote its tokens stay as they are, but the quoted text goes
on over the blank, so that what it says is longer (`Unclosed.content_lt`).
-/

namespace NumberedProse.Token

open Text

/-! ## Quotes that stay open -/

/-- **What stands after an opening quote and leaves it open:** enclosed characters, and perhaps a
backslash that escapes nothing. -/
def Unclosed (body : List Char) : Prop :=
  ∃ inside, Enclosed inside ∧ (body = inside ∨ body = inside ++ ['\\'])

namespace Unclosed

variable {body : List Char}

lemma plain {c : Char} (hquote : c ≠ '"') (hslash : c ≠ '\\') (h : Unclosed body) :
    Unclosed (c :: body) := by
  obtain ⟨inside, henclosed, rfl | rfl⟩ := h
  · exact ⟨_, .plain hquote hslash henclosed, .inl rfl⟩
  · exact ⟨_, .plain hquote hslash henclosed, .inr rfl⟩

lemma escaped (c : Char) (h : Unclosed body) : Unclosed ('\\' :: c :: body) := by
  obtain ⟨inside, henclosed, rfl | rfl⟩ := h
  · exact ⟨_, .escaped c henclosed, .inl rfl⟩
  · exact ⟨_, .escaped c henclosed, .inr rfl⟩

lemma rest_eq_nil (h : Unclosed body) : (readQuotedBody body).rest = [] := by
  obtain ⟨inside, henclosed, rfl | rfl⟩ := h
  · have hread := henclosed.readQuotedBody_append []
    rw [List.append_nil] at hread
    rw [hread]
    rfl
  · rw [henclosed.readQuotedBody_append]
    rfl

/-- **An open quoted text goes on over a blank,** whether or not a backslash stands before it. -/
lemma content_lt {w : Char} (h : Unclosed body) (hw : isBlank w = true) (tail : List Char) :
    (readQuotedBody body).content.length < (readQuotedBody (body ++ w :: tail)).content.length := by
  obtain ⟨inside, henclosed, rfl | rfl⟩ := h
  · rw [henclosed.readQuotedBody_append,
      readQuotedBody_cons (ne_of_isBlank hw rfl) (ne_of_isBlank hw rfl)]
    simp
  · rw [List.append_assoc, henclosed.readQuotedBody_append, henclosed.readQuotedBody_append]
    simp [readQuotedBody]

/-- A quoted text that is left open is the last token. -/
lemma scanFrom_eq (h : Unclosed body) (place : Nat) :
    ∃ stop, scanFrom place ('"' :: body) =
      [⟨.quoted (String.ofList (readQuotedBody body).content), place, stop⟩,
        ⟨.eof, stop, stop⟩] := by
  have hrest : (read '"' body).rest = [] := h.rest_eq_nil
  refine ⟨place + (read '"' body).width, ?_⟩
  rw [scanFrom_of_not_blank (by decide), hrest, scanFrom]
  rfl

end Unclosed

/-- **A text that ends inside a quoted text** has an opening quote that is never closed. -/
lemma exists_open_quote {inside : Bool} {text : List Char} (h : quoteOpen inside text = true) :
    (inside = true ∧ Unclosed text) ∨
      ∃ before body, text = before ++ '"' :: body ∧ quoteOpen inside before = false ∧
        Unclosed body := by
  fun_induction quoteOpen inside text with
  | case1 inside => exact .inl ⟨h, [], .nil, .inl rfl⟩
  | case2 c rest ih =>
      right
      rcases ih h with ⟨hquote, hunclosed⟩ | ⟨before, body, rfl, hbefore, hunclosed⟩
      · obtain rfl := eq_of_beq hquote
        exact ⟨[], rest, rfl, rfl, hunclosed⟩
      · exact ⟨c :: before, body, rfl, hbefore, hunclosed⟩
  | case3 c rest ih =>
      rcases ih h with ⟨-, hunclosed⟩ | ⟨before, body, rfl, hbefore, hunclosed⟩
      · exact .inl ⟨rfl, hunclosed.escaped c⟩
      · exact .inr ⟨'\\' :: c :: before, body, rfl, hbefore, hunclosed⟩
  | case4 c rest hslash ih =>
      cases rest with
      | nil =>
          -- a single character that is no quote leaves the quote open, a backslash too
          have hquote : c ≠ '"' := bne_iff_ne.mp h
          by_cases hc : c = '\\'
          · exact .inl ⟨rfl, [], .nil, .inr (by rw [hc]; rfl)⟩
          · exact .inl ⟨rfl, [c], .plain hquote hc .nil, .inl rfl⟩
      | cons d rest =>
          have hc : c ≠ '\\' := fun hc => hslash d rest hc rfl
          rcases ih h with ⟨hquote, hunclosed⟩ | ⟨before, body, hsplit, hbefore, hunclosed⟩
          · exact .inl ⟨rfl, hunclosed.plain (bne_iff_ne.mp hquote) hc⟩
          · refine .inr ⟨c :: before, body, by rw [hsplit]; rfl, ?_, hunclosed⟩
            rw [quoteOpen, hbefore]
            exact fun _ _ hc' _ => hc hc'

/-! ## Across a blank -/

lemma scan_append_ne_of_quoteOpen {a b : List Char} {w : Char} (hw : isBlank w = true)
    (hopen : quoteOpen false a = true) {tokens others : List Lexeme} {mark : Lexeme}
    (ha : scan a = tokens ++ [mark]) : scan (a ++ w :: b) ≠ tokens ++ others := by
  obtain ⟨hfalse, -⟩ | ⟨before, body, rfl, hbefore, hunclosed⟩ := exists_open_quote hopen
  · cases hfalse
  obtain ⟨stop, hlast⟩ := hunclosed.scanFrom_eq (0 + before.length)
  intro hscan
  -- both texts have the same tokens before the quote, and then a quoted text each
  rw [scan, scanFrom_append_separator hbefore separates_quote, hlast, ← List.concat_append] at ha
  obtain ⟨rfl, -⟩ := List.append_inj' ha rfl
  rw [scan, List.append_assoc, List.cons_append,
    scanFrom_append_separator hbefore separates_quote, scanFrom_of_not_blank (by decide),
    List.concat_append, List.append_cancel_left_eq] at hscan
  have htoken := congrArg Lexeme.token (List.cons.inj hscan).1
  have hcontent := String.ofList_injective (Token.quoted.inj htoken)
  have hlength := hunclosed.content_lt hw b
  rw [← hcontent] at hlength
  exact Nat.lt_irrefl _ hlength

/-- **Tokens on both sides of a blank** are those of the two texts, the second text's moved in place
and column by what stands before it, exactly if the first text does not end inside a quoted text. -/
theorem scan_across_blank_iff (a b : List Char) {w : Char} (hw : isBlank w = true) :
    (quoteOpen false a = false ↔
      ∃ tokens mark, scan a = tokens ++ [mark] ∧ mark.token = .eof ∧
        scan (a ++ w :: b) = tokens ++ (scan b).map (Lexeme.shift (a.length + 1))) ∧
    ∀ l ∈ scan b, (l.shift (a.length + 1)).column = l.column + (a.length + 1) := by
  refine ⟨⟨fun hclosed => ?_, ?_⟩, fun l _ => Nat.add_right_comm _ _ _⟩
  · obtain ⟨tokens, mark, ha, htiles⟩ := exists_tiles a List.drop_zero
    refine ⟨tokens, mark, ha, htiles.ends.1, ?_⟩
    rw [scan, scanFrom_append_blank hclosed hw, ha, List.dropLast_concat, Nat.add_assoc,
      scanFrom_add, ← scan]
  · rintro ⟨tokens, mark, ha, -, hscan⟩
    rw [← Bool.not_eq_true]
    intro hopen
    exact scan_append_ne_of_quoteOpen hw hopen ha hscan

/-- A closed quoted text in front of a blank; if the quote is left open, the tokens are others. -/
theorem scan_across_blank_iff_spoken :
    isBlank '\t' = true ∧ quoteOpen false "say \"hi\"".toList = false ∧
      (∃ tokens mark, scan "say \"hi\"".toList = tokens ++ [mark] ∧ mark.token = .eof ∧
        scan ("say \"hi\"".toList ++ '\t' :: "goto 40".toList) =
          tokens ++ (scan "goto 40".toList).map (Lexeme.shift 9)) ∧
      ¬ ∃ tokens mark, scan "say \"hi".toList = tokens ++ [mark] ∧ mark.token = .eof ∧
        scan ("say \"hi".toList ++ '\t' :: "goto 40".toList) =
          tokens ++ (scan "goto 40".toList).map (Lexeme.shift 8) := by
  have hblank : isBlank '\t' = true := by decide
  have hclosed : quoteOpen false "say \"hi\"".toList = false := by decide
  refine ⟨hblank, hclosed, ?_, ?_⟩
  · exact (scan_across_blank_iff "say \"hi\"".toList "goto 40".toList hblank).1.mp hclosed
  · intro hscan
    have hopen : quoteOpen false "say \"hi".toList = false :=
      (scan_across_blank_iff "say \"hi".toList "goto 40".toList hblank).1.mpr hscan
    exact absurd hopen (by decide)

end NumberedProse.Token
