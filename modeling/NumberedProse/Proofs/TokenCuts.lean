import Mathlib.Data.List.TakeWhile
import Mathlib.Tactic.Common
import NumberedProse.Proofs.Lexing

/-!
# Cutting between two tokens

Two tokens need nothing between them: `if"late"goto 90` has four.  Still a text can be cut in front
of any of its tokens.  What stands before the cut has the tokens before it, what follows has the
others, and no quote is open at the cut (`Token.exists_cut`).

**One token.**  A reader has looked at most two characters beyond its token, and only to see whether
the token goes on.  So it reads the same token when less of what it left is there
(`Token.exists_read_cut`).

**Blanks.**  Trimming a text that leaves no quote open takes no token away (`Token.ofText_trim`).
-/

namespace NumberedProse

namespace Token

open Text

/-! ## One token -/

section

variable {text tail rest : List Char}

lemma dropWhile_of_append {p : Char → Bool} (h : (text ++ tail).dropWhile p = rest ++ tail) :
    text.dropWhile p = rest ∧ text.takeWhile p = (text ++ tail).takeWhile p := by
  induction text with
  | nil =>
      have hlength := List.length_dropWhile_le p tail
      rw [List.nil_append] at h ⊢
      rw [h, List.length_append] at hlength
      obtain rfl : rest = [] := List.length_eq_zero_iff.mp (by omega)
      have hsplit := List.takeWhile_append_dropWhile (p := p) (l := tail)
      rw [h, List.nil_append, List.append_left_eq_self] at hsplit
      simp [hsplit]
  | cons c text ih =>
      rw [List.cons_append, List.dropWhile_cons] at h
      rw [List.cons_append, List.dropWhile_cons, List.takeWhile_cons, List.takeWhile_cons]
      split at h
      · next hc =>
          obtain ⟨hdrop, htake⟩ := ih h
          simp [hc, hdrop, htake]
      · next hc =>
          rw [← List.cons_append, List.append_cancel_right_eq] at h
          simp [hc, h]

lemma readDigits_of_no_point (hrest : text.dropWhile Char.isDigit = rest)
    (hpoint : ∀ c after, rest = '.' :: c :: after → c.isDigit = false) :
    readDigits text = ⟨text.takeWhile Char.isDigit, false, rest⟩ := by
  simp only [readDigits, hrest]
  split
  · next c after =>
      rw [if_neg (by simp [hpoint c after rfl])]
  · rfl

lemma readDigits_of_append (h : (readDigits (text ++ tail)).rest = rest ++ tail) :
    readDigits text = { readDigits (text ++ tail) with rest } := by
  by_cases hpoint : ∃ c after, (text ++ tail).dropWhile Char.isDigit = '.' :: c :: after ∧
      c.isDigit = true
  · obtain ⟨c, after, hdrop, hc⟩ := hpoint
    simp only [readDigits, hdrop, hc, if_true] at h ⊢
    -- the numeral has a point, and its fraction ends in front of the tail
    have hafter : after = (after.takeWhile Char.isDigit ++ rest) ++ tail := by
      rw [List.append_assoc, ← h, List.takeWhile_append_dropWhile]
    generalize after.takeWhile Char.isDigit ++ rest = fraction at hafter
    subst hafter
    rw [← List.cons_append, ← List.cons_append] at hdrop
    obtain ⟨hdrop, htake⟩ := dropWhile_of_append hdrop
    obtain ⟨hrest, hdigits⟩ := dropWhile_of_append h
    simp [hdrop, htake, hc, hrest, hdigits]
  · have hnone : ∀ c after, (text ++ tail).dropWhile Char.isDigit = '.' :: c :: after →
        c.isDigit = false := by
      intro c after hdrop
      simpa using fun hc => hpoint ⟨c, after, hdrop, hc⟩
    rw [readDigits_of_no_point rfl hnone] at h ⊢
    obtain ⟨hdrop, htake⟩ := dropWhile_of_append h
    rw [readDigits_of_no_point hdrop, htake]
    rintro c after rfl
    exact hnone c _ h

lemma readNumber_of_append (h : (readNumber (text ++ tail)).rest = rest ++ tail) :
    readNumber text = { readNumber (text ++ tail) with rest } := by
  simp only [readNumber] at h ⊢
  split at h
  · next hletter =>
      -- the letters after the digits end in front of the tail
      have hafter : (readDigits (text ++ tail)).rest =
          ((readDigits (text ++ tail)).rest.takeWhile isWordChar ++ rest) ++ tail := by
        rw [List.append_assoc, ← h, List.takeWhile_append_dropWhile]
      have hhead : ((readDigits (text ++ tail)).rest.takeWhile isWordChar ++ rest).head? =
          (readDigits (text ++ tail)).rest.head? := by
        cases hrest : (readDigits (text ++ tail)).rest with
        | nil => simp [hrest] at hletter
        | cons c after =>
            have hc : isWordChar c = true := by
              simp only [hrest, List.head?_cons, Option.any_some] at hletter
              rw [isWordChar, hletter, Bool.true_or, Bool.true_or]
            simp [hc]
      have hdigits := readDigits_of_append hafter
      rw [hafter] at h
      obtain ⟨hdrop, htake⟩ := dropWhile_of_append h
      rw [← hafter] at htake
      rw [if_pos hletter, hdigits, if_pos (by rwa [hhead])]
      simp only [hdrop, htake]
  · next hletter =>
      replace h : (readDigits (text ++ tail)).rest = rest ++ tail := h
      have hhead : ¬rest.head?.any isAlphabetic = true := by
        rw [h] at hletter
        cases rest with
        | nil => simp
        | cons c after => exact hletter
      rewrite [if_neg hletter, readDigits_of_append h, if_neg hhead]
      rfl

lemma readWord_of_append (h : (readWord (text ++ tail)).rest = rest ++ tail) :
    readWord text = { readWord (text ++ tail) with rest } := by
  obtain ⟨hdrop, htake⟩ := dropWhile_of_append h
  simp only [readWord, hdrop, htake]

/-- **A quoted text with something after it is closed:** it is read the same whatever comes
after. -/
lemma exists_body (h : (readQuotedBody text).rest ≠ []) :
    ∃ body, body ++ (readQuotedBody text).rest = text ∧
      body.length = (readQuotedBody text).width ∧
      ∀ tail, readQuotedBody (body ++ tail) = { readQuotedBody text with rest := tail } ∧
        quoteOpen true (body ++ tail) = quoteOpen false tail := by
  fun_induction readQuotedBody text with
  | case1 => exact absurd rfl h
  | case2 rest => exact ⟨['"'], rfl, rfl, fun tail => ⟨rfl, rfl⟩⟩
  | case3 => exact absurd rfl h
  | case4 c rest body ih =>
      obtain ⟨taken, hsplit, hlength, hread⟩ := ih h
      refine ⟨'\\' :: c :: taken, by simp [body, hsplit], by simp [body, hlength], fun tail => ?_⟩
      exact ⟨by simp only [List.cons_append, readQuotedBody, (hread tail).1, body], (hread tail).2⟩
  | case5 c rest hquote hlone hslash body ih =>
      have hplain := ne_backslash hlone hslash
      obtain ⟨taken, hsplit, hlength, hread⟩ := ih h
      refine ⟨c :: taken, by simp [body, hsplit], by simp [body, hlength], fun tail => ⟨?_, ?_⟩⟩
      · rw [List.cons_append, readQuotedBody_cons hquote hplain, (hread tail).1]
      · rw [List.cons_append, ← (hread tail).2, quoteOpen, bne_iff_ne.mpr hquote]
        exact fun _ _ h _ => hplain h

/-- The first character alone decides what kind of token is read. -/
lemma read_cases {c : Char} (h : c ≠ '"') :
    (∀ t, read c t = readNumber (c :: t)) ∨ (∀ t, read c t = readWord (c :: t)) ∨
      ∀ t, read c t = ⟨.punct c, 1, t⟩ := by
  have hquote : (c == '"') = false := beq_false_of_ne h
  simp only [read, hquote, Bool.false_eq_true, if_false]
  split
  · exact .inl fun _ => rfl
  · split
    · exact .inr (.inl fun _ => rfl)
    · exact .inr (.inr fun _ => rfl)

/-- **A reader does not need all that it leaves.**  If it leaves `rest` and more, it reads the same
token when the more is cut off. -/
lemma exists_read_cut {c : Char} {after : List Char} (h : (read c after).rest = rest ++ tail)
    (htail : tail ≠ []) :
    ∃ taken, after = taken ++ (rest ++ tail) ∧ taken.length + 1 = (read c after).width ∧
      read c (taken ++ rest) = { read c after with rest } ∧
      quoteOpen false (c :: (taken ++ rest)) = quoteOpen false rest := by
  by_cases hquote : c = '"'
  · subst hquote
    have hread : ∀ t, read '"' t = readQuoted t := fun _ => rfl
    replace h : (readQuotedBody after).rest = rest ++ tail := h
    have hmore : (readQuotedBody after).rest ≠ [] := by simp [h, htail]
    obtain ⟨body, hsplit, hlength, hbody⟩ := exists_body hmore
    refine ⟨body, by rw [← h, hsplit], by rw [hread, readQuoted, hlength], ?_, (hbody rest).2⟩
    rw [hread, hread, readQuoted, readQuoted, (hbody rest).1]
  · obtain ⟨taken, hsplit, hwidth, hnone⟩ := exists_taken hquote after
    rw [h] at hsplit
    cases taken with
    | nil =>
        have hle := read_rest_length_le c after
        rw [h, ← List.nil_append (rest ++ tail), hsplit, List.length_cons] at hle
        omega
    | cons first taken =>
        rw [List.cons_append] at hsplit
        obtain ⟨rfl, rfl⟩ := List.cons.inj hsplit
        refine ⟨taken, rfl, hwidth, ?_, ?_⟩
        · rw [← List.append_assoc] at h hwidth ⊢
          rcases read_cases hquote with hread | hread | hread <;> simp only [hread] at h hwidth ⊢
          · rw [← List.cons_append] at h ⊢
            exact readNumber_of_append h
          · rw [← List.cons_append] at h ⊢
            exact readWord_of_append h
          · obtain rfl : taken = [] := List.length_eq_zero_iff.mp (Nat.succ.inj hwidth)
            rfl
        · exact quoteOpen_append_of_notMem hnone rest

end

/-! ## The whole text -/

/-- **A text can be cut in front of any of its tokens.** -/
theorem exists_cut {place : Nat} {text : List Char} {back : List Lexeme} {l : Lexeme}
    (hl : l.token ≠ .eof) (front : List Lexeme) (h : scanFrom place text = front ++ l :: back) :
    ∃ before c after, text = before ++ c :: after ∧ isBlank c = false ∧
      place + before.length = l.start ∧ quoteOpen false before = false ∧
      scanFrom place before = front ++ [⟨.eof, l.start, l.start⟩] ∧
      scanFrom l.start (c :: after) = l :: back := by
  fun_induction scanFrom place text generalizing front with
  | case1 place =>
      cases front with
      | nil =>
          obtain ⟨rfl, -⟩ := List.cons.inj h
          exact absurd rfl hl
      | cons first front => simp at h
  | case2 place c rest hblank ih =>
      obtain ⟨before, d, after, rfl, hd, hplace, hclosed, hbefore, hafter⟩ := ih front h
      refine ⟨c :: before, d, after, rfl, hd, ?_, ?_, ?_, hafter⟩
      · rw [List.length_cons]
        omega
      · rwa [quoteOpen_cons_of_ne (ne_of_isBlank hblank rfl)]
      · rwa [scanFrom_of_blank hblank]
  | case3 place c rest hblank reading _ ih =>
      have hc : isBlank c = false := by simpa using hblank
      have hread : reading = read c rest := rfl
      rw [hread] at h ih
      cases front with
      | nil =>
          have hscan := scanFrom_of_not_blank hc place rest
          rw [h] at hscan
          obtain ⟨rfl, -⟩ := List.cons.inj h
          exact ⟨[], c, rest, rfl, hc, rfl, rfl, by rw [scanFrom]; rfl, hscan⟩
      | cons first front =>
          obtain ⟨rfl, hrest⟩ := List.cons.inj h
          obtain ⟨before, d, after, hsplit, hd, hplace, hclosed, hbefore, hafter⟩ := ih front hrest
          -- the first token is read as before, up to the place of the cut
          obtain ⟨taken, rfl, hwidth, hcut, hquote⟩ := exists_read_cut hsplit (by simp)
          refine ⟨c :: (taken ++ before), d, after, by simp, hd, ?_, ?_, ?_, hafter⟩
          · rw [List.length_cons, List.length_append]
            omega
          · rw [hquote, hclosed]
          · rw [scanFrom_of_not_blank hc, hcut, hbefore, List.cons_append]

/-! ## Tokens without their places -/

/-- The tokens of a text, without the end mark. -/
def ofText (text : List Char) : List Token :=
  ((scan text).filter fun l => l.token != .eof).map Lexeme.token

lemma ofText_eq (place : Nat) (text : List Char) :
    ofText text = (scanFrom place text).dropLast.map Lexeme.token := by
  rw [ofText, scan, filter_scanFrom, ← Nat.zero_add place, scanFrom_add, ← List.map_dropLast,
    List.map_map]
  rfl

lemma ofText_of_scanFrom {place : Nat} {text : List Char} {front : List Lexeme} {mark : Lexeme}
    (h : scanFrom place text = front ++ [mark]) : ofText text = front.map Lexeme.token := by
  rw [ofText_eq place, h, List.dropLast_concat]

lemma scanFrom_blanks {gap : List Char} (h : ∀ c ∈ gap, isBlank c = true) (place : Nat)
    (text : List Char) : scanFrom place (gap ++ text) = scanFrom (place + gap.length) text := by
  induction gap generalizing place with
  | nil => rfl
  | cons c gap ih =>
      simp only [List.forall_mem_cons] at h
      rw [List.cons_append, scanFrom_of_blank h.1, ih h.2, List.length_cons, Nat.add_right_comm,
        Nat.add_assoc]

lemma quote_notMem_of_blanks {gap : List Char} (h : ∀ c ∈ gap, isBlank c = true) : '"' ∉ gap :=
  fun hmem => ne_of_isBlank (h _ hmem) rfl rfl

lemma quoteOpen_of_notMem {text : List Char} (h : '"' ∉ text) (inside : Bool) :
    quoteOpen inside text = inside := by
  fun_induction quoteOpen inside text with
  | case1 inside => rfl
  | case2 c rest ih =>
      simp only [List.mem_cons, not_or] at h
      rw [ih h.2, beq_false_of_ne (Ne.symm h.1)]
  | case3 c rest ih =>
      simp only [List.mem_cons, not_or] at h
      exact ih h.2.2
  | case4 c rest _ ih =>
      simp only [List.mem_cons, not_or] at h
      rw [ih h.2, bne_iff_ne.mpr (Ne.symm h.1)]

lemma quoteOpen_append_of_notMem_right {gap : List Char} (h : '"' ∉ gap) (inside : Bool)
    (text : List Char) : quoteOpen inside (text ++ gap) = quoteOpen inside text := by
  fun_induction quoteOpen inside text with
  | case1 inside => exact quoteOpen_of_notMem h inside
  | case2 c rest ih => rw [List.cons_append, quoteOpen, ih]
  | case3 c rest ih => rw [List.cons_append, List.cons_append, quoteOpen, ih]
  | case4 c rest hslash ih =>
      by_cases hc : c = '\\'
      · -- a backslash at the end takes the first blank along
        subst hc
        cases rest with
        | cons d rest => exact absurd rfl (hslash d rest rfl)
        | nil =>
            cases gap with
            | nil => rfl
            | cons d gap =>
                exact quoteOpen_of_notMem (fun hmem => h (List.mem_cons_of_mem d hmem)) true
      · rw [List.cons_append, quoteOpen, ih]
        exact fun _ _ hc' _ => hc hc'

end Token

namespace Text

lemma exists_trim (text : List Char) :
    ∃ gap space, text = gap ++ (trim text ++ space) ∧ (∀ c ∈ gap, isBlank c = true) ∧
      ∀ c ∈ space, isBlank c = true := by
  refine ⟨text.takeWhile isBlank, ((trimStart text).reverse.takeWhile isBlank).reverse, ?_, ?_, ?_⟩
  · rw [trim, trimEnd, ← List.reverse_append, List.takeWhile_append_dropWhile, List.reverse_reverse,
      trimStart, List.takeWhile_append_dropWhile]
  · exact fun c hc => List.mem_takeWhile_imp hc
  · exact fun c hc => List.mem_takeWhile_imp (List.mem_reverse.mp hc)

end Text

namespace Token

open Text

/-- **Trimming takes no token away.** -/
lemma ofText_trim {text : List Char} (h : quoteOpen false text = false) :
    ofText (trim text) = ofText text := by
  obtain ⟨gap, space, htext, hgap, hspace⟩ := exists_trim text
  have hclosed : quoteOpen false (trim text) = false := by
    rw [htext, quoteOpen_append_of_notMem (quote_notMem_of_blanks hgap),
      quoteOpen_append_of_notMem_right (quote_notMem_of_blanks hspace)] at h
    exact h
  rw [ofText_eq gap.length (trim text), ofText_eq 0 text]
  conv_rhs => rw [htext, scanFrom_blanks hgap, Nat.zero_add]
  cases space with
  | nil => rw [List.append_nil]
  | cons w space =>
      simp only [List.forall_mem_cons] at hspace
      rw [scanFrom_append_blank hclosed hspace.1, ← List.append_nil space,
        scanFrom_blanks hspace.2, scanFrom, List.dropLast_concat]

end Token

end NumberedProse
