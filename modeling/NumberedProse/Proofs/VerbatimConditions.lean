import Mathlib.Tactic.Common
import NumberedProse.Proofs.Conditions
import NumberedProse.Proofs.LocalCues
import NumberedProse.Proofs.Rendering
import NumberedProse.Proofs.TokenCuts

/-!
# Conditions are kept as they were written

The condition of a branch is a piece of the line, taken out by the places of tokens.  A `Clause`
cuts the line around it: what comes before the `if`, the `if` itself, blanks, the condition, blanks,
and what follows.  `Clause.Spells` says when the pieces make up a branch, and
`LineControl.branch_verbatim` finds them in every line that branches.

**Places.**  The three places that the search works with lie in the line and in this order: that of
the `if`, that of the first token after the condition, and that of the jump.

**Pieces.**  The line is cut in front of the `if` and in front of the first token after the
condition (`Token.exists_pieces`), so that each piece has its tokens to itself.
-/

namespace NumberedProse

/-! ## Clauses -/

/-- **A line in pieces,** around a condition. -/
structure Clause where
  /-- What comes before the `if`. -/
  lead : List Char
  /-- The `if` as it is written. -/
  word : List Char
  gap : List Char
  condition : List Char
  space : List Char
  /-- What follows the condition. -/
  tail : List Char

namespace Clause

/-- The text up to the end of the `if`. -/
def opened (clause : Clause) : List Char := clause.lead ++ clause.word

/-- The text up to the first token after the condition. -/
def closed (clause : Clause) : List Char :=
  clause.opened ++ (clause.gap ++ (clause.condition ++ clause.space))

/-- The whole line. -/
def text (clause : Clause) : List Char := clause.closed ++ clause.tail

/-- The tokens that link a condition to a jump. -/
def links : List Token := [.keyword .then_, .punct ',', .punct ':']

/-- **The pieces make up a branch to line `n`.** -/
structure Spells (clause : Clause) (n : Nat) : Prop where
  word_if : Text.lowercase clause.word = "if".toList
  gap_blank : ∀ c ∈ clause.gap, Text.isBlank c = true
  space_blank : ∀ c ∈ clause.space, Text.isBlank c = true
  first : ∀ c ∈ clause.condition.head?, Text.isBlank c = false
  last : ∀ c ∈ clause.condition.getLast?, Text.isBlank c = false
  /-- Each piece has its tokens to itself. -/
  tokens : Token.ofText clause.text =
    Token.ofText clause.lead ++ .keyword .if_ ::
      (Token.ofText clause.condition ++ Token.ofText clause.tail)
  no_if : .keyword .if_ ∉ Token.ofText clause.condition
  no_mark : ∀ mark ∈ ['.', ';', '!', '?'], .punct mark ∉ Token.ofText clause.condition
  no_link : ∀ token ∈ (Token.ofText clause.condition).getLast?, token ∉ links
  /-- Links and a jump phrase follow. -/
  jump : ∃ between words rest, (∀ token ∈ between, token ∈ links) ∧ words ∈ Cue.jumpWords ∧
    Token.ofText clause.tail = between ++ (Cue.phrase words n ++ rest)

/-- **The places of a branch among the tokens of its line:** `i` of the `if`, `e` of the first token
after the condition, and `k` of the jump. -/
structure Placed (clause : Clause) (lexemes : List Lexeme) (i e k : Nat) : Prop where
  opening_lt : i < e
  next_le : e ≤ k
  jump_lt : k < lexemes.length
  opening : lexemes[i]? = some ⟨.keyword .if_, clause.lead.length, clause.opened.length⟩
  next : ∃ l, lexemes[e]? = some l ∧ l.start = clause.closed.length

end Clause

/-! ## Pieces of a line -/

namespace Token

open Text

lemma word_eq_of_ofWord {text : String} {k : Keyword} (h : ofWord text = .keyword k) :
    k.word = text := by
  unfold ofWord at h
  split at h
  · next found hfound =>
      cases h
      rw [Keyword.ofWord?] at hfound
      have hword := List.find?_some hfound
      simpa using hword
  · cases h

lemma token_readNumber_ne_keyword (text : List Char) (k : Keyword) :
    (readNumber text).token ≠ .keyword k := by
  simp only [readNumber]
  split
  · simp
  · simp only [ofNumeral]
    split <;> simp

/-- **A keyword is a word of the text,** in any case. -/
lemma exists_word {c : Char} {after : List Char} {k : Keyword}
    (h : (read c after).token = .keyword k) :
    ∃ word, word ++ (read c after).rest = c :: after ∧ word.length = (read c after).width ∧
      lowercase word = k.word.toList := by
  by_cases hquote : c = '"'
  · subst hquote
    cases h
  · rcases read_cases hquote with hread | hread | hread <;> rw [hread] at h ⊢
    · exact absurd h (token_readNumber_ne_keyword _ k)
    · refine ⟨_, List.takeWhile_append_dropWhile, rfl, ?_⟩
      rw [word_eq_of_ofWord h, String.toList_ofList]
    · cases h

/-- **The line in pieces** around an `if` and a later token. -/
lemma exists_pieces {text : List Char} {before inner back : List Lexeme} {opening next : Lexeme}
    (h : scan text = before ++ opening :: (inner ++ next :: back))
    (hopening : opening.token = .keyword .if_) (hnext : next.token ≠ .eof) :
    ∃ lead word between tail, text = lead ++ (word ++ (between ++ tail)) ∧
      lowercase word = "if".toList ∧ opening.start = lead.length ∧
      opening.stop = lead.length + word.length ∧ next.start = opening.stop + between.length ∧
      quoteOpen false between = false ∧ ofText lead = before.map Lexeme.token ∧
      ofText between = inner.map Lexeme.token ∧ scanFrom next.start tail = next :: back := by
  obtain ⟨lead, c, after, rfl, hc, hstart, -, hlead, hfirst⟩ :=
    exists_cut (by simp [hopening]) before h
  rw [scanFrom_of_not_blank hc] at hfirst
  obtain ⟨hread, hrest⟩ := List.cons.inj hfirst
  rw [← hread] at hopening
  obtain ⟨word, hword, hwidth, hcase⟩ := exists_word hopening
  have hstop : opening.start + (read c after).width = opening.stop := by rw [← hread]
  rw [hstop] at hrest
  obtain ⟨between, d, tail, hsplit, -, hplace, hclosed, hbetween, hnext⟩ :=
    exists_cut hnext inner hrest
  refine ⟨lead, word, between, d :: tail, ?_, hcase, by omega, by omega, by omega, hclosed,
    ofText_of_scanFrom hlead, ofText_of_scanFrom hbetween, hnext⟩
  rw [← hsplit, hword]

end Token

namespace Line

lemma exists_scan_eq (line : Line) :
    ∃ mark, Token.scan line.text.toList = line.lexemes ++ [mark] := by
  rw [lexemes, Token.scan, Token.filter_scanFrom]
  exact ⟨_, (List.dropLast_append_getLast (Token.scanFrom_ne_nil _ _)).symm⟩

lemma token_ne_eof {line : Line} {l : Lexeme} (h : l ∈ line.lexemes) : l.token ≠ .eof := by
  simpa using (List.mem_filter.mp h).2

end Line

namespace Clause

/-- **The pieces agree with the tokens of the line:** those before the `if`, the `if`, those of the
condition, and those that follow. -/
structure Cuts (clause : Clause) (before : List Lexeme) (opening : Lexeme)
    (inner : List Lexeme) (next : Lexeme) (back : List Lexeme) : Prop where
  word_if : Text.lowercase clause.word = "if".toList
  gap_blank : ∀ c ∈ clause.gap, Text.isBlank c = true
  space_blank : ∀ c ∈ clause.space, Text.isBlank c = true
  trimmed : Text.trim clause.condition = clause.condition
  opening_eq : opening = ⟨.keyword .if_, clause.lead.length, clause.opened.length⟩
  next_start : next.start = clause.closed.length
  lead_tokens : Token.ofText clause.lead = before.map Lexeme.token
  condition_tokens : Token.ofText clause.condition = inner.map Lexeme.token
  tail_tokens : Token.ofText clause.tail = (next :: back).map Lexeme.token

/-- **Every line can be cut around an `if` and a later token.** -/
lemma exists_cuts {line : Line} {before inner back : List Lexeme} {opening next : Lexeme}
    (h : line.lexemes = before ++ opening :: (inner ++ next :: back))
    (hopening : opening.token = .keyword .if_) :
    ∃ clause : Clause, clause.text = line.text.toList ∧
      clause.condition = Token.slice line.text.toList opening.stop next.start ∧
      clause.Cuts before opening inner next back := by
  obtain ⟨mark, hscan⟩ := line.exists_scan_eq
  have hnext : next.token ≠ .eof := Line.token_ne_eof (by simp [h] : next ∈ line.lexemes)
  rw [h, List.append_assoc, List.cons_append, List.append_assoc, List.cons_append] at hscan
  obtain ⟨lead, word, between, tail, htext, hword, hstart, hstop, hplace, hclosed, hlead, hinner,
    htail⟩ := Token.exists_pieces hscan hopening hnext
  obtain ⟨gap, space, hbetween, hgap, hspace⟩ := Text.exists_trim between
  have hslice : Token.slice line.text.toList opening.stop next.start = Text.trim between := by
    have hsplit : line.text.toList = (lead ++ word) ++ between ++ tail := by simp [htext]
    have htake : line.text.toList.take next.start = (lead ++ word) ++ between := by
      rw [hsplit]
      exact List.take_left' (by simp; omega)
    rw [Token.slice, htake, List.drop_left' (by simp [hstop])]
  refine ⟨⟨lead, word, gap, Text.trim between, space, tail⟩, ?_, hslice.symm, hword, hgap, hspace,
    Text.trim_trim between, ?_, ?_, hlead, ?_, ?_⟩
  · simp only [text, closed, opened]
    rw [← hbetween, htext]
    simp
  · have hfields : opening = ⟨opening.token, opening.start, opening.stop⟩ := rfl
    rw [hfields, hopening, hstart, hstop, opened, List.length_append]
  · simp only [closed, opened]
    rw [← hbetween, hplace, hstop, List.length_append, List.length_append]
  · rw [Token.ofText_trim hclosed, hinner]
  · exact Token.ofText_of_scanFrom htail

end Clause

namespace LineControl

lemma exists_jump_of_branch {line : Line} {c : LineControl} {target : LineNumber}
    {predicate : String} (h : ofLine line = .ok c)
    (hbranch : c.control = .branch target predicate) :
    ∃ place found, line.cues = [.jump target.toNat place] ∧
      predicate? line.text.toList line.lexemes place = some found ∧
      predicate = String.ofList found := by
  rw [ofLine_eq] at h
  split at h
  · cases h
    cases hbranch
  · next cue hcue =>
      cases cue with
      | handler n =>
          obtain ⟨t, -, rfl⟩ := eq_of_lineTarget h
          cases hbranch
      | call n =>
          obtain ⟨t, -, rfl⟩ := eq_of_lineTarget h
          cases hbranch
      | ret =>
          cases h
          cases hbranch
      | jump n place =>
          simp only [ofCue] at h
          split at h
          · next found hfound =>
              obtain ⟨t, htarget, rfl⟩ := eq_of_lineTarget h
              obtain ⟨rfl, rfl⟩ := Control.branch.inj hbranch
              rw [lineTarget] at htarget
              split at htarget
              · next hlt =>
                  cases htarget
                  exact ⟨place, found, by rw [hcue, UInt32.toNat_ofNat_of_lt' hlt], hfound, rfl⟩
              · cases htarget
          · obtain ⟨t, -, rfl⟩ := eq_of_lineTarget h
            cases hbranch
  · cases h

lemma isLink_iff {token : Token} : isLink token = true ↔ token ∈ Clause.links := by
  cases token with
  | keyword k => cases k <;> simp [isLink, Clause.links]
  | _ => simp [isLink, Clause.links]

lemma exists_phrase {line : Line} {n k : Nat} (h : line.cues = [.jump n k]) :
    ∃ words ∈ Cue.jumpWords, Cue.phrase words n <+: (line.lexemes.drop k).map Lexeme.token := by
  have hmem : Cue.jump n k ∈ Cue.scan (line.lexemes.map Lexeme.token) := by
    rw [← Line.cues, h]
    exact List.mem_singleton_self _
  obtain ⟨i, hstands⟩ := Cue.mem_scan_iff.mp hmem
  rw [List.map_drop]
  cases hstands with
  | jump hjump _ => exact hjump

section

variable {clause : Clause} {before inner links back after : List Lexeme}
  {opening next jump : Lexeme}

/-- An `if` that opens a condition, links and a jump phrase make up a branch. -/
lemma Opens.spells (h : Opens opening inner links)
    (hcuts : clause.Cuts before opening inner next back)
    (hback : next :: back = links ++ jump :: after)
    (htokens : Token.ofText clause.text =
      (before ++ opening :: (inner ++ next :: back)).map Lexeme.token)
    {words : List Keyword} (hwords : words ∈ Cue.jumpWords) {n : Nat}
    (hphrase : Cue.phrase words n <+: (jump :: after).map Lexeme.token) : clause.Spells n where
  word_if := hcuts.word_if
  gap_blank := hcuts.gap_blank
  space_blank := hcuts.space_blank
  first := (Text.trim_eq_self_iff.mp hcuts.trimmed).1
  last := (Text.trim_eq_self_iff.mp hcuts.trimmed).2
  tokens := by
    rw [htokens, hcuts.lead_tokens, hcuts.condition_tokens, hcuts.tail_tokens, hcuts.opening_eq,
      List.map_append, List.map_cons, List.map_append]
  no_if := by
    rw [hcuts.condition_tokens]
    intro hmem
    obtain ⟨l, hl, htoken⟩ := List.mem_map.mp hmem
    have hnot := h.no_if l hl
    rw [htoken] at hnot
    cases hnot
  no_mark := by
    intro mark hmark hmem
    rw [hcuts.condition_tokens] at hmem
    obtain ⟨l, hl, htoken⟩ := List.mem_map.mp hmem
    have hnot := h.no_mark l hl
    rw [htoken] at hnot
    simp only [List.mem_cons, List.not_mem_nil, or_false] at hmark
    rcases hmark with rfl | rfl | rfl | rfl <;> cases hnot
  no_link := by
    intro token htoken hlink
    rw [hcuts.condition_tokens, List.getLast?_map] at htoken
    obtain ⟨l, hl, rfl⟩ := Option.map_eq_some_iff.mp htoken
    have hnot := h.last l hl
    rw [isLink_iff.mpr hlink] at hnot
    cases hnot
  jump := by
    obtain ⟨rest, hrest⟩ := hphrase
    refine ⟨links.map Lexeme.token, words, rest, ?_, hwords, ?_⟩
    · intro token htoken
      obtain ⟨l, hl, rfl⟩ := List.mem_map.mp htoken
      exact isLink_iff.mp (h.is_link l hl)
    · rw [hcuts.tail_tokens, hback, List.map_append, hrest]

lemma placed_of_cuts {lexemes : List Lexeme} (hcuts : clause.Cuts before opening inner next back)
    (hback : next :: back = links ++ jump :: after)
    (hlexemes : lexemes = before ++ opening :: (inner ++ next :: back)) :
    clause.Placed lexemes before.length (before.length + 1 + inner.length)
      (before ++ (opening :: inner ++ links)).length where
  opening_lt := by omega
  next_le := by
    simp only [List.length_append, List.length_cons]
    omega
  jump_lt := by
    rw [hlexemes, hback]
    simp only [List.length_append, List.length_cons]
    omega
  opening := by
    rw [hlexemes, List.getElem?_append_right (Nat.le_refl _), Nat.sub_self, ← hcuts.opening_eq]
    rfl
  next := by
    refine ⟨next, ?_, hcuts.next_start⟩
    have hsplit : lexemes = (before ++ opening :: inner) ++ next :: back := by simp [hlexemes]
    have hlength : before.length + 1 + inner.length = (before ++ opening :: inner).length := by
      simp only [List.length_append, List.length_cons]
      omega
    rw [hsplit, hlength, List.getElem?_append_right (Nat.le_refl _), Nat.sub_self]
    rfl

end

/-- **The condition of a branch is what was written.**  The line has it between an `if` and a jump
to the target, with nothing but blanks and links around it, and the search for it stays within the
tokens of the line. -/
theorem branch_verbatim {line : Line} {c : LineControl} {target : LineNumber} {predicate : String}
    (h : ofLine line = .ok c) (hbranch : c.control = .branch target predicate) :
    ∃ (clause : Clause) (i e k : Nat),
      clause.text = line.text.toList ∧ clause.condition = predicate.toList ∧
        clause.Spells target.toNat ∧ line.cues = [.jump target.toNat k] ∧
        clause.Placed line.lexemes i e k := by
  obtain ⟨k, found, hcues, hfound, rfl⟩ := exists_jump_of_branch h hbranch
  obtain ⟨before, opening, inner, links, jump, after, hlexemes, rfl, hopens, rfl⟩ :=
    exists_opens hfound
  -- the first token after the condition is a link or the jump itself
  obtain ⟨next, back, hback, hnext⟩ : ∃ next back, next :: back = links ++ jump :: after ∧
      links.head?.getD jump = next := by
    cases links with
    | nil => exact ⟨jump, after, rfl, rfl⟩
    | cons link links => exact ⟨link, links ++ jump :: after, rfl, rfl⟩
  have hline : line.lexemes = before ++ opening :: (inner ++ next :: back) := by
    rw [hlexemes, hback]
    simp
  obtain ⟨clause, htext, hcondition, hcuts⟩ :=
    Clause.exists_cuts hline (beq_iff_eq.mp hopens.is_if)
  obtain ⟨words, hwords, hphrase⟩ := exists_phrase hcues
  rw [hlexemes, List.drop_left] at hphrase
  have htokens : Token.ofText clause.text =
      (before ++ opening :: (inner ++ next :: back)).map Lexeme.token := by
    rw [htext, ← hline]
    rfl
  refine ⟨clause, _, _, _, htext, ?_, hopens.spells hcuts hback htokens hwords hphrase, hcues,
    placed_of_cuts hcuts hback hline⟩
  rw [hcondition, hnext, String.toList_ofList]

/-- A line with another sentence in front, an escaped quote in its condition, and three links. -/
def escapedLine : Line := ⟨10, none, "Été. IF \"a\\\"if.\" é , then: Jump to line 0090!"⟩

/-- The condition is kept as it was written, without the links after it. -/
theorem branch_verbatim_escapedLine :
    ofLine escapedLine = .ok ⟨10, .branch 90 "\"a\\\"if.\" é", none⟩ ∧
      ∃ (clause : Clause) (i e k : Nat),
        clause.text = escapedLine.text.toList ∧
          clause.condition = "\"a\\\"if.\" é".toList ∧
          clause.Spells 90 ∧ escapedLine.cues = [.jump 90 k] ∧
          clause.Placed escapedLine.lexemes i e k := by
  have hline : ofLine escapedLine = .ok ⟨10, .branch 90 "\"a\\\"if.\" é", none⟩ := by
    decide +kernel
  exact ⟨hline, branch_verbatim hline rfl⟩

end LineControl

end NumberedProse
