import Mathlib.Tactic.Common
import NumberedProse.Proofs.Lexing
import NumberedProse.Proofs.Verdicts

/-!
# Which conditions make a jump conditional

`if c goto n` and `if c then goto n` spell a branch on `c`.  Going back from the jump, the search
for the `if` stops at the first mark that can end a sentence, and it takes every such mark for the
end of one: a full stop inside a dotted name and an exclamation mark that begins an operator stop it
as well.

**The clause.**  `LineControl.Opens` says how an `if`, its condition and links stand before a jump.
The search finds a condition exactly if they stand so (`LineControl.predicate?_of_opens`,
`LineControl.exists_opens`), and `LineControl.predicate?_of_opening` says what it finds when an `if`
is the first of the tokens before a jump.

**The line.**  The tokens of the condition stand in the line as they stand on their own, between
those of the words around it (`Token.scan_if`).  So `LineControl.conditional_jump_by_marks` gives
the control of both forms for every condition: a branch on exactly `c` if no token of `c` is such a
mark, and else a jump that is taken always.
-/

namespace NumberedProse

namespace LineControl

/-! ## The clause before a jump -/

lemma isLink_cases {token : Token} (h : isLink token = true) :
    isIf token = false ∧ endsClause token = false := by
  cases token with
  | keyword k => cases k <;> simp_all [isLink, isIf, endsClause]
  | punct mark =>
      simp only [isLink, Bool.or_eq_true, beq_iff_eq] at h
      rcases h with rfl | rfl <;> exact ⟨rfl, rfl⟩
  | _ => cases h

lemma endsClause_of_isIf {token : Token} (h : isIf token = true) : endsClause token = false := by
  rw [isIf, beq_iff_eq] at h
  rw [h]
  rfl

lemma takeWhile_append_of_exists {p : Lexeme → Bool} {front : List Lexeme}
    (h : ∃ l ∈ front, p l = false) (back : List Lexeme) :
    (front ++ back).takeWhile p = front.takeWhile p := by
  obtain ⟨l, hl, hp⟩ := h
  rw [List.takeWhile_append, if_neg]
  intro hlength
  have hself := (List.takeWhile_prefix _).eq_of_length hlength
  rw [List.takeWhile_eq_self_iff] at hself
  rw [hself l hl] at hp
  cases hp

/-- The tokens of the clause that ends at a place, the last one first. -/
def clauseBefore (before : List Lexeme) : List Lexeme :=
  before.reverse.takeWhile fun l => !endsClause l.token

lemma predicate?_append (text : List Char) (before after : List Lexeme) (jump : Lexeme) :
    predicate? text (before ++ jump :: after) before.length =
      match (clauseBefore before).dropWhile fun l => !isIf l.token with
      | [] => none
      | opening :: _ =>
          some (Token.slice text opening.stop
            ((((clauseBefore before).takeWhile fun l => !isIf l.token).takeWhile
              fun l => isLink l.token).getLast?.getD jump).start) := by
  simp only [predicate?, List.drop_left, List.take_left]
  rfl

section

variable {opening : Lexeme} {inner links : List Lexeme}

lemma isIf_clauseBefore_of_mark (opening : Lexeme) (hinner : ∀ l ∈ inner, isIf l.token = false)
    (hlinks : ∀ l ∈ links, isLink l.token = true)
    (hmark : ∃ l ∈ inner, endsClause l.token = true) :
    ∀ l ∈ clauseBefore (opening :: inner ++ links), isIf l.token = false := by
  obtain ⟨mark, hmem, hends⟩ := hmark
  have hstops : ∃ l ∈ links.reverse ++ inner.reverse, (!endsClause l.token) = false :=
    ⟨mark, by simp [hmem], by simp [hends]⟩
  have hreverse : (opening :: inner ++ links).reverse =
      (links.reverse ++ inner.reverse) ++ [opening] := by
    simp
  intro l hl
  rw [clauseBefore, hreverse, takeWhile_append_of_exists hstops] at hl
  have hl := (List.takeWhile_sublist _).subset hl
  simp only [List.mem_append, List.mem_reverse] at hl
  rcases hl with hl | hl
  · exact (isLink_cases (hlinks l hl)).1
  · exact hinner l hl

/-- **An `if` that opens a condition:** the tokens of the condition, none of which is an `if` or can
end the clause and the last of which is not a link, and links after them. -/
structure Opens (opening : Lexeme) (inner links : List Lexeme) : Prop where
  is_if : isIf opening.token = true
  no_if : ∀ l ∈ inner, isIf l.token = false
  no_mark : ∀ l ∈ inner, endsClause l.token = false
  last : ∀ l ∈ inner.getLast?, isLink l.token = false
  is_link : ∀ l ∈ links, isLink l.token = true

lemma Opens.clauseBefore_append (h : Opens opening inner links) (before : List Lexeme) :
    clauseBefore (before ++ (opening :: inner ++ links)) =
      links.reverse ++ (inner.reverse ++ opening :: clauseBefore before) := by
  have hlinks : ∀ l ∈ links.reverse, (!endsClause l.token) = true := by
    intro l hl
    simp [(isLink_cases (h.is_link l (List.mem_reverse.mp hl))).2]
  have hinner : ∀ l ∈ inner.reverse, (!endsClause l.token) = true := by
    intro l hl
    simp [h.no_mark l (List.mem_reverse.mp hl)]
  have hreverse : (before ++ (opening :: inner ++ links)).reverse =
      links.reverse ++ (inner.reverse ++ opening :: before.reverse) := by
    simp
  rw [clauseBefore, hreverse, List.takeWhile_append_of_pos hlinks,
    List.takeWhile_append_of_pos hinner,
    List.takeWhile_cons_of_pos (by simp [endsClause_of_isIf h.is_if])]
  rfl

/-- **The condition that an `if` opens** is what stands between it and the links. -/
theorem predicate?_of_opens (text : List Char) (h : Opens opening inner links)
    (before after : List Lexeme) (jump : Lexeme) :
    predicate? text (before ++ (opening :: inner ++ links) ++ jump :: after)
        (before ++ (opening :: inner ++ links)).length =
      some (Token.slice text opening.stop (links.head?.getD jump).start) := by
  have hlinksIf : ∀ l ∈ links.reverse, (!isIf l.token) = true := by
    intro l hl
    simp [(isLink_cases (h.is_link l (List.mem_reverse.mp hl))).1]
  have hinnerIf : ∀ l ∈ inner.reverse, (!isIf l.token) = true := by
    intro l hl
    simp [h.no_if l (List.mem_reverse.mp hl)]
  have hlinksAll : ∀ l ∈ links.reverse, isLink l.token = true :=
    fun l hl => h.is_link l (List.mem_reverse.mp hl)
  have hnoLink : inner.reverse.takeWhile (fun l => isLink l.token) = [] := by
    cases hlist : inner.reverse with
    | nil => rfl
    | cons last rest =>
        have hmem : last ∈ inner.getLast? := by simp [← List.head?_reverse, hlist]
        simp [h.last last hmem]
  rw [predicate?_append, h.clauseBefore_append, List.dropWhile_append_of_pos hlinksIf,
    List.dropWhile_append_of_pos hinnerIf, List.takeWhile_append_of_pos hlinksIf,
    List.takeWhile_append_of_pos hinnerIf, List.dropWhile_cons_of_neg (by simp [h.is_if]),
    List.takeWhile_cons_of_neg (by simp [h.is_if]), List.append_nil]
  simp only
  rw [List.takeWhile_append_of_pos hlinksAll, hnoLink, List.append_nil, List.getLast?_reverse]

lemma of_head?_dropWhile {p : Lexeme → Bool} {lexemes : List Lexeme} {l : Lexeme}
    (h : l ∈ (lexemes.dropWhile p).head?) : p l = false := by
  have hnot := List.head?_dropWhile_not p lexemes
  rw [Option.mem_def.mp h] at hnot
  simpa using hnot

lemma exists_opens_before {text : List Char} {before after : List Lexeme} {jump : Lexeme}
    {found : List Char}
    (h : predicate? text (before ++ jump :: after) before.length = some found) :
    ∃ start opening inner links, before = start ++ (opening :: inner ++ links) ∧
      Opens opening inner links ∧
      found = Token.slice text opening.stop (links.head?.getD jump).start := by
  rw [predicate?_append] at h
  split at h
  · cases h
  · next opening earlier hopening =>
      -- seen from the jump, the clause has links, then the condition, then the `if`
      have hclause := List.takeWhile_append_dropWhile (p := fun l => !isIf l.token)
        (l := clauseBefore before)
      have hbefore : clauseBefore before ++
          before.reverse.dropWhile (fun l => !endsClause l.token) = before.reverse :=
        List.takeWhile_append_dropWhile
      have hmark : ∀ l ∈ (clauseBefore before).takeWhile fun l => !isIf l.token,
          endsClause l.token = false := by
        intro l hl
        simpa using List.mem_takeWhile_imp ((List.takeWhile_sublist _).subset hl)
      have hif : ∀ l ∈ (clauseBefore before).takeWhile fun l => !isIf l.token,
          isIf l.token = false := by
        intro l hl
        simpa using List.mem_takeWhile_imp hl
      have his : (!isIf opening.token) = false :=
        of_head?_dropWhile (p := fun l => !isIf l.token) (by rw [hopening]; rfl)
      rw [hopening] at hclause
      generalize (clauseBefore before).takeWhile (fun l => !isIf l.token) = between at *
      generalize before.reverse.dropWhile (fun l => !endsClause l.token) = earliest at hbefore
      have hlinks := List.takeWhile_append_dropWhile (p := fun l : Lexeme => isLink l.token)
        (l := between)
      refine ⟨(earlier ++ earliest).reverse, opening,
        (between.dropWhile fun l => isLink l.token).reverse,
        (between.takeWhile fun l => isLink l.token).reverse, ?_,
        ⟨by simpa using his, ?_, ?_, ?_, ?_⟩, ?_⟩
      · rw [← List.reverse_inj, ← hbefore, ← hclause]
        nth_rewrite 1 [← hlinks]
        simp
      · intro l hl
        exact hif l ((List.dropWhile_sublist _).subset (List.mem_reverse.mp hl))
      · intro l hl
        exact hmark l ((List.dropWhile_sublist _).subset (List.mem_reverse.mp hl))
      · intro l hl
        rw [List.getLast?_reverse] at hl
        exact of_head?_dropWhile (p := fun l => isLink l.token) hl
      · intro l hl
        exact List.mem_takeWhile_imp (p := fun l : Lexeme => isLink l.token)
          (List.mem_reverse.mp hl)
      · rw [List.head?_reverse]
        exact (Option.some.inj h).symm

/-- **A condition that is found was opened by an `if`.** -/
theorem exists_opens {text : List Char} {place : Nat} {lexemes : List Lexeme} {found : List Char}
    (h : predicate? text lexemes place = some found) :
    ∃ before opening inner links jump after,
      lexemes = before ++ (opening :: inner ++ links) ++ jump :: after ∧
        place = (before ++ (opening :: inner ++ links)).length ∧ Opens opening inner links ∧
        found = Token.slice text opening.stop (links.head?.getD jump).start := by
  cases hdrop : lexemes.drop place with
  | nil => simp [predicate?, hdrop] at h
  | cons jump after =>
      have hlt : place < lexemes.length := by
        rw [← Nat.not_le, ← List.drop_eq_nil_iff, hdrop]
        simp
      obtain ⟨before, rfl, rfl⟩ : ∃ before, lexemes = before ++ jump :: after ∧
          place = before.length := by
        refine ⟨lexemes.take place, ?_, ?_⟩
        · rw [← hdrop, List.take_append_drop]
        · rw [List.length_take, Nat.min_eq_left hlt.le]
      obtain ⟨start, opening, inner, links, rfl, hopens, hfound⟩ := exists_opens_before h
      exact ⟨start, opening, inner, links, jump, after, rfl, rfl, hopens, hfound⟩

/-- **What an `if` at the front opens.**  The tokens between it and the jump are the condition's
own, the last of which is not a link, and links. -/
theorem predicate?_of_opening (text : List Char) {jump : Lexeme} {after : List Lexeme}
    (hopening : isIf opening.token = true) (hinner : ∀ l ∈ inner, isIf l.token = false)
    (hlinks : ∀ l ∈ links, isLink l.token = true)
    (hlast : ∀ l ∈ inner.getLast?, isLink l.token = false) :
    predicate? text (opening :: inner ++ links ++ jump :: after)
        (opening :: inner ++ links).length =
      if inner.any fun l => endsClause l.token then none
      else some (Token.slice text opening.stop (links.head?.getD jump).start) := by
  by_cases hmark : ∃ l ∈ inner, endsClause l.token = true
  · have hnone := isIf_clauseBefore_of_mark opening hinner hlinks hmark
    rw [predicate?_append, if_pos (List.any_eq_true.mpr hmark), List.dropWhile_eq_nil_iff.mpr]
    intro l hl
    simp [hnone l hl]
  · have hclear : ∀ l ∈ inner, endsClause l.token = false := by
      intro l hl
      simpa using fun hends => hmark ⟨l, hl, hends⟩
    rw [if_neg (fun hany => hmark (List.any_eq_true.mp hany))]
    exact predicate?_of_opens text ⟨hopening, hinner, hclear, hlast, hlinks⟩ [] after jump

end

end LineControl

/-! ## The tokens of the line -/

namespace Token

open Text

lemma scan_if {condition : List Char} (h : quoteOpen false condition = false) (tail : List Char) :
    scan ("if".toList ++ ' ' :: (condition ++ ' ' :: tail)) =
      ⟨.keyword .if_, 0, 2⟩ ::
        ((scan condition).dropLast.map (Lexeme.shift 3) ++
          scanFrom (condition.length + 4) tail) := by
  have hblank : isBlank ' ' = true := by decide
  have hword : quoteOpen false "if".toList = false := by decide
  have hif : scanFrom 0 "if".toList = [⟨.keyword .if_, 0, 2⟩, ⟨.eof, 2, 2⟩] :=
    scanFrom_keyword .if_ 0
  have hlength : "if".toList.length = 2 := by decide
  rw [scan, scanFrom_append_blank hword hblank, scanFrom_append_blank h hblank, hif, hlength,
    scanFrom_add 0 3 condition, ← List.map_dropLast]
  have hplace : 3 + condition.length + 1 = condition.length + 4 := by omega
  rw [Nat.zero_add, hplace]
  rfl

lemma scanFrom_goto (n : LineNumber) (place : Nat) :
    ∃ jump target : Lexeme,
      (scanFrom place ("goto".toList ++ ' ' :: (toString n).toList)).dropLast = [jump, target] ∧
        jump.start = place := by
  have hword : quoteOpen false "goto".toList = false := by decide
  have hgoto : scanFrom place "goto".toList = _ := scanFrom_keyword .goto place
  rw [scanFrom_append_blank hword (by decide), hgoto, scanFrom_lineNumber]
  exact ⟨_, _, rfl, rfl⟩

lemma scanFrom_then (tail : List Char) (place : Nat) :
    ∃ link : Lexeme,
      (scanFrom place ("then".toList ++ ' ' :: tail)) =
        link :: scanFrom (place + 5) tail ∧ link.token = .keyword .then_ ∧ link.start = place := by
  have hword : quoteOpen false "then".toList = false := by decide
  have hthen : scanFrom place "then".toList = _ := scanFrom_keyword .then_ place
  rw [scanFrom_append_blank hword (by decide), hthen]
  exact ⟨_, rfl, rfl, rfl⟩

lemma slice_condition {condition : List Char} (h : trim condition = condition) (tail : List Char) :
    slice ("if".toList ++ ' ' :: (condition ++ ' ' :: tail)) 2 (condition.length + 4) =
      condition := by
  have hblank : isBlank ' ' = true := by decide
  have htake : ("if".toList ++ ' ' :: (condition ++ ' ' :: tail)).take (condition.length + 4) =
      "if".toList ++ ' ' :: (condition ++ [' ']) := by
    have hsplit : "if".toList ++ ' ' :: (condition ++ ' ' :: tail) =
        ("if".toList ++ ' ' :: (condition ++ [' '])) ++ tail := by
      simp
    rw [hsplit]
    exact List.take_left' (by simp)
  have hdrop : ("if".toList ++ ' ' :: (condition ++ [' '])).drop 2 = ' ' :: (condition ++ [' ']) :=
    List.drop_left' (by decide)
  rw [slice, htake, hdrop, trim_cons_blank hblank, trim_append_blank hblank, h]

end Token

namespace LineControl

/-- **A text that can stand between an `if` and its jump:** it is neither empty nor padded with
blanks, it leaves no quote open, it has no `if` of its own, and it does not end with a word or mark
that only links a condition to a jump. -/
structure IsCondition (text : List Char) : Prop where
  nonempty : text ≠ []
  trimmed : Text.trim text = text
  closed : Token.quoteOpen false text = false
  no_if : ∀ l ∈ Token.scan text, isIf l.token = false
  no_link : ∀ l ∈ (Token.scan text).dropLast.getLast?, isLink l.token = false

lemma IsCondition.inner_no_if {condition : List Char} (h : IsCondition condition) :
    ∀ l ∈ (Token.scan condition).dropLast.map (Lexeme.shift 3), isIf l.token = false := by
  intro l hl
  obtain ⟨found, hfound, rfl⟩ := List.mem_map.mp hl
  exact h.no_if found (List.dropLast_subset _ hfound)

lemma IsCondition.inner_no_link {condition : List Char} (h : IsCondition condition) :
    ∀ l ∈ ((Token.scan condition).dropLast.map (Lexeme.shift 3)).getLast?,
      isLink l.token = false := by
  intro l hl
  rw [List.getLast?_map] at hl
  obtain ⟨found, hfound, rfl⟩ := Option.map_eq_some_iff.mp hl
  exact h.no_link found hfound

lemma any_endsClause_inner (condition : List Char) (k : Nat) :
    (((Token.scan condition).dropLast.map (Lexeme.shift k)).any fun l => endsClause l.token) =
      (Token.scan condition).any fun l => endsClause l.token := by
  have hmark : ∀ l : Lexeme, (l.token != .eof && endsClause l.token) = endsClause l.token := by
    intro l
    cases l.token <;> rfl
  rw [Token.scan, ← Token.filter_scanFrom, List.any_map, List.any_filter]
  simp only [Function.comp_def, Lexeme.shift, hmark]

lemma lineTarget_toNat (line n : LineNumber) (kind : TransferKind) :
    lineTarget line n.toNat kind = .ok n := by
  rw [lineTarget, if_pos n.toNat_lt, UInt32.ofNat_toNat]

/-- The control of a line that begins with `if` and a condition, and goes on with links and a
jump. -/
lemma ofLine_of_if {line : Line} {condition tail : List Char} {n : LineNumber}
    {links : List Lexeme} {jump target : Lexeme}
    (htext : line.text.toList = "if".toList ++ ' ' :: (condition ++ ' ' :: tail))
    (hcondition : IsCondition condition)
    (htail : (Token.scanFrom (condition.length + 4) tail).dropLast = links ++ [jump, target])
    (hlinks : ∀ l ∈ links, isLink l.token = true)
    (hstart : (links.head?.getD jump).start = condition.length + 4)
    (hcue : line.cues = [.jump n.toNat (line.lexemes.length - 2)]) :
    ofLine line = .ok ⟨line.number,
      if (Token.scan condition).any fun l => endsClause l.token then .jump n
      else .branch n (String.ofList condition), none⟩ := by
  have hlexemes : line.lexemes = (⟨.keyword .if_, 0, 2⟩ ::
      (Token.scan condition).dropLast.map (Lexeme.shift 3) ++ links) ++ jump :: [target] := by
    rw [Line.lexemes, htext, Token.scan, Token.filter_scanFrom]
    rw [← Token.scan, Token.scan_if hcondition.closed,
      List.dropLast_cons_of_ne_nil (by simp [Token.scanFrom_ne_nil]),
      List.dropLast_append_of_ne_nil (Token.scanFrom_ne_nil _ _), htail]
    simp
  have hplace : line.lexemes.length - 2 = (⟨.keyword .if_, 0, 2⟩ ::
      (Token.scan condition).dropLast.map (Lexeme.shift 3) ++ links).length := by
    rw [hlexemes, List.length_append]
    rfl
  rw [ofLine_eq, hcue]
  simp only [ofCue]
  rw [hplace, hlexemes, predicate?_of_opening _ rfl hcondition.inner_no_if hlinks
    hcondition.inner_no_link, hstart, htext, Token.slice_condition hcondition.trimmed,
    any_endsClause_inner]
  simp only [lineTarget_toNat]
  split
  · next hpredicate =>
      split at hpredicate
      · cases hpredicate
      · next hmark =>
          cases hpredicate
          rw [if_neg hmark]
          rfl
  · next hpredicate =>
      split at hpredicate
      · next hmark =>
          rw [if_pos hmark]
          rfl
      · cases hpredicate

/-- **Marks decide whether a jump is conditional.**  A line `if c goto n` or `if c then goto n`
whose only cue is its final jump branches to `n` on exactly `c` if no token of `c` is a mark that
can end a sentence.  Otherwise the `if` is not found, and the line jumps to `n` whatever `c`
says. -/
theorem conditional_jump_by_marks {line : Line} {condition : String} {n : LineNumber}
    (htext : line.text = s!"if {condition} goto {n}" ∨
      line.text = s!"if {condition} then goto {n}")
    (hcondition : IsCondition condition.toList)
    (hcue : line.cues = [.jump n.toNat (line.lexemes.length - 2)]) :
    ofLine line = .ok ⟨line.number,
      if (Token.scan condition.toList).any fun l => endsClause l.token then .jump n
      else .branch n condition, none⟩ := by
  have hback : String.ofList condition.toList = condition := String.ofList_toList
  rcases htext with htext | htext
  · have hchars : line.text.toList = "if".toList ++ ' ' :: (condition.toList ++ ' ' ::
        ("goto".toList ++ ' ' :: (toString n).toList)) := by
      rw [htext]
      simp only [String.toList_append, List.append_assoc]
      rfl
    obtain ⟨jump, target, hjump, hstart⟩ := Token.scanFrom_goto n (condition.toList.length + 4)
    have hcontrol := ofLine_of_if hchars hcondition (hjump.trans (List.nil_append _).symm)
      (by simp) hstart hcue
    rwa [hback] at hcontrol
  · have hchars : line.text.toList = "if".toList ++ ' ' :: (condition.toList ++ ' ' ::
        ("then".toList ++ ' ' :: ("goto".toList ++ ' ' :: (toString n).toList))) := by
      rw [htext]
      simp only [String.toList_append, List.append_assoc]
      rfl
    obtain ⟨link, hlink, htoken, hfirst⟩ := Token.scanFrom_then
      ("goto".toList ++ ' ' :: (toString n).toList) (condition.toList.length + 4)
    obtain ⟨jump, target, hjump, -⟩ := Token.scanFrom_goto n (condition.toList.length + 4 + 5)
    have htail : (Token.scanFrom (condition.toList.length + 4) ("then".toList ++ ' ' ::
        ("goto".toList ++ ' ' :: (toString n).toList))).dropLast = [link] ++ [jump, target] := by
      rw [hlink, List.dropLast_cons_of_ne_nil (Token.scanFrom_ne_nil _ _), hjump]
      rfl
    have hcontrol := ofLine_of_if hchars hcondition htail (by simp [htoken, isLink]) hfirst hcue
    rwa [hback] at hcontrol

/-- A condition with a full stop inside quotes and one inside a number. -/
def totalCondition : String := "the \"Grand. Total\" > 3.5"

/-- A line that jumps on that condition. -/
def totalLine : Line := ⟨10, none, "if the \"Grand. Total\" > 3.5 then goto 90"⟩

/-- Neither full stop is a token, so the jump is conditional. -/
theorem conditional_jump_by_marks_totalLine :
    IsCondition totalCondition.toList ∧
      totalLine.cues = [.jump 90 (totalLine.lexemes.length - 2)] ∧
      ofLine totalLine = .ok ⟨10, .branch 90 totalCondition, none⟩ := by
  have hcondition : IsCondition totalCondition.toList :=
    ⟨by decide, by decide +kernel, by decide, by decide +kernel, by decide +kernel⟩
  have htext : totalLine.text = s!"if {totalCondition} then goto {(90 : LineNumber)}" := by
    decide +kernel
  have hcue : totalLine.cues =
      [.jump (90 : LineNumber).toNat (totalLine.lexemes.length - 2)] := by
    decide +kernel
  refine ⟨hcondition, hcue, ?_⟩
  rw [conditional_jump_by_marks (.inr htext) hcondition hcue, if_neg (by decide +kernel)]
  rfl

/-- Whether a text has the end of a sentence in it: outside quotes, a mark that can end one, with a
blank or nothing after it. -/
def breaksSentence : (inside : Bool) → List Char → Bool
  | _, [] => false
  | false, c :: rest =>
      (endsClause (.punct c) && rest.head?.all Text.isBlank) || breaksSentence (c == '"') rest
  | true, '\\' :: _ :: rest => breaksSentence true rest
  | true, c :: rest => breaksSentence (c != '"') rest

/-- **An operator can drop the condition.**  In `if x != 3 goto 40` no sentence ends, and still the
jump is taken whatever `x` is. -/
theorem operator_drops_condition :
    IsCondition "x != 3".toList ∧ breaksSentence false "x != 3".toList = false ∧
      Line.cues ⟨10, none, "if x != 3 goto 40"⟩ =
        [.jump 40 ((Line.lexemes ⟨10, none, "if x != 3 goto 40"⟩).length - 2)] ∧
      ofLine ⟨10, none, "if x != 3 goto 40"⟩ = .ok ⟨10, .jump 40, none⟩ :=
  ⟨⟨by decide, by decide +kernel, by decide, by decide +kernel, by decide +kernel⟩,
    by decide +kernel, by decide +kernel, by decide +kernel⟩

end LineControl

end NumberedProse
