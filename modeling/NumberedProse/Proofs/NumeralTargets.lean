import Mathlib.Tactic.Common
import NumberedProse.Proofs.Phrases
import NumberedProse.Proofs.TokenCuts
import NumberedProse.Proofs.Verdicts
import NumberedProse.Text.Decimal

/-!
# How large a number a line can name

A line that names another with a numeral of any length, leading zeros welcome, does one of three
things, and the size of the number decides which (`LineControl.target_by_size`).

* Below 2³² the line does what it says.
* From there to 2⁶⁴ the number is a token, but no line number, and the line is rejected.
* From 2⁶⁴ on the numeral is not even the token of a whole number.  No cue is found, and the line
  falls through without a word (`LineControl.huge_target_is_prose`).
-/

namespace NumberedProse

/-! ## Wordings -/

/-- A wording that names a line: its words, the kind of transfer, and what the line named does to
control and to the handling of errors. -/
structure Wording where
  words : List Keyword
  kind : TransferKind
  control : LineNumber → Control
  handler : LineNumber → Option LineNumber

namespace Wording

/-- The wordings of a jump, of an error handler and of a call. -/
def all : List Wording :=
  Cue.jumpWords.map (fun words => ⟨words, .jump, .jump, fun _ => none⟩) ++
    (Cue.jumpWords.map fun words =>
      ⟨.on :: .error :: words, .handler, fun _ => .fallthrough, some⟩) ++
    [[.call], [.gosub]].map fun words => ⟨words, .call, .call, fun _ => none⟩

/-- The wording written out, with a numeral after it. -/
def spell (wording : Wording) (numeral : String) : String :=
  " ".intercalate (wording.words.map Keyword.word ++ [numeral])

/-- The cue that the wording spells at the front of a line. -/
def cue (wording : Wording) (n : Nat) : Cue :=
  match wording.kind with
  | .jump | .branch => .jump n 0
  | .call => .call n
  | .handler => .handler n

end Wording

/-! ## The tokens of a wording -/

namespace Token

open Text

lemma ofText_keyword (k : Keyword) (tail : List Char) :
    ofText (k.word.toList ++ ' ' :: tail) = .keyword k :: ofText tail := by
  have hclosed : quoteOpen false k.word.toList = false := by cases k <;> decide
  rw [ofText_eq 0, scanFrom_append_blank hclosed (by decide), scanFrom_keyword,
    List.dropLast_append_of_ne_nil (scanFrom_ne_nil _ _), List.map_append, ← ofText_eq]
  rfl

lemma ofText_words (words : List Keyword) (tail : String) :
    ofText (" ".intercalate (words.map Keyword.word ++ [tail])).toList =
      words.map Token.keyword ++ ofText tail.toList := by
  rw [String.toList_intercalate]
  induction words with
  | nil => simp
  | cons k words ih =>
      rw [List.map_cons, List.cons_append, List.map_cons,
        List.intercalate_cons_of_ne_nil (by simp), List.append_assoc]
      exact (ofText_keyword k _).trans (congrArg _ ih)

lemma ofText_numeral {digits : List Char} (hsome : digits ≠ [])
    (hdigits : ∀ c ∈ digits, c.isDigit = true) :
    ofText digits = [ofNumeral ⟨digits, false, []⟩] := by
  rw [ofText_eq 0, scanFrom_numeral hsome hdigits]
  rfl

end Token

/-! ## The cue of a wording -/

namespace Wording

variable {wording : Wording}

lemma scan_phrase (h : wording ∈ all) (n : Nat) :
    Cue.scan (Cue.phrase wording.words n) = [wording.cue n] := by
  simp only [all, Cue.jumpWords, List.map_cons, List.map_nil, List.mem_append, List.mem_cons,
    List.not_mem_nil, or_false] at h
  rcases h with ((rfl | rfl | rfl | rfl) | (rfl | rfl | rfl | rfl)) | (rfl | rfl) <;> rfl

lemma scan_number (h : wording ∈ all) (numeral : String) :
    Cue.scan (wording.words.map Token.keyword ++ [.number numeral]) = [] := by
  simp only [all, Cue.jumpWords, List.map_cons, List.map_nil, List.mem_append, List.mem_cons,
    List.not_mem_nil, or_false] at h
  rcases h with ((rfl | rfl | rfl | rfl) | (rfl | rfl | rfl | rfl)) | (rfl | rfl) <;> rfl

end Wording

namespace LineControl

lemma predicate?_zero (text : List Char) (lexemes : List Lexeme) :
    predicate? text lexemes 0 = none := by
  simp only [predicate?, List.take_zero, List.reverse_nil, List.takeWhile_nil, List.dropWhile_nil]
  split <;> rfl

lemma ofCue_wording {wording : Wording} (h : wording ∈ Wording.all) (line : LineNumber)
    (text : List Char) (lexemes : List Lexeme) (n : Nat) :
    ofCue line text lexemes (wording.cue n) =
      if n < UInt32.size then
        .ok ⟨line, wording.control (UInt32.ofNat n), wording.handler (UInt32.ofNat n)⟩
      else .error (.outOfRange line n wording.kind) := by
  simp only [Wording.all, List.mem_append, List.mem_map] at h
  rcases h with (⟨words, -, rfl⟩ | ⟨words, -, rfl⟩) | ⟨words, -, rfl⟩
  · simp only [Wording.cue, ofCue, predicate?_zero, lineTarget]
    split <;> rfl
  · simp only [Wording.cue, ofCue, lineTarget]
    split <;> rfl
  · simp only [Wording.cue, ofCue, lineTarget]
    split <;> rfl

/-! ## The size of the number decides -/

/-- **The size of a number decides what a line that names it does.**  The line is one of the
wordings with a numeral for `n` after it. -/
theorem target_by_size {wording : Wording} (hwording : wording ∈ Wording.all) {numeral : String}
    {n : Nat} (hnumeral : Text.decimal? numeral.toList = some n) (number : LineNumber)
    (hint : Option String) :
    ofLine ⟨number, hint, wording.spell numeral⟩ =
      if n < UInt32.size then
        .ok ⟨number, wording.control (UInt32.ofNat n), wording.handler (UInt32.ofNat n)⟩
      else if n < UInt64.size then .error (.outOfRange number n wording.kind)
      else .ok (plain number) := by
  rw [Text.decimal?] at hnumeral
  split at hnumeral
  · next hcheck =>
      cases hnumeral
      simp only [Bool.and_eq_true, Bool.not_eq_true', List.isEmpty_eq_false_iff,
        List.all_eq_true] at hcheck
      have htokens : (Line.mk number hint (wording.spell numeral)).lexemes.map Lexeme.token =
          wording.words.map Token.keyword ++ [Token.ofNumeral ⟨numeral.toList, false, []⟩] :=
        (Token.ofText_words wording.words numeral).trans
          (by rw [Token.ofText_numeral hcheck.1 hcheck.2])
      rw [ofLine_eq, Line.cues, htokens]
      by_cases hfits : Nat.ofDigitChars 10 numeral.toList 0 < UInt64.size
      · rw [Token.ofNumeral_of_lt hfits, ← Cue.phrase, Wording.scan_phrase hwording, if_pos hfits]
        exact ofCue_wording hwording _ _ _ _
      · have hlarge : ¬Nat.ofDigitChars 10 numeral.toList 0 < UInt32.size :=
          fun hlt => hfits (Nat.lt_trans hlt (by decide))
        rw [Token.ofNumeral_of_le (Nat.le_of_not_lt hfits), Wording.scan_number hwording,
          if_neg hlarge, if_neg hfits]
  · cases hnumeral

/-- The longest of the wordings. -/
def onErrorJumpToLine : Wording :=
  ⟨[.on, .error, .jump, .to_, .line], .handler, fun _ => .fallthrough, some⟩

/-- Leading zeros do not matter, and the first number beyond the line numbers is rejected. -/
theorem target_by_size_onErrorJumpToLine :
    onErrorJumpToLine ∈ Wording.all ∧ Text.decimal? "0090".toList = some 90 ∧
      Text.decimal? "4294967296".toList = some 4294967296 ∧
      ofLine ⟨10, none, "on error jump to line 0090"⟩ = .ok ⟨10, .fallthrough, some 90⟩ ∧
      ofLine ⟨10, none, "on error jump to line 4294967296"⟩ =
        .error (.outOfRange 10 4294967296 .handler) := by
  have hwording : onErrorJumpToLine ∈ Wording.all := by
    simp [Wording.all, Cue.jumpWords, onErrorJumpToLine]
  have hsmall : Text.decimal? "0090".toList = some 90 := by decide
  have hlarge : Text.decimal? "4294967296".toList = some 4294967296 := by decide
  exact ⟨hwording, hsmall, hlarge, target_by_size hwording hsmall 10 none,
    target_by_size hwording hlarge 10 none⟩

/-- **A number that is too large is not always rejected:** 2⁶⁴ is the first that nobody reads. -/
theorem huge_target_is_prose :
    Text.decimal? "18446744073709551616".toList = some 18446744073709551616 ∧
      ofLine ⟨10, none, "goto 18446744073709551616"⟩ = .ok (plain 10) :=
  ⟨by decide, by decide +kernel⟩

end LineControl

end NumberedProse
