import Mathlib.Data.List.Infix
import Mathlib.Tactic.Common
import NumberedProse.Control.Reading

/-!
# The phrases that spell a cue

A cue begins wherever one of a few phrases does, and nothing else of a line counts.

**Phrases.**  `Cue.spellings` lists the phrases of every cue, and `Cue.atHead?_eq_some_iff` says
that a cue is found at the head of the tokens exactly if one of its phrases stands there.

**Quoted texts are opaque.**  No phrase has a quoted text in it.  So the outline of the tokens, in
which the content of quoted texts is left out, has the same cues (`Cue.scan_outline`), at the same
places, and gives a jump the same condition (`LineControl.predicate?_outline`).
-/

namespace NumberedProse

namespace Cue

/-! ## Phrases -/

/-- Keywords with a number after them. -/
def phrase (words : List Keyword) (n : Nat) : List Token :=
  words.map Token.keyword ++ [.integer n]

/-- The ways to say a jump. -/
def jumpWords : List (List Keyword) := [[.goto], [.go, .to_], [.jump, .to_], [.jump, .to_, .line]]

/-- **The phrases that spell a cue.**  A return is spelled by its word, but only where it stands
alone. -/
def spellings (bare : Bool) : Cue → List (List Token)
  | jump n _ => jumpWords.map fun words => phrase words n
  | handler n => jumpWords.map fun words => phrase (.on :: .error :: words) n
  | call n => [phrase [.call] n, phrase [.gosub] n]
  | ret => if bare then [[.keyword .return_]] else []

lemma jumpPhrase?_eq_some_iff {tokens : List Token} {n width : Nat} :
    jumpPhrase? tokens = some (n, width) ↔
      ∃ words ∈ jumpWords, phrase words n <+: tokens ∧ width = (phrase words n).length := by
  constructor
  · intro h
    unfold jumpPhrase? at h
    split at h <;> simp only [Option.some.injEq, Prod.mk.injEq, reduceCtorEq] at h
    all_goals
      obtain ⟨rfl, rfl⟩ := h
      simp [jumpWords, phrase]
  · rintro ⟨words, hwords, ⟨rest, rfl⟩, rfl⟩
    simp only [jumpWords, List.mem_cons, List.not_mem_nil, or_false] at hwords
    rcases hwords with rfl | rfl | rfl | rfl <;> simp [phrase, jumpPhrase?]

/-- **A cue is found where one of its phrases stands.** -/
theorem atHead?_eq_some_iff {bare : Bool} {place width : Nat} {tokens : List Token} {cue : Cue} :
    atHead? bare place tokens = some (cue, width) ↔
      (∀ n at_, cue = .jump n at_ → at_ = place) ∧
        ∃ words ∈ cue.spellings bare, words <+: tokens ∧ width = words.length := by
  constructor
  · intro h
    unfold atHead? at h
    split at h
    · obtain ⟨⟨n, w⟩, hphrase, hcue⟩ := Option.map_eq_some_iff.mp h
      obtain ⟨words, hwords, ⟨rest, rfl⟩, rfl⟩ := jumpPhrase?_eq_some_iff.mp hphrase
      cases hcue
      refine ⟨by simp, _, List.mem_map_of_mem hwords, ⟨rest, ?_⟩, ?_⟩ <;> simp [phrase]
    · cases h
      simp [spellings, phrase]
    · cases h
      simp [spellings, phrase]
    · split at h
      · next hbare =>
          cases h
          simp [spellings, hbare]
      · cases h
    · obtain ⟨⟨n, w⟩, hphrase, hcue⟩ := Option.map_eq_some_iff.mp h
      obtain ⟨words, hwords, hprefix, rfl⟩ := jumpPhrase?_eq_some_iff.mp hphrase
      cases hcue
      exact ⟨by simp, _, List.mem_map_of_mem hwords, hprefix, rfl⟩
  · rintro ⟨hplace, words, hwords, ⟨rest, rfl⟩, rfl⟩
    cases cue with
    | jump n at_ =>
        obtain rfl := hplace n at_ rfl
        simp only [spellings, jumpWords, List.map_cons, List.map_nil, List.mem_cons,
          List.not_mem_nil, or_false] at hwords
        rcases hwords with rfl | rfl | rfl | rfl <;> simp [phrase, atHead?, jumpPhrase?]
    | handler n =>
        simp only [spellings, jumpWords, List.map_cons, List.map_nil, List.mem_cons,
          List.not_mem_nil, or_false] at hwords
        rcases hwords with rfl | rfl | rfl | rfl <;> simp [phrase, atHead?, jumpPhrase?]
    | call n =>
        simp only [spellings, List.mem_cons, List.not_mem_nil, or_false] at hwords
        rcases hwords with rfl | rfl <;> simp [phrase, atHead?]
    | ret =>
        cases bare <;> simp only [spellings] at hwords <;> simp_all [atHead?]

end Cue

/-! ## Quoted texts are opaque -/

namespace Token

/-- The token without the content of a quoted text. -/
def outline : Token → Token
  | quoted _ => quoted ""
  | token => token

@[simp] lemma outline_eq_keyword_iff {token : Token} {k : Keyword} :
    token.outline = .keyword k ↔ token = .keyword k := by
  cases token <;> simp [outline]

@[simp] lemma outline_eq_integer_iff {token : Token} {n : Nat} :
    token.outline = .integer n ↔ token = .integer n := by
  cases token <;> simp [outline]

lemma isPunct_outline (token : Token) : token.outline.isPunct = token.isPunct := by
  cases token <;> rfl

lemma outline_eq_eof_iff {token : Token} : token.outline = .eof ↔ token = .eof := by
  cases token <;> simp [outline]

end Token

namespace Cue

open Token

lemma prefix_outline_iff {words tokens : List Token}
    (hwords : ∀ word ∈ words, ∀ token : Token, token.outline = word ↔ token = word) :
    words <+: tokens.map outline ↔ words <+: tokens := by
  induction words generalizing tokens with
  | nil => simp
  | cons word words ih =>
      cases tokens with
      | nil => simp
      | cons token tokens =>
          simp only [List.forall_mem_cons] at hwords
          simp only [List.map_cons, List.cons_prefix_cons, ih hwords.2]
          rw [eq_comm, hwords.1, eq_comm]

lemma outline_eq_iff_of_mem_phrase {words : List Keyword} {n : Nat} {word token : Token}
    (h : word ∈ phrase words n) : token.outline = word ↔ token = word := by
  simp only [phrase, List.mem_append, List.mem_map, List.mem_singleton] at h
  rcases h with ⟨k, -, rfl⟩ | rfl <;> simp

lemma outline_eq_iff_of_mem_spellings {bare : Bool} {cue : Cue} {words : List Token}
    (h : words ∈ cue.spellings bare) :
    ∀ word ∈ words, ∀ token : Token, token.outline = word ↔ token = word := by
  intro word hword token
  cases cue with
  | jump n place =>
      obtain ⟨ks, -, rfl⟩ := List.mem_map.mp h
      exact outline_eq_iff_of_mem_phrase hword
  | handler n =>
      obtain ⟨ks, -, rfl⟩ := List.mem_map.mp h
      exact outline_eq_iff_of_mem_phrase hword
  | call n =>
      simp only [spellings, List.mem_cons, List.not_mem_nil, or_false] at h
      rcases h with rfl | rfl <;> exact outline_eq_iff_of_mem_phrase hword
  | ret =>
      cases bare <;> simp_all [spellings]

lemma atHead?_outline (bare : Bool) (place : Nat) (tokens : List Token) :
    atHead? bare place (tokens.map outline) = atHead? bare place tokens := by
  apply Option.ext
  rintro ⟨cue, width⟩
  simp only [atHead?_eq_some_iff]
  refine and_congr_right fun _ => exists_congr fun words => and_congr_right fun hwords => ?_
  rw [prefix_outline_iff (outline_eq_iff_of_mem_spellings hwords)]

lemma scanFrom_outline (bare : Bool) (place skip : Nat) (tokens : List Token) :
    scanFrom bare place skip (tokens.map outline) = scanFrom bare place skip tokens := by
  induction tokens generalizing place skip with
  | nil => rfl
  | cons token rest ih =>
      cases skip with
      | succ skip => simp only [List.map_cons, scanFrom, ih]
      | zero =>
          have hhead := atHead?_outline bare place (token :: rest)
          simp only [List.map_cons] at hhead
          simp only [List.map_cons, scanFrom, hhead, ih]

lemma isBareReturn_outline (tokens : List Token) :
    isBareReturn (tokens.map outline) = isBareReturn tokens := by
  have hmap : ∀ ts : List Token, ts.map outline = [.keyword .return_] ↔
      ts = [.keyword .return_] := by
    intro ts
    simp [List.map_eq_cons_iff]
  rw [Bool.eq_iff_iff]
  simp only [isBareReturn, List.filter_map, beq_iff_eq, Function.comp_def, isPunct_outline, hmap]

/-- **The cues of a line do not depend on what its quoted texts say.** -/
theorem scan_outline (tokens : List Token) : scan (tokens.map outline) = scan tokens := by
  rw [scan, scan, isBareReturn_outline, scanFrom_outline]

end Cue

/-- The lexeme without the content of a quoted text. -/
def Lexeme.outline (lexeme : Lexeme) : Lexeme := { lexeme with token := lexeme.token.outline }

namespace LineControl

lemma endsClause_outline (token : Token) : endsClause token.outline = endsClause token := by
  cases token <;> rfl

lemma isLink_outline (token : Token) : isLink token.outline = isLink token := by
  cases token <;> rfl

lemma isIf_outline (token : Token) : isIf token.outline = isIf token := by
  cases token <;> rfl

/-- **The condition of a jump does not depend on how its quoted texts are read:** it is cut out of
the line by places. -/
theorem predicate?_outline (text : List Char) (lexemes : List Lexeme) (place : Nat) :
    predicate? text (lexemes.map Lexeme.outline) place = predicate? text lexemes place := by
  simp only [predicate?, ← List.map_drop, ← List.map_take, ← List.map_reverse, List.takeWhile_map,
    List.dropWhile_map, Function.comp_def, Lexeme.outline, endsClause_outline, isLink_outline,
    isIf_outline]
  cases lexemes.drop place with
  | nil => rfl
  | cons jump rest =>
      simp only [List.map_cons]
      generalize (lexemes.take place).reverse.takeWhile (fun l => !endsClause l.token) = clause
      cases clause.dropWhile fun l => !isIf l.token with
      | nil => rfl
      | cons opening before =>
          simp only [List.map_cons, List.getLast?_map]
          cases ((clause.takeWhile fun l => !isIf l.token).takeWhile
            fun l => isLink l.token).getLast? <;> rfl

end LineControl

end NumberedProse
