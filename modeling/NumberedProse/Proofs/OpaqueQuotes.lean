import Mathlib.Tactic.Common
import NumberedProse.Proofs.CaseInsensitivity
import NumberedProse.Proofs.Lexing
import NumberedProse.Proofs.Phrases

/-!
# What a quoted text says does not matter

Two lines that differ only inside a quoted text have the same control, or the same fault, and only a
predicate that holds the quoted text shows which of the two was written
(`LineControl.quotes_opaque`).

**Places.**  What comes after the quoted text moves with its length.  `Token.moved` says where a
place of the one line is in the other, and moving the lexemes of the one line gives those of the
other, the contents of quoted texts apart (`Token.outline_around`).  No lexeme begins or ends inside
the quoted text, so every piece of the line that is cut out by lexemes either leaves the quoted text
out or holds it as a whole (`Token.slice_around`).

**Control.**  Cues are read off the tokens, and the search for a condition chooses the same lexemes
on both lines (`LineControl.predicate?_relocate`).
-/

namespace NumberedProse

/-- The lexeme with its places changed. -/
def Lexeme.relocate (g : Nat → Nat) (lexeme : Lexeme) : Lexeme :=
  { lexeme with start := g lexeme.start, stop := g lexeme.stop }

namespace Text

lemma trimStart_isSuffix (text : List Char) : trimStart text <:+ text := List.dropWhile_suffix _

lemma trimEnd_isPrefix (text : List Char) : trimEnd text <+: text := by
  rw [← List.reverse_suffix, trimEnd, List.reverse_reverse]
  exact List.dropWhile_suffix _

end Text

namespace Token

open Text

/-! ## The lexemes around a quoted text -/

/-- A quoted text that says `s`, with a text before and after it. -/
def around (a b s : List Char) : List Char := a ++ '"' :: (s ++ '"' :: b)

/-- **Where a place is** when the quoted text after `a` says `s'` and no longer `s`. -/
def moved (a s s' : List Char) (place : Nat) : Nat :=
  if place ≤ a.length then place else place + s'.length - s.length

/-- Neither quotes nor escapes. -/
def IsPlain (s : List Char) : Prop := '"' ∉ s ∧ '\\' ∉ s
deriving Decidable

lemma readQuotedBody_of_isPlain {s : List Char} (h : IsPlain s) (b : List Char) :
    readQuotedBody (s ++ '"' :: b) = ⟨s, s.length + 1, b⟩ := by
  induction s with
  | nil => rfl
  | cons c s ih =>
      simp only [IsPlain, List.mem_cons, not_or] at h
      rw [List.cons_append, readQuotedBody_cons (Ne.symm h.1.1) (Ne.symm h.2.1), ih ⟨h.1.2, h.2.2⟩,
        List.length_cons]

lemma scanFrom_quoted {s : List Char} (h : IsPlain s) (place : Nat) (b : List Char) :
    scanFrom place ('"' :: (s ++ '"' :: b)) =
      ⟨.quoted (String.ofList s), place, place + (s.length + 2)⟩ ::
        scanFrom (place + (s.length + 2)) b := by
  have hread : read '"' (s ++ '"' :: b) = ⟨.quoted (String.ofList s), s.length + 2, b⟩ := by
    have hquoted : read '"' (s ++ '"' :: b) = readQuoted (s ++ '"' :: b) := rfl
    rw [hquoted, readQuoted, readQuotedBody_of_isPlain h]
  rw [scanFrom_of_not_blank (by decide), hread]

/-- **The lexemes of the line:** those before, the quoted text, and those after it. -/
lemma scan_around {a s : List Char} (ha : quoteOpen false a = false) (hs : IsPlain s)
    (b : List Char) :
    scan (around a b s) = (scan a).dropLast ++
      ⟨.quoted (String.ofList s), a.length, a.length + (s.length + 2)⟩ ::
        (scan b).map (Lexeme.shift (a.length + (s.length + 2))) := by
  rw [scan, around, scanFrom_append_separator ha separates_quote, scanFrom_quoted hs, Nat.zero_add,
    ← Nat.zero_add (a.length + (s.length + 2)), scanFrom_add]
  simp [scan]

/-- A lexeme ends with the text at the latest. -/
lemma stop_le_of_mem {text : List Char} (h : quoteOpen false text = false) {place : Nat}
    {l : Lexeme} (hl : l ∈ scanFrom place text) :
    l.start ≤ l.stop ∧ l.stop ≤ place + text.length := by
  fun_induction scanFrom place text with
  | case1 place =>
      obtain rfl := List.mem_singleton.mp hl
      simp
  | case2 place c rest hblank ih =>
      rw [quoteOpen_cons_of_ne (ne_of_isBlank hblank rfl)] at h
      have hle := ih h hl
      rw [List.length_cons]
      omega
  | case3 place c rest hblank reading _ ih =>
      obtain ⟨hwidth, hclosed⟩ := width_read h
      have hread : reading = read c rest := rfl
      rw [hread] at ih hl
      rw [List.length_cons]
      rcases List.mem_cons.mp hl with rfl | hl
      · simp only
        omega
      · have hle := ih hclosed hl
        omega

section

variable {a b s s' : List Char}

lemma moved_of_le {place : Nat} (h : place ≤ a.length) : moved a s s' place = place := if_pos h

lemma moved_add (place : Nat) :
    moved a s s' (place + (a.length + (s.length + 2))) =
      place + (a.length + (s'.length + 2)) := by
  rw [moved, if_neg (by omega)]
  omega

/-- **Moving the lexemes of the one line gives those of the other,** contents apart. -/
lemma outline_around (ha : quoteOpen false a = false) (hs : IsPlain s) (hs' : IsPlain s') :
    (scan (around a b s')).map Lexeme.outline =
      ((scan (around a b s)).map Lexeme.outline).map (Lexeme.relocate (moved a s s')) := by
  rw [scan_around ha hs, scan_around ha hs']
  simp only [List.map_append, List.map_cons, List.map_map]
  refine congrArg₂ (· ++ ·) ?_ (congrArg₂ List.cons ?_ ?_)
  · refine List.map_congr_left fun l hl => ?_
    obtain ⟨hstart, hstop⟩ := stop_le_of_mem ha (List.dropLast_subset _ hl)
    rw [Nat.zero_add] at hstop
    simp only [Function.comp_apply, Lexeme.outline, Lexeme.relocate, moved_of_le hstop,
      moved_of_le (hstart.trans hstop)]
  · have hmoved : moved a s s' (0 + (a.length + (s.length + 2))) = _ := moved_add 0
    rw [Nat.zero_add, Nat.zero_add] at hmoved
    simp only [Lexeme.outline, Lexeme.relocate, outline, moved_of_le (Nat.le_refl _), hmoved]
  · refine List.map_congr_left fun l _ => ?_
    simp only [Function.comp_apply, Lexeme.outline, Lexeme.relocate, Lexeme.shift, moved_add]

/-- A place that is not inside the quoted text. -/
def Outside (a s : List Char) (place : Nat) : Prop :=
  place ≤ a.length ∨ ∃ rest, place = rest + (a.length + (s.length + 2))

lemma outside_of_mem (ha : quoteOpen false a = false) (hs : IsPlain s) {l : Lexeme}
    (hl : l ∈ scan (around a b s)) : Outside a s l.start ∧ Outside a s l.stop := by
  rw [scan_around ha hs] at hl
  rcases List.mem_append.mp hl with hl | hl
  · obtain ⟨hstart, hstop⟩ := stop_le_of_mem ha (List.dropLast_subset _ hl)
    rw [Nat.zero_add] at hstop
    exact ⟨.inl (hstart.trans hstop), .inl hstop⟩
  · rcases List.mem_cons.mp hl with rfl | hl
    · exact ⟨.inl (Nat.le_refl _), .inr ⟨0, by simp⟩⟩
    · obtain ⟨l, -, rfl⟩ := List.mem_map.mp hl
      exact ⟨.inr ⟨_, rfl⟩, .inr ⟨_, rfl⟩⟩

/-! ## Pieces of the line -/

/-- **Two texts that are equal, or differ only in what the quoted text says.** -/
inductive Requoted (a b s s' : List Char) : List Char → List Char → Prop
  | same (text : List Char) : Requoted a b s s' text text
  | inside {x y : List Char} (hx : x <:+ a) (hy : y <+: b) :
      Requoted a b s s' (around x y s) (around x y s')

lemma trim_around (x y : List Char) : trim (around x y s) = around (trimStart x) (trimEnd y) s := by
  have hblank : isBlank '"' = false := by decide
  have hstart : trimStart (around x y s) = around (trimStart x) y s := by
    rw [trimStart, around, dropWhile_append_of_neg hblank]
    rfl
  have hreverse : ∀ t, (around t y s).reverse = y.reverse ++ '"' :: (t ++ '"' :: s).reverse := by
    intro t
    simp [around]
  rw [trim, hstart, trimEnd, hreverse, dropWhile_append_of_neg hblank]
  simp [around, trimEnd]

lemma around_eq (a b s : List Char) : around a b s = (a ++ '"' :: (s ++ ['"'])) ++ b := by
  simp [around]

lemma place_after_quoted (a s : List Char) (rest : Nat) :
    rest + (a.length + (s.length + 2)) = (a ++ '"' :: (s ++ ['"'])).length + rest := by
  simp only [List.length_append, List.length_cons, List.length_nil]
  omega

lemma take_around (rest : Nat) :
    (around a b s).take (rest + (a.length + (s.length + 2))) = around a (b.take rest) s := by
  rw [around_eq, place_after_quoted, List.take_length_add_append, ← around_eq]

lemma drop_around (rest : Nat) :
    (around a b s).drop (rest + (a.length + (s.length + 2))) = b.drop rest := by
  rw [around_eq, place_after_quoted, List.drop_length_add_append]

/-- **A piece of the line leaves the quoted text out or holds all of it.** -/
lemma slice_around {start stop : Nat} (hstart : Outside a s start) (hstop : Outside a s stop) :
    Requoted a b s s' (slice (around a b s) start stop)
      (slice (around a b s') (moved a s s' start) (moved a s s' stop)) := by
  rcases hstop with hstop | ⟨stop, rfl⟩
  · -- the piece ends before the quoted text
    have htake : ∀ t, (around a b t).take stop = a.take stop :=
      fun t => List.take_append_of_le_length hstop
    rw [moved_of_le hstop, slice, slice, htake, htake]
    rcases hstart with hstart | ⟨start, rfl⟩
    · rw [moved_of_le hstart]
      exact .same _
    · rw [moved_add, List.drop_eq_nil_of_le (by simp; omega),
        List.drop_eq_nil_of_le (by simp; omega)]
      exact .same _
  · rw [moved_add, slice, slice, take_around, take_around]
    rcases hstart with hstart | ⟨start, rfl⟩
    · -- the piece begins before the quoted text and ends after it
      have hdrop : ∀ t,
          (around a (b.take stop) t).drop start = around (a.drop start) (b.take stop) t :=
        fun t => List.drop_append_of_le_length hstart
      rw [moved_of_le hstart, hdrop, hdrop, trim_around, trim_around]
      exact .inside ((trimStart_isSuffix _).trans (List.drop_suffix _ _))
        ((trimEnd_isPrefix _).trans (List.take_prefix _ _))
    · rw [moved_add, drop_around, drop_around]
      exact .same _

end

end Token

/-! ## The control of the line -/

namespace LineControl

/-- **The search for a condition looks at tokens,** and takes their places only to cut it out. -/
lemma predicate?_relocate (text text' : List Char) (g : Nat → Nat) (lexemes : List Lexeme)
    (place : Nat) :
    (predicate? text lexemes place = none ∧
      predicate? text' (lexemes.map (Lexeme.relocate g)) place = none) ∨
    ∃ opening ∈ lexemes, ∃ next ∈ lexemes,
      predicate? text lexemes place = some (Token.slice text opening.stop next.start) ∧
      predicate? text' (lexemes.map (Lexeme.relocate g)) place =
        some (Token.slice text' (g opening.stop) (g next.start)) := by
  simp only [predicate?, ← List.map_drop, ← List.map_take, ← List.map_reverse, List.takeWhile_map,
    List.dropWhile_map, Function.comp_def, Lexeme.relocate]
  cases hdrop : lexemes.drop place with
  | nil => exact .inl ⟨rfl, rfl⟩
  | cons jump rest =>
      have hjump : jump ∈ lexemes := List.mem_of_mem_drop (by rw [hdrop]; exact List.mem_cons_self)
      have hclause : ∀ l ∈ (lexemes.take place).reverse.takeWhile fun l => !endsClause l.token,
          l ∈ lexemes := by
        intro l hl
        exact List.mem_of_mem_take (List.mem_reverse.mp ((List.takeWhile_sublist _).subset hl))
      simp only [List.map_cons]
      generalize (lexemes.take place).reverse.takeWhile (fun l => !endsClause l.token) = clause at *
      cases hopening : clause.dropWhile fun l => !isIf l.token with
      | nil => exact .inl ⟨rfl, rfl⟩
      | cons opening before =>
          have hmem : opening ∈ clause :=
            (List.dropWhile_sublist _).subset (by rw [hopening]; exact List.mem_cons_self)
          have hlinks : ∀ l ∈ (clause.takeWhile fun l => !isIf l.token).takeWhile
              fun l => isLink l.token, l ∈ lexemes := by
            intro l hl
            have hbetween := (List.takeWhile_sublist _).subset hl
            exact hclause l ((List.takeWhile_sublist _).subset hbetween)
          simp only [List.map_cons, List.getLast?_map]
          generalize (clause.takeWhile fun l => !isIf l.token).takeWhile
            (fun l => isLink l.token) = links at hlinks ⊢
          cases hlast : links.getLast? with
          | none => exact .inr ⟨opening, hclause opening hmem, jump, hjump, rfl, rfl⟩
          | some link =>
              exact .inr ⟨opening, hclause opening hmem, link,
                hlinks link (List.mem_of_getLast? hlast), rfl, rfl⟩

end LineControl

/-- **The same control,** but for what the quoted text says in a predicate. -/
def Control.Requoted (a b s s' : List Char) : Control → Control → Prop
  | .branch target predicate, .branch target' predicate' =>
      target' = target ∧ Token.Requoted a b s s' predicate.toList predicate'.toList
  | control, control' => control' = control

lemma Control.Requoted.refl (a b s s' : List Char) (control : Control) :
    Requoted a b s s' control control := by
  cases control with
  | branch target predicate => exact ⟨rfl, .same _⟩
  | _ => exact rfl

namespace LineControl

/-- **Two lines are read alike:** both have the same fault, or both have a control, with the same
handler and the same transfer but for what the quoted text says in a predicate. -/
inductive ReadAlike (a b s s' : List Char) :
    Except ControlError LineControl → Except ControlError LineControl → Prop
  | fault (e : ControlError) : ReadAlike a b s s' (.error e) (.error e)
  | control {c c' : LineControl} (hnumber : c'.number = c.number)
      (hhandler : c'.handler = c.handler)
      (hcontrol : Control.Requoted a b s s' c.control c'.control) :
      ReadAlike a b s s' (.ok c) (.ok c')

lemma ReadAlike.refl (a b s s' : List Char) (read : Except ControlError LineControl) :
    ReadAlike a b s s' read read := by
  cases read with
  | error e => exact .fault e
  | ok c => exact .control rfl rfl (.refl a b s s' c.control)

end LineControl

namespace Line

/-- **Two lines that differ in a quoted text alone:** the one says `s` there, the other `s'`. -/
structure DifferInQuotes (a b s s' : List Char) (line line' : Line) : Prop where
  number_eq : line'.number = line.number
  text_eq : line.text.toList = Token.around a b s
  text_eq' : line'.text.toList = Token.around a b s'
  closed : Token.quoteOpen false a = false
  plain : Token.IsPlain s
  plain' : Token.IsPlain s'

namespace DifferInQuotes

variable {a b s s' : List Char} {line line' : Line}

lemma outline_lexemes (h : DifferInQuotes a b s s' line line') :
    line'.lexemes.map Lexeme.outline =
      (line.lexemes.map Lexeme.outline).map (Lexeme.relocate (Token.moved a s s')) := by
  rw [Line.outline_lexemes, Line.outline_lexemes, h.text_eq, h.text_eq',
    Token.outline_around h.closed h.plain h.plain', List.filter_map]
  rfl

lemma cues_eq (h : DifferInQuotes a b s s' line line') : line'.cues = line.cues := by
  rw [cues_eq_scan_outline, cues_eq_scan_outline, h.outline_lexemes, List.map_map]
  rfl

lemma outside (h : DifferInQuotes a b s s' line line') {l : Lexeme}
    (hl : l ∈ line.lexemes.map Lexeme.outline) :
    Token.Outside a s l.start ∧ Token.Outside a s l.stop := by
  obtain ⟨found, hfound, rfl⟩ := List.mem_map.mp hl
  have hscan := (List.mem_filter.mp hfound).1
  rw [h.text_eq] at hscan
  have hplaces := Token.outside_of_mem h.closed h.plain hscan
  exact hplaces

/-- **The conditions of both lines** are found together, and are the same piece of the line. -/
lemma predicate?_requoted (h : DifferInQuotes a b s s' line line') (place : Nat) :
    Option.Rel (Token.Requoted a b s s')
      (LineControl.predicate? line.text.toList line.lexemes place)
      (LineControl.predicate? line'.text.toList line'.lexemes place) := by
  rw [← LineControl.predicate?_outline _ line.lexemes,
    ← LineControl.predicate?_outline _ line'.lexemes, h.outline_lexemes, h.text_eq, h.text_eq']
  rcases LineControl.predicate?_relocate (Token.around a b s) (Token.around a b s')
      (Token.moved a s s') (line.lexemes.map Lexeme.outline) place with
    ⟨hnone, hnone'⟩ | ⟨opening, hopening, next, hnext, hsome, hsome'⟩
  · rw [hnone, hnone']
    exact .none
  · rw [hsome, hsome']
    exact .some (Token.slice_around (h.outside hopening).2 (h.outside hnext).1)

open LineControl in
lemma ofCue_readAlike (h : DifferInQuotes a b s s' line line') (cue : Cue) :
    ReadAlike a b s s' (ofCue line.number line.text.toList line.lexemes cue)
      (ofCue line'.number line'.text.toList line'.lexemes cue) := by
  rw [h.number_eq]
  cases cue with
  | handler n => exact .refl _ _ _ _ _
  | call n => exact .refl _ _ _ _ _
  | ret => exact .refl _ _ _ _ _
  | jump n place =>
      have hpredicate := h.predicate?_requoted place
      simp only [LineControl.ofCue]
      generalize LineControl.predicate? line.text.toList line.lexemes place = found at hpredicate ⊢
      generalize LineControl.predicate? line'.text.toList line'.lexemes place = found'
        at hpredicate ⊢
      cases hpredicate with
      | none => exact .refl _ _ _ _ _
      | some hrequoted =>
          simp only
          cases lineTarget line.number n .branch with
          | error e => exact .fault e
          | ok target => exact .control rfl rfl ⟨rfl, by simpa using hrequoted⟩

end DifferInQuotes

end Line

namespace LineControl

/-- **What a quoted text says does not matter.**  A line whose quoted text after `a` says `s` is
read like the line where it says `s'`, if `a` leaves no quote open and neither `s` nor `s'` has a
quote or a backslash in it. -/
theorem quotes_opaque (number : LineNumber) (hint : Option String) {a s s' : String} (b : String)
    (ha : Token.quoteOpen false a.toList = false) (hs : Token.IsPlain s.toList)
    (hs' : Token.IsPlain s'.toList) :
    ReadAlike a.toList b.toList s.toList s'.toList
      (ofLine ⟨number, hint, a ++ "\"" ++ s ++ "\"" ++ b⟩)
      (ofLine ⟨number, hint, a ++ "\"" ++ s' ++ "\"" ++ b⟩) := by
  have hlines : Line.DifferInQuotes a.toList b.toList s.toList s'.toList
      ⟨number, hint, a ++ "\"" ++ s ++ "\"" ++ b⟩ ⟨number, hint, a ++ "\"" ++ s' ++ "\"" ++ b⟩ :=
    ⟨rfl, by simp [Token.around], by simp [Token.around], ha, hs, hs'⟩
  rw [ofLine_eq, ofLine_eq, hlines.cues_eq]
  split
  · exact .refl _ _ _ _ _
  · exact hlines.ofCue_readAlike _
  · exact .refl _ _ _ _ _

/-- A quoted text that spells a jump and a condition of its own, against an empty one. -/
theorem quotes_opaque_spelledJump :
    Token.quoteOpen false "if the key ".toList = false ∧ Token.IsPlain "then. if x goto 5".toList ∧
    ofLine ⟨10, none, "if the key \"then. if x goto 5\" is set, then goto 90"⟩ =
      .ok ⟨10, .branch 90 "the key \"then. if x goto 5\" is set", none⟩ ∧
    ofLine ⟨10, none, "if the key \"\" is set, then goto 90"⟩ =
      .ok ⟨10, .branch 90 "the key \"\" is set", none⟩ ∧
    ReadAlike "if the key ".toList " is set, then goto 90".toList "then. if x goto 5".toList
      "".toList
      (ofLine ⟨10, none, "if the key \"then. if x goto 5\" is set, then goto 90"⟩)
      (ofLine ⟨10, none, "if the key \"\" is set, then goto 90"⟩) := by
  refine ⟨by decide +kernel, by decide +kernel, by decide +kernel, by decide +kernel, ?_⟩
  exact quotes_opaque 10 none " is set, then goto 90" (by decide +kernel) (by decide +kernel)
    (by decide +kernel)

end LineControl

end NumberedProse
