import Mathlib.Data.List.Infix
import Mathlib.Tactic.Common
import NumberedProse.Proofs.Phrases

/-!
# The cues of a line, place by place

The search for cues goes from left to right and jumps over every phrase that it has found.
`Cue.StandsAt` says of a single place whether a cue stands there, from the tokens around that place
and from nothing else.  The search finds the cues that stand somewhere, in the order of their
places, each of them once (`Cue.scan_exact`).

**Inside a phrase.**  No cue stands at an inner token of a phrase (`Cue.not_standsAt_inside`): these
are numbers and words that begin nothing, and the jump of an `on error` phrase is not a jump of its
own.

**The search.**  `Cue.Reached` holds of every place that the search comes to: no cue stands among
the tokens that it is about to skip, and every earlier cue ends with them.  At a place where nothing
is skipped, a jump right after `on error` would be part of an earlier cue that has not ended, so
what begins there is a cue that stands there.
-/

namespace NumberedProse.Cue

/-! ## Where a cue stands -/

/-- A jump phrase that names `n` begins at place `i`. -/
def JumpAt (tokens : List Token) (i n : Nat) : Prop :=
  ∃ words ∈ jumpWords, phrase words n <+: tokens.drop i

/-- The two tokens before place `i` are `on error`. -/
def AfterOnError (tokens : List Token) (i : Nat) : Prop :=
  ∃ j, i = j + 2 ∧ tokens[j]? = some (.keyword .on) ∧ tokens[j + 1]? = some (.keyword .error)

/-- **A cue stands at a place.** -/
inductive StandsAt (tokens : List Token) : Nat → Cue → Prop
  /-- `on error` with a jump phrase after it. -/
  | handler {i n : Nat} (hon : tokens[i]? = some (.keyword .on))
      (herror : tokens[i + 1]? = some (.keyword .error)) (hjump : JumpAt tokens (i + 2) n) :
      StandsAt tokens i (.handler n)
  /-- A jump phrase without `on error` before it. -/
  | jump {i n : Nat} (hjump : JumpAt tokens i n) (hfree : ¬AfterOnError tokens i) :
      StandsAt tokens i (.jump n i)
  /-- `call` or `gosub` with a number after it. -/
  | call {i n : Nat}
      (hword : tokens[i]? = some (.keyword .call) ∨ tokens[i]? = some (.keyword .gosub))
      (hnumber : tokens[i + 1]? = some (.integer n)) : StandsAt tokens i (.call n)
  /-- `return`, all other tokens being marks. -/
  | ret {i : Nat} (hword : tokens[i]? = some (.keyword .return_))
      (halone : tokens.filter (fun token => !token.isPunct) = [.keyword .return_]) :
      StandsAt tokens i .ret

variable {tokens : List Token} {i : Nat} {cue : Cue}

lemma cons_prefix_drop {token : Token} {words : List Token} :
    token :: words <+: tokens.drop i ↔ tokens[i]? = some token ∧ words <+: tokens.drop (i + 1) := by
  by_cases h : i < tokens.length
  · rw [List.drop_eq_getElem_cons h, List.cons_prefix_cons, List.getElem?_eq_getElem h,
      Option.some.injEq, eq_comm]
  · have hlength : tokens.length ≤ i := Nat.le_of_not_lt h
    simp [List.drop_eq_nil_of_le hlength, List.getElem?_eq_none hlength]

lemma isBareReturn_iff : isBareReturn tokens = true ↔
    tokens.filter (fun token => !token.isPunct) = [.keyword .return_] := by
  rw [isBareReturn, beq_iff_eq]

/-- **A cue stands where one of its phrases does,** but for the jump of an `on error` phrase. -/
lemma standsAt_iff : StandsAt tokens i cue ↔
    (∃ words ∈ cue.spellings (isBareReturn tokens), words <+: tokens.drop i) ∧
      ∀ n k, cue = .jump n k → k = i ∧ ¬AfterOnError tokens i := by
  constructor
  · intro h
    cases h with
    | handler hon herror hjump =>
        obtain ⟨words, hwords, hphrase⟩ := hjump
        refine ⟨⟨_, List.mem_map_of_mem hwords, ?_⟩, by simp⟩
        exact cons_prefix_drop.mpr ⟨hon, cons_prefix_drop.mpr ⟨herror, hphrase⟩⟩
    | jump hjump hfree =>
        obtain ⟨words, hwords, hphrase⟩ := hjump
        refine ⟨⟨_, List.mem_map_of_mem hwords, hphrase⟩, ?_⟩
        rintro n k ⟨⟩
        exact ⟨rfl, hfree⟩
    | call hword hnumber =>
        refine ⟨?_, by simp⟩
        have hrest := cons_prefix_drop.mpr ⟨hnumber, List.nil_prefix⟩
        rcases hword with hword | hword
        · exact ⟨_, List.mem_cons_self, cons_prefix_drop.mpr ⟨hword, hrest⟩⟩
        · exact ⟨_, List.mem_cons_of_mem _ List.mem_cons_self,
            cons_prefix_drop.mpr ⟨hword, hrest⟩⟩
    | ret hword halone =>
        refine ⟨⟨[.keyword .return_], ?_, cons_prefix_drop.mpr ⟨hword, List.nil_prefix⟩⟩, by simp⟩
        simp [spellings, isBareReturn_iff.mpr halone]
  · rintro ⟨⟨words, hwords, hphrase⟩, hjump⟩
    cases cue with
    | handler n =>
        obtain ⟨ks, hks, rfl⟩ := List.mem_map.mp hwords
        obtain ⟨hon, hphrase⟩ := cons_prefix_drop.mp hphrase
        obtain ⟨herror, hphrase⟩ := cons_prefix_drop.mp hphrase
        exact .handler hon herror ⟨ks, hks, hphrase⟩
    | jump n k =>
        obtain ⟨ks, hks, rfl⟩ := List.mem_map.mp hwords
        obtain ⟨rfl, hfree⟩ := hjump n k rfl
        exact .jump ⟨ks, hks, hphrase⟩ hfree
    | call n =>
        simp only [spellings, List.mem_cons, List.not_mem_nil, or_false] at hwords
        rcases hwords with rfl | rfl
        · obtain ⟨hword, hnumber⟩ := cons_prefix_drop.mp hphrase
          exact .call (.inl hword) (cons_prefix_drop.mp hnumber).1
        · obtain ⟨hword, hnumber⟩ := cons_prefix_drop.mp hphrase
          exact .call (.inr hword) (cons_prefix_drop.mp hnumber).1
    | ret =>
        simp only [spellings] at hwords
        split at hwords
        · next hbare =>
            obtain rfl := List.mem_singleton.mp hwords
            exact .ret (cons_prefix_drop.mp hphrase).1 (isBareReturn_iff.mp hbare)
        · cases hwords

/-- What the search tries at a place finds the cue that stands there, and beyond that only the jump
of an `on error` phrase. -/
lemma standsAt_iff_atHead? : StandsAt tokens i cue ↔
    (∃ width, atHead? (isBareReturn tokens) i (tokens.drop i) = some (cue, width)) ∧
      ∀ n k, cue = .jump n k → ¬AfterOnError tokens i := by
  rw [standsAt_iff]
  constructor
  · rintro ⟨⟨words, hwords, hphrase⟩, hjump⟩
    refine ⟨⟨words.length, atHead?_eq_some_iff.mpr ⟨?_, words, hwords, hphrase, rfl⟩⟩, ?_⟩
    · exact fun n k hcue => (hjump n k hcue).1
    · exact fun n k hcue => (hjump n k hcue).2
  · rintro ⟨⟨width, hhead⟩, hfree⟩
    obtain ⟨hplace, words, hwords, hphrase, -⟩ := atHead?_eq_some_iff.mp hhead
    exact ⟨⟨words, hwords, hphrase⟩, fun n k hcue => ⟨hplace n k hcue, hfree n k hcue⟩⟩

/-! ## Inside a phrase -/

/-- The words that begin a jump phrase. -/
def jumpStarters : List Keyword := [.goto, .go, .jump]

/-- A cue stands only at a word that can begin one. -/
lemma StandsAt.keyword (h : StandsAt tokens i cue) :
    ∃ k, tokens[i]? = some (.keyword k) ∧
      (k ∈ [Keyword.on, .call, .gosub, .return_] ∨ k ∈ jumpStarters ∧ ¬AfterOnError tokens i) := by
  cases h with
  | handler hon _ _ => exact ⟨_, hon, by simp⟩
  | jump hjump hfree =>
      obtain ⟨words, hwords, hphrase⟩ := hjump
      simp only [jumpWords, List.mem_cons, List.not_mem_nil, or_false] at hwords
      rcases hwords with rfl | rfl | rfl | rfl
      all_goals exact ⟨_, (cons_prefix_drop.mp hphrase).1, .inr ⟨by simp [jumpStarters], hfree⟩⟩
  | call hword _ =>
      rcases hword with hword | hword
      · exact ⟨_, hword, by simp⟩
      · exact ⟨_, hword, by simp⟩
  | ret hword _ => exact ⟨_, hword, by simp⟩

/-- The inner words of a phrase: words that begin nothing, and the jump after `on error`. -/
lemma inner_keyword {bare : Bool} {words : List Token} (hwords : words ∈ cue.spellings bare)
    {j : Nat} (hj : 0 < j) {k : Keyword} (hk : words[j]? = some (.keyword k)) :
    k ∈ [Keyword.to_, .line, .error] ∨
      k ∈ jumpStarters ∧ j = 2 ∧ [.keyword .on, .keyword .error] <+: words := by
  obtain ⟨j, rfl⟩ := Nat.exists_eq_add_of_lt hj
  cases cue with
  | jump n place =>
      simp only [spellings, jumpWords, List.map_cons, List.map_nil, List.mem_cons,
        List.not_mem_nil, or_false] at hwords
      rcases hwords with rfl | rfl | rfl | rfl <;>
        rcases j with _ | _ | _ | j <;> simp_all [phrase]
  | handler n =>
      simp only [spellings, jumpWords, List.map_cons, List.map_nil, List.mem_cons,
        List.not_mem_nil, or_false] at hwords
      rcases hwords with rfl | rfl | rfl | rfl <;>
        rcases j with _ | _ | _ | _ | _ | j <;> simp_all [phrase, jumpStarters]
  | call n =>
      simp only [spellings, List.mem_cons, List.not_mem_nil, or_false] at hwords
      rcases hwords with rfl | rfl <;> rcases j with _ | j <;> simp_all [phrase]
  | ret =>
      cases bare <;> simp_all [spellings]

lemma getElem?_of_prefix_drop {words : List Token} (h : words <+: tokens.drop i) {j : Nat}
    (hj : j < words.length) : tokens[i + j]? = words[j]? := by
  obtain ⟨rest, hrest⟩ := h
  rw [← List.getElem?_drop, ← hrest, List.getElem?_append_left hj]

/-- **No cue stands inside a phrase.** -/
lemma not_standsAt_inside {bare : Bool} {words : List Token} (hwords : words ∈ cue.spellings bare)
    (hphrase : words <+: tokens.drop i) {j : Nat} (hj : 0 < j) (hlt : j < words.length)
    (inner : Cue) : ¬StandsAt tokens (i + j) inner := by
  intro hstands
  obtain ⟨k, htoken, hstarts⟩ := hstands.keyword
  rw [getElem?_of_prefix_drop hphrase hlt] at htoken
  rcases inner_keyword hwords hj htoken with hk | ⟨hk, rfl, honError⟩
  · simp only [List.mem_cons, List.not_mem_nil, or_false] at hk
    rcases hk with rfl | rfl | rfl <;> simp [jumpStarters] at hstarts
  · obtain ⟨hon, hrest⟩ := cons_prefix_drop.mp (honError.trans hphrase)
    have herror := (cons_prefix_drop.mp hrest).1
    rcases hstarts with hother | ⟨-, hfree⟩
    · simp only [jumpStarters, List.mem_cons, List.not_mem_nil, or_false] at hk
      rcases hk with rfl | rfl | rfl <;> simp at hother
    · exact hfree ⟨i, rfl, hon, herror⟩

/-! ## The search -/

/-- **What holds where the search comes to:** it is about to skip tokens at which no cue stands, and
the cues before have ended when it has skipped them. -/
structure Reached (tokens : List Token) (i skip : Nat) : Prop where
  inside : ∀ j, i ≤ j → j < i + skip → ∀ cue, ¬StandsAt tokens j cue
  ended : ∀ j < i, ∀ cue width, StandsAt tokens j cue →
    atHead? (isBareReturn tokens) j (tokens.drop j) = some (cue, width) → j + width ≤ i + skip

namespace Reached

variable {skip width : Nat}

lemma start (tokens : List Token) : Reached tokens 0 0 :=
  ⟨fun _ _ hlt => absurd hlt (by omega), fun _ hlt => absurd hlt (by omega)⟩

lemma next_of_skip (h : Reached tokens i (skip + 1)) : Reached tokens (i + 1) skip where
  inside j hle hlt := h.inside j (by omega) (by omega)
  ended j hlt cue width hstands hhead := by
    rcases Nat.lt_succ_iff_lt_or_eq.mp hlt with hlt | rfl
    · have hended := h.ended j hlt cue width hstands hhead
      omega
    · exact absurd hstands (h.inside j (by omega) (by omega) cue)

lemma next_of_none (h : Reached tokens i 0)
    (hnone : atHead? (isBareReturn tokens) i (tokens.drop i) = none) :
    Reached tokens (i + 1) 0 where
  inside j hle hlt := absurd hlt (by omega)
  ended j hlt cue width hstands hhead := by
    rcases Nat.lt_succ_iff_lt_or_eq.mp hlt with hlt | rfl
    · have hended := h.ended j hlt cue width hstands hhead
      omega
    · rw [hnone] at hhead
      cases hhead

lemma next_of_some (h : Reached tokens i 0)
    (hsome : atHead? (isBareReturn tokens) i (tokens.drop i) = some (cue, width)) :
    Reached tokens (i + 1) (width - 1) where
  inside j hle hlt other := by
    obtain ⟨-, words, hwords, hphrase, rfl⟩ := atHead?_eq_some_iff.mp hsome
    obtain ⟨k, rfl⟩ := Nat.exists_eq_add_of_le (show i ≤ j by omega)
    exact not_standsAt_inside hwords hphrase (by omega) (by omega) other
  ended j hlt other width' hstands hhead := by
    rcases Nat.lt_succ_iff_lt_or_eq.mp hlt with hlt | rfl
    · have hended := h.ended j hlt other width' hstands hhead
      omega
    · rw [hsome] at hhead
      cases hhead
      omega

/-- **Where nothing is skipped, what begins stands there:** a jump after `on error` would belong to
a cue that has not ended. -/
lemma standsAt_iff (h : Reached tokens i 0) : StandsAt tokens i cue ↔
    ∃ width, atHead? (isBareReturn tokens) i (tokens.drop i) = some (cue, width) := by
  rw [standsAt_iff_atHead?, and_iff_left_iff_imp]
  rintro ⟨width, hsome⟩ n k rfl ⟨j, rfl, hon, herror⟩
  obtain ⟨-, _, hspelled, hphrase, -⟩ := atHead?_eq_some_iff.mp hsome
  obtain ⟨words, hwords, rfl⟩ := List.mem_map.mp hspelled
  have hhandler : StandsAt tokens j (.handler n) := .handler hon herror ⟨words, hwords, hphrase⟩
  obtain ⟨⟨width, hhead⟩, -⟩ := standsAt_iff_atHead?.mp hhandler
  have hended := h.ended j (by omega) _ _ hhandler hhead
  obtain ⟨-, _, hspelled, -, rfl⟩ := atHead?_eq_some_iff.mp hhead
  obtain ⟨words, -, rfl⟩ := List.mem_map.mp hspelled
  simp [phrase] at hended

end Reached

/-- The cues that stand at place `i` or later, each with its place, in the order of places. -/
structure Lists (tokens : List Token) (i : Nat) (found : List (Nat × Cue)) : Prop where
  sorted : (found.map Prod.fst).Pairwise (· < ·)
  mem_iff : ∀ j cue, (j, cue) ∈ found ↔ i ≤ j ∧ StandsAt tokens j cue

namespace Lists

variable {found : List (Nat × Cue)}

lemma of_length_le (h : tokens.length ≤ i) : Lists tokens i [] where
  sorted := List.Pairwise.nil
  mem_iff j cue := by
    refine ⟨by simp, ?_⟩
    rintro ⟨hle, hstands⟩
    obtain ⟨k, hk, -⟩ := hstands.keyword
    have hlt := (List.getElem?_eq_some_iff.mp hk).1
    omega

lemma of_not_standsAt (h : Lists tokens (i + 1) found) (hnone : ∀ cue, ¬StandsAt tokens i cue) :
    Lists tokens i found where
  sorted := h.sorted
  mem_iff j cue := by
    rw [h.mem_iff]
    refine and_congr_left fun hstands => ⟨fun hle => by omega, fun hle => ?_⟩
    rcases Nat.eq_or_lt_of_le hle with rfl | hlt
    · exact absurd hstands (hnone cue)
    · exact hlt

lemma cons {first : Cue} (h : Lists tokens (i + 1) found)
    (hfirst : ∀ cue, StandsAt tokens i cue ↔ cue = first) :
    Lists tokens i ((i, first) :: found) where
  sorted := by
    rw [List.map_cons, List.pairwise_cons]
    refine ⟨?_, h.sorted⟩
    intro j hj
    obtain ⟨⟨j, cue⟩, hfound, rfl⟩ := List.mem_map.mp hj
    exact ((h.mem_iff j cue).mp hfound).1
  mem_iff j cue := by
    rw [List.mem_cons, Prod.mk.injEq, h.mem_iff]
    constructor
    · rintro (⟨rfl, rfl⟩ | ⟨hle, hstands⟩)
      · exact ⟨Nat.le_refl _, (hfirst _).mpr rfl⟩
      · exact ⟨by omega, hstands⟩
    · rintro ⟨hle, hstands⟩
      rcases Nat.eq_or_lt_of_le hle with rfl | hlt
      · exact .inl ⟨rfl, (hfirst cue).mp hstands⟩
      · exact .inr ⟨hlt, hstands⟩

end Lists

/-- **The search finds what stands** at the place that it has reached or later. -/
lemma exists_lists {skip : Nat} (h : Reached tokens i skip) :
    ∃ found, Lists tokens i found ∧
      found.map Prod.snd = scanFrom (isBareReturn tokens) i skip (tokens.drop i) := by
  generalize hrest : tokens.drop i = rest
  induction rest generalizing i skip with
  | nil => exact ⟨[], .of_length_le (List.drop_eq_nil_iff.mp hrest), by simp [scanFrom]⟩
  | cons token rest ih =>
      have hnext : tokens.drop (i + 1) = rest := by rw [← List.tail_drop, hrest, List.tail_cons]
      cases skip with
      | succ skip =>
          obtain ⟨found, hlists, hcues⟩ := ih h.next_of_skip hnext
          exact ⟨found, hlists.of_not_standsAt (h.inside i (by omega) (by omega)), hcues⟩
      | zero =>
          have hstands : ∀ cue, StandsAt tokens i cue ↔
              ∃ width, atHead? (isBareReturn tokens) i (tokens.drop i) = some (cue, width) :=
            fun _ => h.standsAt_iff
          cases hhead : atHead? (isBareReturn tokens) i (tokens.drop i) with
          | none =>
              obtain ⟨found, hlists, hcues⟩ := ih (h.next_of_none hhead) hnext
              refine ⟨found, hlists.of_not_standsAt fun cue => by simp [hstands, hhead], ?_⟩
              rw [hrest] at hhead
              simp only [scanFrom, hhead, hcues]
          | some result =>
              obtain ⟨first, width⟩ := result
              obtain ⟨found, hlists, hcues⟩ := ih (h.next_of_some hhead) hnext
              refine ⟨(i, first) :: found, hlists.cons fun cue => ?_, ?_⟩
              · simp [hstands, hhead, eq_comm]
              · rw [hrest] at hhead
                simp only [scanFrom, hhead, List.map_cons, hcues]

/-! ## Every cue once -/

lemma mem_scan_iff : cue ∈ scan tokens ↔ ∃ i, StandsAt tokens i cue := by
  obtain ⟨found, hlists, hcues⟩ := exists_lists (.start tokens)
  rw [List.drop_zero] at hcues
  rw [scan, ← hcues, List.mem_map]
  constructor
  · rintro ⟨⟨i, cue⟩, hfound, rfl⟩
    exact ⟨i, ((hlists.mem_iff i cue).mp hfound).2⟩
  · rintro ⟨i, hstands⟩
    exact ⟨(i, cue), (hlists.mem_iff i cue).mpr ⟨Nat.zero_le i, hstands⟩, rfl⟩

lemma scanFrom_of_returns {m place : Nat}
    (h : tokens.filter (fun token => !token.isPunct) = List.replicate m (.keyword .return_)) :
    scanFrom true place 0 tokens = List.replicate m .ret := by
  induction tokens generalizing m place with
  | nil =>
      cases m with
      | zero => rfl
      | succ m => cases h
  | cons token rest ih =>
      cases token with
      | punct mark => exact ih h
      | keyword k =>
          cases m with
          | zero => cases h
          | succ m =>
              obtain ⟨rfl, hrest⟩ : k = .return_ ∧ _ := by
                simpa [List.filter_cons, Token.isPunct, List.replicate_succ] using h
              exact congrArg (Cue.ret :: ·) (ih hrest)
      | _ => cases m <;> cases h

lemma count_ret_scan (tokens : List Token) : (scan tokens).count .ret =
    if tokens.filter (fun token => !token.isPunct) = [.keyword .return_] then 1 else 0 := by
  split
  · next halone =>
      rw [scan, isBareReturn_iff.mpr halone, scanFrom_of_returns (m := 1) halone]
      rfl
  · next halone =>
      rw [List.count_eq_zero, mem_scan_iff]
      rintro ⟨i, hstands⟩
      cases hstands with
      | ret _ h => exact halone h

/-- **The cues of a line are those that stand in it,** in the order of their places and each of them
once.  There is one return if `return` is the only token that is not a mark, and else there is
none. -/
theorem scan_exact (tokens : List Token) :
    (∃ found : List (Nat × Cue), found.map Prod.snd = scan tokens ∧
      (found.map Prod.fst).Pairwise (· < ·) ∧
      ∀ i cue, (i, cue) ∈ found ↔ StandsAt tokens i cue) ∧
    (scan tokens).count .ret =
      if tokens.filter (fun token => !token.isPunct) = [.keyword .return_] then 1 else 0 := by
  obtain ⟨found, hlists, hcues⟩ := exists_lists (.start tokens)
  rw [List.drop_zero] at hcues
  refine ⟨⟨found, hcues, hlists.sorted, fun i cue => ?_⟩, count_ret_scan tokens⟩
  rw [hlists.mem_iff, and_iff_right (Nat.zero_le i)]

-- the first `on error` and the first `go` begin nothing, and the jump after `on error` is no jump
example : scan [.keyword .on, .keyword .error, .keyword .on, .keyword .error, .keyword .goto,
    .integer 5, .keyword .go, .keyword .go, .keyword .to_, .integer 7] =
      [.handler 5, .jump 7 7] := by
  decide

end NumberedProse.Cue
