import Mathlib.Tactic.Common
import NumberedProse.Assembly.Artifact

/-!
# The size of what is read

Bytes that nobody wrote may spell numbers with idle zeros, declare lengths of any size and go on
after the end.  Whatever they are, the assembly read from them has an artifact that is no longer.

**Frugal codecs.**  A value takes at least one byte, and when it is written again, it takes no more
bytes than were read (`Codec.Frugal`).  Numbers have this because the shortest spelling is written,
composite values have it from their parts.

**Lists.**  The items of a list are read one after the other, as many as were declared.  Each of
them takes a byte, so a list that declares more items than there are bytes left fails at the latest
when the bytes are used up: the loop makes the same turns for all such lengths
(`Codec.EndsWithBytes`).
-/

namespace NumberedProse

lemma exists_of_bind_eq_ok {ε α β : Type} {x : Except ε α} {next : α → Except ε β} {b : β}
    (h : x >>= next = .ok b) : ∃ a, x = .ok a ∧ next a = .ok b := by
  cases x with
  | error e => cases h
  | ok a => exact ⟨a, rfl, h⟩

namespace Codec

variable {α β : Type}

/-- **A value takes a byte at least, and no more bytes than it was read from.** -/
structure Frugal (codec : Codec α) : Prop where
  pos : ∀ a, 0 < (codec.write a).length
  spare : ∀ {bytes a rest}, codec.read bytes = .ok (a, rest) →
    (codec.write a).length + rest.length ≤ bytes.length

/-- **A list ends with the bytes:** whatever length it declares, no more items are tried than there
are bytes, and one. -/
def EndsWithBytes (item : Codec α) : Prop :=
  ∀ declared bytes,
    readItems item declared bytes = readItems item (min declared (bytes.length + 1)) bytes

variable {first : Codec α} {second : Codec β} {item : Codec α}

lemma Frugal.lt (h : item.Frugal) {bytes rest : List UInt8} {a : α}
    (hread : item.read bytes = .ok (a, rest)) : rest.length < bytes.length := by
  have hpos := h.pos a
  have hspare := h.spare hread
  omega

/-! ## Numbers -/

lemma length_writeVarint (n : Nat) :
    (writeVarint n).length = if n < 128 then 1 else (writeVarint (n / 128)).length + 1 := by
  rw [writeVarint]
  split <;> rfl

lemma length_writeVarint_pos (n : Nat) : 0 < (writeVarint n).length := by
  rw [length_writeVarint]
  split <;> omega

lemma length_writeVarint_mono {m n : Nat} (h : m ≤ n) :
    (writeVarint m).length ≤ (writeVarint n).length := by
  induction n using Nat.strongRecOn generalizing m with
  | ind n ih =>
      rw [length_writeVarint m, length_writeVarint n]
      by_cases hm : m < 128
      · rw [if_pos hm]
        split <;> omega
      · have hhigh := ih (n / 128) (by omega) (Nat.div_le_div_right h : m / 128 ≤ n / 128)
        rw [if_neg hm, if_neg (by omega)]
        omega

/-- The shortest spelling of a number is no longer than the one that was read. -/
theorem spare_readVarint {most room n : Nat} {bytes rest : List UInt8}
    (h : readVarint most room bytes = .ok (n, rest)) :
    (writeVarint n).length + rest.length ≤ bytes.length := by
  induction room generalizing bytes n with
  | zero => cases h
  | succ room ih =>
      cases bytes with
      | nil => cases h
      | cons byte bytes =>
          simp only [readVarint] at h
          split at h
          · next hlast =>
              split at h
              · cases h
              · cases h
                rw [length_writeVarint, if_pos hlast, List.length_cons]
                omega
          · next hmore =>
              cases hhigh : readVarint most room bytes with
              | error e =>
                  rw [hhigh] at h
                  cases h
              | ok found =>
                  obtain ⟨high, rest'⟩ := found
                  rw [hhigh] at h
                  cases h
                  -- The byte holds the lowest seven bits, and what follows it spells the others.
                  have hspare := ih hhigh
                  have hbyte := byte.toNat_lt
                  have hdigit : (byte.toNat - 128 + 128 * high) / 128 = high := by omega
                  have hpos := length_writeVarint_pos high
                  rw [length_writeVarint, hdigit, List.length_cons]
                  split <;> omega

lemma frugal_length : length.Frugal := ⟨length_writeVarint_pos, spare_readVarint⟩

lemma frugal_word : word.Frugal where
  pos n := length_writeVarint_pos n.toNat
  spare {bytes n rest} h := by
    simp only [word] at h
    cases hread : readVarint 0x0f 5 bytes with
    | error e =>
        rw [hread] at h
        cases h
    | ok found =>
        rw [hread] at h
        cases h
        have hspare := spare_readVarint hread
        have hle : (UInt32.ofNat found.1).toNat ≤ found.1 := by
          rw [UInt32.toNat_ofNat']
          exact Nat.mod_le _ _
        exact Nat.le_trans (Nat.add_le_add_right (length_writeVarint_mono hle) _) hspare

/-- A tag takes one byte. -/
lemma length_write_tag {tag : UInt32} (h : tag.toNat < 128) : (word.write tag).length = 1 := by
  simp only [word]
  rw [length_writeVarint, if_pos h]

/-! ## Texts -/

lemma length_takeBytes {n : Nat} {bytes taken rest : List UInt8}
    (h : takeBytes n bytes = .ok (taken, rest)) :
    taken.length = n ∧ taken.length + rest.length = bytes.length := by
  induction n generalizing bytes taken with
  | zero =>
      cases h
      simp
  | succ n ih =>
      cases bytes with
      | nil => cases h
      | cons byte bytes =>
          simp only [takeBytes] at h
          cases htaken : takeBytes n bytes with
          | error e =>
              rw [htaken] at h
              cases h
          | ok found =>
              rw [htaken] at h
              cases h
              obtain ⟨hcount, hsum⟩ := ih htaken
              simp only [List.length_cons]
              omega

lemma toUTF8_of_decodeText {bytes : List UInt8} {s : String} (h : decodeText bytes = .ok s) :
    s.toUTF8.data.toList = bytes := by
  simp only [decodeText, String.fromUTF8?] at h
  split at h
  · next found hfound =>
      cases h
      obtain ⟨hvalid, hsome⟩ := Option.dite_none_right_eq_some.mp hfound
      cases hsome
      rfl
  · cases h

lemma frugal_text : text.Frugal where
  pos s := by
    have hpos := frugal_length.pos s.toUTF8.size
    simp only [text, List.length_append]
    omega
  spare {bytes s rest} h := by
    obtain ⟨⟨count, body⟩, hcount, h⟩ := exists_of_bind_eq_ok h
    obtain ⟨⟨taken, after⟩, htaken, h⟩ := exists_of_bind_eq_ok h
    obtain ⟨found, hfound, h⟩ := exists_of_bind_eq_ok h
    cases h
    have hspare := frugal_length.spare hcount
    obtain ⟨hlength, hsum⟩ := length_takeBytes htaken
    have hbytes := toUTF8_of_decodeText hfound
    have hsize : s.toUTF8.size = count := by
      rw [← hlength, ← hbytes]
      rfl
    simp only [text, List.length_append]
    rw [hsize, hbytes]
    omega

/-! ## Composite values -/

lemma Frugal.option (h : item.Frugal) : (option item).Frugal where
  pos value := by
    cases value <;> simp [Codec.option]
  spare {bytes value rest} hread := by
    cases bytes with
    | nil => cases hread
    | cons byte bytes =>
        simp only [Codec.option] at hread
        split at hread
        · cases hread
          simp [Codec.option, Nat.add_comm]
        · split at hread
          · obtain ⟨⟨a, after⟩, ha, hread⟩ := exists_of_bind_eq_ok hread
            cases hread
            have hspare := h.spare ha
            simp only [Codec.option, List.length_cons]
            omega
          · cases hread

lemma Frugal.pair (h : first.Frugal) (h' : second.Frugal) : (pair first second).Frugal where
  pos p := by
    have hpos := h.pos p.1
    simp only [Codec.pair, List.length_append]
    omega
  spare hread := by
    obtain ⟨⟨a, mid⟩, ha, hread⟩ := exists_of_bind_eq_ok hread
    obtain ⟨⟨b, after⟩, hb, hread⟩ := exists_of_bind_eq_ok hread
    cases hread
    have hfirst := h.spare ha
    have hsecond := h'.spare hb
    simp only [Codec.pair, List.length_append]
    omega

lemma Frugal.map (h : item.Frugal) {there : α → β} {back : β → α}
    (hthere : ∀ a, back (there a) = a) : (item.map there back).Frugal where
  pos b := h.pos (back b)
  spare hread := by
    obtain ⟨⟨a, after⟩, ha, hread⟩ := exists_of_bind_eq_ok hread
    cases hread
    simp only [Codec.map, hthere]
    exact h.spare ha

lemma Frugal.readItems (h : item.Frugal) {n : Nat} {bytes rest : List UInt8} {items : List α}
    (hread : readItems item n bytes = .ok (items, rest)) :
    items.length = n ∧ (items.flatMap item.write).length + rest.length ≤ bytes.length := by
  induction n generalizing bytes items with
  | zero =>
      cases hread
      simp
  | succ n ih =>
      obtain ⟨⟨a, mid⟩, ha, hread⟩ := exists_of_bind_eq_ok hread
      obtain ⟨⟨others, after⟩, hothers, hread⟩ := exists_of_bind_eq_ok hread
      cases hread
      have hspare := h.spare ha
      obtain ⟨hcount, hsum⟩ := ih hothers
      simp only [List.flatMap_cons, List.length_cons, List.length_append]
      omega

lemma Frugal.list (h : item.Frugal) : (list item).Frugal where
  pos items := by
    have hpos := frugal_length.pos items.length
    simp only [Codec.list, List.length_append]
    omega
  spare hread := by
    obtain ⟨⟨count, mid⟩, hcount, hread⟩ := exists_of_bind_eq_ok hread
    have hspare := frugal_length.spare hcount
    obtain ⟨rfl, hsum⟩ := h.readItems hread
    simp only [Codec.list, List.length_append]
    omega

/-- Items are tried until the bytes are used up; after that it does not matter how many are left. -/
lemma Frugal.readItems_of_lt (h : item.Frugal) {m n : Nat} {bytes : List UInt8}
    (hlt : bytes.length < n) (hle : n ≤ m) :
    Codec.readItems item m bytes = Codec.readItems item n bytes := by
  induction n generalizing m bytes with
  | zero => omega
  | succ n ih =>
      obtain ⟨m, rfl⟩ : ∃ k, m = k + 1 := ⟨m - 1, by omega⟩
      simp only [Codec.readItems]
      cases ha : item.read bytes with
      | error e => rfl
      | ok found =>
          have hrest := h.lt ha
          have hsame : Codec.readItems item m found.2 = Codec.readItems item n found.2 :=
            ih (by omega) (by omega)
          simp only [bind, Except.bind, hsame]

/-- **Items that take a byte each end with the bytes,** however many are declared. -/
theorem Frugal.endsWithBytes (h : item.Frugal) : item.EndsWithBytes := by
  intro declared bytes
  rcases Nat.le_total declared (bytes.length + 1) with hle | hge
  · rw [Nat.min_eq_left hle]
  · rw [Nat.min_eq_right hge]
    exact h.readItems_of_lt (Nat.lt_succ_self _) hge

/-- The items of a list, and with them the parts of each, are no more than the bytes they take. -/
lemma length_add_flatMap_le {γ : Type} {parts : α → List γ}
    (h : ∀ a, 1 + (parts a).length ≤ (item.write a).length) (items : List α) :
    items.length + (items.flatMap parts).length ≤ (items.flatMap item.write).length := by
  induction items with
  | nil => simp
  | cons a items ih =>
      have ha := h a
      simp only [List.length_cons, List.flatMap_cons, List.length_append]
      omega

lemma Frugal.length_le (h : item.Frugal) (items : List α) :
    items.length ≤ (items.flatMap item.write).length := by
  have hparts : ∀ a, 1 + ([] : List UInt8).length ≤ (item.write a).length := h.pos
  exact Nat.le_trans (Nat.le_add_right _ _) (length_add_flatMap_le hparts items)

end Codec

/-! ## The parts of an assembly -/

open Codec

lemma Mode.frugal_codec : Mode.codec.Frugal where
  pos mode := by
    cases mode <;> exact frugal_word.pos _
  spare {bytes mode rest} h := by
    obtain ⟨⟨tag, after⟩, htag, h⟩ := exists_of_bind_eq_ok h
    have hspent := frugal_word.lt htag
    dsimp only at h
    split at h
    case h_3 => cases h
    all_goals
      cases h
      simp (disch := decide) only [codec, length_write_tag]
      omega

lemma Control.frugal_codec : Control.codec.Frugal where
  pos control := by
    cases control
    all_goals
      simp (disch := decide) only [codec, List.length_append, length_write_tag]
      omega
  spare {bytes control rest} h := by
    obtain ⟨⟨tag, after⟩, htag, h⟩ := exists_of_bind_eq_ok h
    have hspent := frugal_word.lt htag
    dsimp only at h
    -- The cases are the tags in order, and the last one all that are no tag.
    split at h
    case h_1 | h_5 =>
        cases h
        simp (disch := decide) only [codec, length_write_tag]
        omega
    case h_2 | h_4 =>
        obtain ⟨⟨target, last⟩, htarget, h⟩ := exists_of_bind_eq_ok h
        cases h
        have hspare := frugal_word.spare htarget
        simp (disch := decide) only [codec, List.length_append, length_write_tag]
        omega
    case h_3 =>
        obtain ⟨⟨target, middle⟩, htarget, h⟩ := exists_of_bind_eq_ok h
        obtain ⟨⟨predicate, last⟩, hpredicate, h⟩ := exists_of_bind_eq_ok h
        cases h
        have hword := frugal_word.spare htarget
        have htext : (text.write predicate).length + last.length ≤ middle.length :=
          frugal_text.spare hpredicate
        simp (disch := decide) only [codec, List.length_append, length_write_tag]
        omega
    case h_6 => cases h

lemma ResourceUse.frugal_codec : ResourceUse.codec.Frugal where
  pos use := by
    cases use
    all_goals
      simp (disch := decide) only [codec, List.length_append, length_write_tag]
      omega
  spare {bytes use rest} h := by
    obtain ⟨⟨tag, after⟩, htag, h⟩ := exists_of_bind_eq_ok h
    have hspent := frugal_word.lt htag
    dsimp only at h
    split at h
    case h_1 | h_2 =>
        obtain ⟨⟨key, last⟩, hkey, h⟩ := exists_of_bind_eq_ok h
        cases h
        have hspare := frugal_text.spare hkey
        simp (disch := decide) only [codec, List.length_append, length_write_tag]
        omega
    case h_3 =>
        cases h
        simp (disch := decide) only [codec, length_write_tag]
        omega
    case h_4 => cases h

lemma ResourceEntry.frugal_codec : ResourceEntry.codec.Frugal :=
  (frugal_text.pair frugal_word).map fun _ => rfl

lemma Line.frugal_codec : Line.codec.Frugal :=
  (frugal_word.pair (frugal_text.option.pair frugal_text)).map fun _ => rfl

lemma Block.frugal_codec : Block.codec.Frugal :=
  (Line.frugal_codec.pair (Control.frugal_codec.pair (frugal_word.option.pair
    (ResourceUse.frugal_codec.pair frugal_text.list)))).map fun _ => rfl

/-- A block takes a byte for each of its statements, and one for itself. -/
lemma Block.succ_statements_le (block : Block) :
    1 + block.statements.length ≤ (Block.codec.write block).length := by
  have hline := Line.frugal_codec.pos block.line
  have hstatements := frugal_text.length_le block.statements
  simp only [codec, map, pair, list, List.length_append]
  omega

namespace Assembly

lemma frugal_codec : codec.Frugal :=
  (Mode.frugal_codec.pair
    (ResourceEntry.frugal_codec.list.pair Block.frugal_codec.list)).map fun _ => rfl

/-- The resources, blocks and statements of an assembly are no more than the bytes of its
artifact. -/
lemma parts_le (assembly : Assembly) :
    assembly.resources.length + assembly.blocks.size +
      (assembly.blocks.toList.flatMap Block.statements).length ≤ assembly.toBytes.length := by
  have hresources := ResourceEntry.frugal_codec.length_le assembly.resources
  have hblocks := length_add_flatMap_le Block.succ_statements_le assembly.blocks.toList
  rw [Array.length_toList] at hblocks
  simp only [toBytes, codec, map, pair, list, List.length_append]
  omega

/-- **Reading never inflates.**  However long the lists that bytes declare, each ends with the
bytes; and what is read has an artifact that is no longer than the bytes it was read from, so that
all parts of it together are no more than these. -/
theorem decoding_never_inflates (bytes : List UInt8) :
    (ResourceEntry.codec.EndsWithBytes ∧ Block.codec.EndsWithBytes ∧ text.EndsWithBytes) ∧
    ∀ assembly, ofBytes bytes = .ok assembly →
      assembly.toBytes.length ≤ bytes.length ∧
      assembly.resources.length + assembly.blocks.size +
        (assembly.blocks.toList.flatMap Block.statements).length ≤ bytes.length := by
  refine ⟨⟨ResourceEntry.frugal_codec.endsWithBytes, Block.frugal_codec.endsWithBytes,
    frugal_text.endsWithBytes⟩, fun assembly h => ?_⟩
  simp only [ofBytes] at h
  split at h
  · next found rest hread =>
      cases h
      have hspare : assembly.toBytes.length + rest.length ≤ bytes.length :=
        frugal_codec.spare hread
      have hparts := assembly.parts_le
      omega
  · cases h

/-- One block with an empty statement, its mode spelled with an idle zero, and a byte after the
end. -/
def paddedBytes : List UInt8 :=
  [0x81, 0x00, 0x00, 0x01, 0x0a, 0x00, 0x01, 0x61, 0x04, 0x00, 0x02, 0x01, 0x00, 0xff]

/-- Fourteen bytes are read as an assembly that takes twelve.  Before two bytes, a list of a million
resources is read as one of three. -/
theorem decoding_never_inflates_padded :
    (∃ assembly, ofBytes paddedBytes = .ok assembly ∧ assembly.toBytes.length ≤ 14 ∧
      assembly.resources.length + assembly.blocks.size +
        (assembly.blocks.toList.flatMap Block.statements).length ≤ 14) ∧
    readItems ResourceEntry.codec 1000000 [0x00, 0x01] =
      readItems ResourceEntry.codec 3 [0x00, 0x01] := by
  have hread : ofBytes paddedBytes =
      .ok ⟨.dispatch, [], #[⟨⟨10, none, "a"⟩, .ret, none, .unneeded, [""]⟩]⟩ := by
    decide +kernel
  obtain ⟨⟨hentries, -⟩, hsize⟩ := decoding_never_inflates paddedBytes
  exact ⟨⟨_, hread, hsize _ hread⟩, hentries 1000000 [0x00, 0x01]⟩

end Assembly

end NumberedProse
