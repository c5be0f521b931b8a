import Mathlib.Tactic.Common
import NumberedProse.Proofs.RoundTrip

/-!
# Artifacts cut short

An artifact that lost bytes at its end is never taken for another one: reading it finds that the
bytes end too soon, wherever the cut is.

**Answers are final.**  A reader that has its answer does not look at the bytes after it.  So a
value that was read is read again if more bytes follow, and so is an error, unless it says that the
bytes end too soon (`Reader.Steady`).  Readers have this from their parts: numbers and bodies of
texts by induction, all others because readers that follow one another keep it
(`Reader.Steady.bind`).

**Cuts.**  The whole of what was written is read back and nothing is left over.  A value read from
less would be read from the whole as well, with the missing bytes left over; an error other than the
one for missing bytes would be found in the whole (`Codec.Recovers.read_cut`).
-/

namespace NumberedProse

/-- A reader of values, as codecs have them. -/
abbrev Reader (α : Type) := List UInt8 → Except DecodeError (α × List UInt8)

variable {α β : Type}

namespace Reader

/-- **Answers are final,** but for the one that asks for more bytes. -/
structure Steady (read : Reader α) : Prop where
  ok : ∀ {bytes a rest} more, read bytes = .ok (a, rest) →
    read (bytes ++ more) = .ok (a, rest ++ more)
  error : ∀ {bytes e} more, read bytes = .error e → e ≠ .unexpectedEnd →
    read (bytes ++ more) = .error e

lemma steady_ok (a : α) : Steady fun bytes => .ok (a, bytes) where
  ok _ h := by
    cases h
    rfl
  error _ h := nomatch h

lemma steady_error (e : DecodeError) : Steady fun _ => (.error e : Except _ (α × List UInt8)) where
  ok _ h := nomatch h
  error _ h _ := h

/-- A reader that needs a byte is steady if it is for every first byte. -/
lemma steady_of_head {read : Reader α} (hnil : read [] = .error .unexpectedEnd)
    (hcons : ∀ byte, Steady fun rest => read (byte :: rest)) : Steady read where
  ok {bytes a rest} more h := by
    cases bytes with
    | nil =>
        rw [hnil] at h
        cases h
    | cons byte bytes => exact (hcons byte).ok more h
  error {bytes e} more h hmore := by
    cases bytes with
    | nil =>
        rw [hnil] at h
        cases h
        exact absurd rfl hmore
    | cons byte bytes => exact (hcons byte).error more h hmore

/-- **Readers that follow one another are steady together.**  The second one may depend on the value
read first. -/
theorem Steady.bind {first : Reader α} {next : α × List UInt8 → Except DecodeError (β × List UInt8)}
    (h : Steady first) (h' : ∀ a, Steady fun rest => next (a, rest)) :
    Steady fun bytes => first bytes >>= next where
  ok {bytes b rest} more hread := by
    cases hfirst : first bytes with
    | error e =>
        rw [hfirst] at hread
        cases hread
    | ok found =>
        rw [hfirst] at hread
        rw [h.ok more hfirst]
        exact (h' found.1).ok more hread
  error {bytes e} more hread hmore := by
    cases hfirst : first bytes with
    | error e' =>
        rw [hfirst] at hread
        cases hread
        rw [h.error more hfirst hmore]
        rfl
    | ok found =>
        rw [hfirst] at hread
        rw [h.ok more hfirst]
        exact (h' found.1).error more hread hmore

/-- **What a reader makes of bytes that lack an end:** a value and the end left over, a call for
more bytes, or the error that it finds in the whole. -/
lemma Steady.cut_cases {read : Reader α} (h : Steady read) (cut missing : List UInt8) :
    (∃ a rest, read (cut ++ missing) = .ok (a, rest ++ missing)) ∨
      read cut = .error .unexpectedEnd ∨
      ∃ e, read cut = .error e ∧ read (cut ++ missing) = .error e := by
  cases hcut : read cut with
  | ok found => exact Or.inl ⟨found.1, found.2, h.ok missing hcut⟩
  | error e =>
      right
      by_cases hmore : e = .unexpectedEnd
      · exact Or.inl (by rw [hmore])
      · exact Or.inr ⟨e, rfl, h.error missing hcut hmore⟩

end Reader

namespace Codec

open Reader

/-! ## Numbers and texts -/

lemma steady_readVarint (most room : Nat) : Steady (readVarint most room) := by
  induction room with
  | zero => exact steady_error _
  | succ room ih =>
      refine steady_of_head rfl fun byte => ?_
      -- A last byte settles the answer by itself; any other leaves it to the bytes that follow.
      by_cases hlast : byte.toNat < 128
      · by_cases hlarge : (room == 0 && decide (most < byte.toNat)) = true
        · simp only [readVarint, hlast, hlarge, if_true]
          exact steady_error _
        · simp only [readVarint, hlast, hlarge, if_true]
          exact steady_ok _
      · have hmore : (fun rest => readVarint most (room + 1) (byte :: rest)) = fun rest =>
            readVarint most room rest >>= fun found =>
              .ok (byte.toNat - 128 + 128 * found.1, found.2) := by
          funext rest
          simp only [readVarint, hlast, if_false]
          cases readVarint most room rest <;> rfl
        rw [hmore]
        exact ih.bind fun high => steady_ok (byte.toNat - 128 + 128 * high)

lemma steady_word : Steady word.read := by
  have hread : word.read = fun bytes =>
      readVarint 0x0f 5 bytes >>= fun found => .ok (UInt32.ofNat found.1, found.2) := by
    funext bytes
    simp only [word]
    cases readVarint 0x0f 5 bytes <;> rfl
  rw [hread]
  exact (steady_readVarint 0x0f 5).bind fun n => steady_ok (UInt32.ofNat n)

lemma steady_length : Steady length.read := steady_readVarint 0x01 10

lemma steady_takeBytes (n : Nat) : Steady (takeBytes n) := by
  induction n with
  | zero => exact steady_ok []
  | succ n ih =>
      refine steady_of_head rfl fun byte => ?_
      have hmore : (fun rest => takeBytes (n + 1) (byte :: rest)) = fun rest =>
          takeBytes n rest >>= fun found => .ok (byte :: found.1, found.2) := by
        funext rest
        simp only [takeBytes]
        cases takeBytes n rest <;> rfl
      rw [hmore]
      exact ih.bind fun taken => steady_ok (byte :: taken)

lemma steady_text : Steady text.read := by
  refine steady_length.bind fun count => (steady_takeBytes count).bind fun body => ?_
  dsimp only
  cases decodeText body with
  | error e => exact steady_error e
  | ok s => exact steady_ok s

/-! ## Composite values -/

variable {first : Codec α} {second : Codec β} {item : Codec α}

lemma steady_option (h : Steady item.read) : Steady (option item).read := by
  refine steady_of_head rfl fun byte => ?_
  by_cases hnone : byte = 0
  · simp only [option, hnone]
    exact steady_ok none
  · by_cases hsome : byte = 1
    · simp only [option, hsome]
      exact h.bind fun a => steady_ok (some a)
    · simp only [option, beq_iff_eq, hnone, hsome, if_false]
      exact steady_error _

lemma steady_pair (h : Steady first.read) (h' : Steady second.read) :
    Steady (pair first second).read :=
  h.bind fun a => h'.bind fun b => steady_ok (a, b)

lemma steady_readItems (h : Steady item.read) (n : Nat) : Steady (readItems item n) := by
  induction n with
  | zero => exact steady_ok []
  | succ n ih => exact h.bind fun a => ih.bind fun items => steady_ok (a :: items)

lemma steady_list (h : Steady item.read) : Steady (list item).read :=
  steady_length.bind fun count => steady_readItems h count

lemma steady_map (h : Steady item.read) (there : α → β) (back : β → α) :
    Steady (item.map there back).read :=
  h.bind fun a => steady_ok (there a)

/-- **A value cut short** is missed for lack of bytes, if it can be read at all. -/
theorem Recovers.read_cut {codec : Codec α} {Fits : α → Prop} (h : codec.Recovers Fits)
    (hsteady : Steady codec.read) {a : α} {cut : List UInt8} (hcut : cut <+: codec.write a)
    (hproper : cut ≠ codec.write a) :
    (Fits a → codec.read cut = .error .unexpectedEnd) ∧
    (¬ Fits a →
      codec.read cut = .error .unexpectedEnd ∨ codec.read cut = .error .badVarint) := by
  obtain ⟨missing, hwhole⟩ := hcut
  have hmissing : missing ≠ [] := by
    rintro rfl
    exact hproper (by simpa using hwhole)
  have hcases := hsteady.cut_cases cut missing
  rw [hwhole] at hcases
  refine ⟨fun hfits => ?_, fun hlong => ?_⟩
  · have hread := h.read_write a [] hfits
    rw [List.append_nil] at hread
    rcases hcases with ⟨b, rest, hvalue⟩ | hend | ⟨e, -, herror⟩
    · -- Nothing is left over of the whole, so the missing bytes cannot be.
      rw [hread] at hvalue
      simp [hmissing] at hvalue
    · exact hend
    · rw [hread] at herror
      cases herror
  · have hread := h.too_long a [] hlong
    rw [List.append_nil] at hread
    rcases hcases with ⟨b, rest, hvalue⟩ | hend | ⟨e, hcut, herror⟩
    · rw [hread] at hvalue
      cases hvalue
    · exact Or.inl hend
    · rw [hread] at herror
      cases herror
      exact Or.inr hcut

end Codec

/-! ## The parts of an assembly -/

open Reader Codec

lemma Mode.steady_codec : Steady Mode.codec.read := by
  refine steady_word.bind fun tag => ?_
  dsimp only
  match tag.toNat with
  | 0 => exact steady_ok linear
  | 1 => exact steady_ok dispatch
  | _ + 2 => exact steady_error _

lemma Control.steady_codec : Steady Control.codec.read := by
  refine steady_word.bind fun tag => ?_
  dsimp only
  match tag.toNat with
  | 0 => exact steady_ok fallthrough
  | 1 => exact steady_word.bind fun target => steady_ok (jump target)
  | 2 =>
      refine steady_word.bind fun target => ?_
      dsimp only
      exact steady_text.bind fun predicate => steady_ok (branch target predicate)
  | 3 => exact steady_word.bind fun target => steady_ok (call target)
  | 4 => exact steady_ok ret
  | _ + 5 => exact steady_error _

lemma ResourceUse.steady_codec : Steady ResourceUse.codec.read := by
  refine steady_word.bind fun tag => ?_
  dsimp only
  match tag.toNat with
  | 0 => exact steady_text.bind fun key => steady_ok (first key)
  | 1 => exact steady_text.bind fun key => steady_ok (again key)
  | 2 => exact steady_ok unneeded
  | _ + 3 => exact steady_error _

lemma ResourceEntry.steady_codec : Steady ResourceEntry.codec.read :=
  steady_map (steady_pair steady_text steady_word) _ _

lemma Line.steady_codec : Steady Line.codec.read :=
  steady_map (steady_pair steady_word (steady_pair (steady_option steady_text) steady_text)) _ _

lemma Block.steady_codec : Steady Block.codec.read :=
  steady_map (steady_pair Line.steady_codec (steady_pair Control.steady_codec
    (steady_pair (steady_option steady_word)
      (steady_pair ResourceUse.steady_codec (steady_list steady_text))))) _ _

namespace Assembly

lemma steady_codec : Steady codec.read :=
  steady_map (steady_pair Mode.steady_codec
    (steady_pair (steady_list ResourceEntry.steady_codec) (steady_list Block.steady_codec))) _ _

/-- **An artifact that is cut short is refused,** because the bytes end too soon.  This holds of
every assembly whose lengths fit 64 bits; any other may be refused for the length that does not
fit. -/
theorem truncation_detected (assembly : Assembly) {cut : List UInt8}
    (hcut : cut <+: assembly.toBytes) (hproper : cut ≠ assembly.toBytes) :
    (assembly.Fits → ofBytes cut = .error .unexpectedEnd) ∧
    (¬ assembly.Fits →
      ofBytes cut = .error .unexpectedEnd ∨ ofBytes cut = .error .badVarint) := by
  obtain ⟨hfits, hlong⟩ := codec_recovers.read_cut steady_codec hcut hproper
  refine ⟨fun h => ?_, fun h => ?_⟩
  · simp only [ofBytes, hfits h]
  · rcases hlong h with hend | hlarge
    · exact Or.inl (by simp only [ofBytes, hend])
    · exact Or.inr (by simp only [ofBytes, hlarge])

/-- A cut in the middle of a character of a text. -/
theorem truncation_detected_sample :
    sampleAssembly.Fits ∧ sampleAssembly.toBytes.take 23 <+: sampleAssembly.toBytes ∧
    sampleAssembly.toBytes.take 23 ≠ sampleAssembly.toBytes ∧
    ofBytes (sampleAssembly.toBytes.take 23) = .error .unexpectedEnd := by
  have hfits : sampleAssembly.Fits := by
    rw [Fits]
    decide +kernel
  have hproper : sampleAssembly.toBytes.take 23 ≠ sampleAssembly.toBytes := by
    decide +kernel
  exact ⟨hfits, List.take_prefix _ _, hproper,
    (truncation_detected sampleAssembly (List.take_prefix _ _) hproper).1 hfits⟩

end Assembly

end NumberedProse
