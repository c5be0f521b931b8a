import Mathlib.Tactic.Common
import Mathlib.Tactic.Ring
import NumberedProse.Assembly.Artifact

/-!
# Artifacts read back

What is written is read back unchanged, whatever bytes follow it.  The argument goes along the
format, one lemma for each way of putting codecs together.

**What can be written.**  A reader takes numbers of a fixed width only, so a list or a text whose
length does not fit 64 bits has no artifact that could be read.  No memory holds such a value, but
the types here admit it; `Assembly.Fits` rules it out, and nothing else.

**Recovery.**  `Codec.Recovers` says that a codec reads back every value that fits, and that it
finds a number too large in all others.  Numbers have it by an induction on the bytes left to read
(`readVarint_writeVarint`), composite codecs have it from their parts.
-/

namespace NumberedProse

namespace Codec

variable {α β : Type}

/-- **What is written is read back,** up to where it ends, exactly if it fits. -/
structure Recovers (codec : Codec α) (Fits : α → Prop) : Prop where
  read_write : ∀ a rest, Fits a → codec.read (codec.write a ++ rest) = .ok (a, rest)
  too_long : ∀ a rest, ¬ Fits a → codec.read (codec.write a ++ rest) = .error .badVarint

/-! ## Numbers -/

lemma readVarint_last {most room n : Nat} (rest : List UInt8) (h : n < 128) :
    readVarint most (room + 1) (writeVarint n ++ rest) =
      if room = 0 ∧ most < n then .error .badVarint else .ok (n, rest) := by
  have hbyte : (UInt8.ofNat n).toNat = n := UInt8.toNat_ofNat_of_lt' (Nat.lt_trans h (by decide))
  rw [writeVarint, if_pos h]
  simp [readVarint, hbyte, h]

lemma readVarint_more {most room n : Nat} (rest : List UInt8) (h : ¬ n < 128) :
    readVarint most (room + 1) (writeVarint n ++ rest) =
      match readVarint most room (writeVarint (n / 128) ++ rest) with
      | .ok (high, rest) => .ok (n % 128 + 128 * high, rest)
      | .error e => .error e := by
  have hbyte : (UInt8.ofNat (n % 128 + 128)).toNat = n % 128 + 128 :=
    UInt8.toNat_ofNat_of_lt' (Nat.add_lt_add_right (Nat.mod_lt n (by decide)) 128)
  rewrite [writeVarint, if_neg h, List.cons_append, readVarint, hbyte, if_neg (by omega),
    Nat.add_sub_cancel]
  rfl

/-- **A number is read back if it is small enough for the room,** and refused otherwise. -/
theorem readVarint_writeVarint {most : Nat} (hmost : most < 128) (room n : Nat)
    (rest : List UInt8) :
    readVarint most (room + 1) (writeVarint n ++ rest) =
      if n < (most + 1) * 128 ^ room then .ok (n, rest) else .error .badVarint := by
  -- One byte less of room leaves seven bits less of the number.
  induction room generalizing n with
  | zero =>
      by_cases hn : n < 128
      · rw [readVarint_last rest hn]
        by_cases hfits : n ≤ most
        · rw [if_neg (by omega), if_pos (by omega)]
        · rw [if_pos (by omega), if_neg (by omega)]
      · rw [readVarint_more rest hn, if_neg (by omega)]
        rfl
  | succ room ih =>
      have hpow : (most + 1) * 128 ^ (room + 1) = (most + 1) * 128 ^ room * 128 := by ring
      have hpos : 0 < (most + 1) * 128 ^ room := Nat.mul_pos (by omega) (Nat.pow_pos (by omega))
      by_cases hn : n < 128
      · rw [readVarint_last rest hn, if_neg (by omega), if_pos (by omega)]
      · rw [readVarint_more rest hn, ih]
        by_cases hfits : n / 128 < (most + 1) * 128 ^ room
        · rw [if_pos hfits, if_pos (by omega)]
          simp only [Nat.mod_add_div]
        · rw [if_neg hfits, if_neg (by omega)]

lemma read_word (n : UInt32) (rest : List UInt8) :
    word.read (word.write n ++ rest) = .ok (n, rest) := by
  have hn : n.toNat < (0x0f + 1) * 128 ^ 4 := n.toNat_lt
  have hread := readVarint_writeVarint (by decide : 0x0f < 128) 4 n.toNat rest
  rw [if_pos hn] at hread
  simp only [word, hread, UInt32.ofNat_toNat]

lemma read_length (n : Nat) (rest : List UInt8) :
    length.read (length.write n ++ rest) =
      if n < UInt64.size then .ok (n, rest) else .error .badVarint :=
  readVarint_writeVarint (by decide : 0x01 < 128) 9 n rest

lemma word_recovers : word.Recovers fun _ => True where
  read_write n rest _ := read_word n rest
  too_long _ _ h := absurd trivial h

lemma length_recovers : length.Recovers (· < UInt64.size) where
  read_write n rest h := by rw [read_length, if_pos h]
  too_long n rest h := by rw [read_length, if_neg h]

/-! ## Texts -/

lemma takeBytes_append (bytes rest : List UInt8) :
    takeBytes bytes.length (bytes ++ rest) = .ok (bytes, rest) := by
  induction bytes with
  | nil => rfl
  | cons byte bytes ih => simp [takeBytes, ih]

lemma decodeText_toUTF8 (s : String) : decodeText s.toUTF8.data.toList = .ok s := by
  simp [decodeText, String.fromUTF8?, String.fromUTF8, s.isValidUTF8]

lemma text_recovers : text.Recovers fun s => s.utf8ByteSize < UInt64.size where
  read_write s rest h := by
    have hlength := length_recovers.read_write s.toUTF8.size (s.toUTF8.data.toList ++ rest) h
    have htake := takeBytes_append s.toUTF8.data.toList rest
    have hsize : s.toUTF8.data.toList.length = s.toUTF8.size := rfl
    rw [hsize] at htake
    simp only [text, List.append_assoc, hlength, bind, Except.bind, htake, decodeText_toUTF8]
    rfl
  too_long s rest h := by
    have hlength := length_recovers.too_long s.toUTF8.size (s.toUTF8.data.toList ++ rest) h
    simp only [text, List.append_assoc, hlength, bind, Except.bind]

/-! ## Composite values -/

variable {first : Codec α} {second : Codec β} {item : Codec α} {P : α → Prop} {Q : β → Prop}

lemma Recovers.option (h : item.Recovers P) :
    (option item).Recovers fun value => ∀ a, value = some a → P a where
  read_write value rest hfits := by
    cases value with
    | none => rfl
    | some a =>
        have hread := h.read_write a rest (hfits a rfl)
        simp [Codec.option, hread, bind, Except.bind, pure, Except.pure]
  too_long value rest hfits := by
    cases value with
    | none => simp at hfits
    | some a =>
        have hread := h.too_long a rest (by simpa using hfits)
        simp [Codec.option, hread, bind, Except.bind]

lemma Recovers.pair (h : first.Recovers P) (h' : second.Recovers Q) :
    (pair first second).Recovers fun p => P p.1 ∧ Q p.2 where
  read_write p rest hfits := by
    have hfirst := h.read_write p.1 (second.write p.2 ++ rest) hfits.1
    have hsecond := h'.read_write p.2 rest hfits.2
    simp only [Codec.pair, List.append_assoc, hfirst, hsecond, bind, Except.bind]
    rfl
  too_long p rest hfits := by
    by_cases hp : P p.1
    · have hfirst := h.read_write p.1 (second.write p.2 ++ rest) hp
      have hsecond := h'.too_long p.2 rest fun hq => hfits ⟨hp, hq⟩
      simp only [Codec.pair, List.append_assoc, hfirst, hsecond, bind, Except.bind]
    · have hfirst := h.too_long p.1 (second.write p.2 ++ rest) hp
      simp only [Codec.pair, List.append_assoc, hfirst, bind, Except.bind]

lemma Recovers.readItems (h : item.Recovers P) (items : List α) (rest : List UInt8)
    (hitems : ∀ a ∈ items, P a) :
    readItems item items.length (items.flatMap item.write ++ rest) = .ok (items, rest) := by
  induction items with
  | nil => rfl
  | cons a items ih =>
      have hread := h.read_write a (items.flatMap item.write ++ rest) (hitems a (by simp))
      have hothers := ih fun b hb => hitems b (by simp [hb])
      simp only [List.flatMap_cons, List.length_cons, List.append_assoc, Codec.readItems, hread,
        hothers, bind, Except.bind]
      rfl

lemma Recovers.readItems_too_long (h : item.Recovers P) (items : List α) (rest : List UInt8)
    (hitems : ¬ ∀ a ∈ items, P a) :
    Codec.readItems item items.length (items.flatMap item.write ++ rest) = .error .badVarint := by
  induction items with
  | nil => simp at hitems
  | cons a items ih =>
      simp only [List.flatMap_cons, List.length_cons, List.append_assoc, Codec.readItems]
      by_cases ha : P a
      · have hread := h.read_write a (items.flatMap item.write ++ rest) ha
        have hothers := ih fun hall => hitems (by simpa [ha] using hall)
        simp only [hread, hothers, bind, Except.bind]
      · have hread := h.too_long a (items.flatMap item.write ++ rest) ha
        simp only [hread, bind, Except.bind]

lemma Recovers.list (h : item.Recovers P) :
    (list item).Recovers fun items => items.length < UInt64.size ∧ ∀ a ∈ items, P a where
  read_write items rest hfits := by
    have hlength := length_recovers.read_write items.length
      (items.flatMap item.write ++ rest) hfits.1
    simp only [Codec.list, List.append_assoc, hlength, bind, Except.bind,
      h.readItems items rest hfits.2]
  too_long items rest hfits := by
    by_cases hlong : items.length < UInt64.size
    · have hlength := length_recovers.read_write items.length
        (items.flatMap item.write ++ rest) hlong
      have hitems := h.readItems_too_long items rest fun hall => hfits ⟨hlong, hall⟩
      simp only [Codec.list, List.append_assoc, hlength, hitems, bind, Except.bind]
    · have hlength := length_recovers.too_long items.length
        (items.flatMap item.write ++ rest) hlong
      simp only [Codec.list, List.append_assoc, hlength, bind, Except.bind]

lemma Recovers.map (h : item.Recovers P) {there : α → β} {back : β → α}
    (hback : ∀ b, there (back b) = b) : (item.map there back).Recovers fun b => P (back b) where
  read_write b rest hfits := by
    have hread := h.read_write (back b) rest hfits
    simp only [Codec.map, hread, bind, Except.bind, hback]
    rfl
  too_long b rest hfits := by
    have hread := h.too_long (back b) rest hfits
    simp only [Codec.map, hread, bind, Except.bind]

lemma Recovers.congr {P' : α → Prop} (h : item.Recovers P) (hfits : ∀ a, P a ↔ P' a) :
    item.Recovers P' where
  read_write a rest ha := h.read_write a rest ((hfits a).mpr ha)
  too_long a rest ha := h.too_long a rest fun hp => ha ((hfits a).mp hp)

end Codec

/-! ## The parts of an assembly

A length stands in front of every text and every list.
-/

/-- The lengths that are written for a control. -/
def Control.lengths : Control → List Nat
  | branch _ predicate => [predicate.utf8ByteSize]
  | fallthrough | jump _ | call _ | ret => []

/-- The lengths that are written for what a line needs of a resource. -/
def ResourceUse.lengths (use : ResourceUse) : List Nat :=
  use.key?.toList.map String.utf8ByteSize

/-- The lengths that are written for a line: those of its hint and its text. -/
def Line.lengths (line : Line) : List Nat :=
  line.hint.toList.map String.utf8ByteSize ++ [line.text.utf8ByteSize]

/-- The lengths that are written for a block: those of its parts, and of its statements. -/
def Block.lengths (block : Block) : List Nat :=
  block.line.lengths ++ block.control.lengths ++ block.use.lengths ++
    block.statements.length :: block.statements.map String.utf8ByteSize

/-- **The lengths that are written for an assembly.** -/
def Assembly.lengths (assembly : Assembly) : List Nat :=
  assembly.resources.length :: (assembly.resources.map fun entry => entry.key.utf8ByteSize) ++
    assembly.blocks.size :: assembly.blocks.toList.flatMap Block.lengths

/-- Lengths of 64 bits. -/
def FitWords (lengths : List Nat) : Prop := ∀ n ∈ lengths, n < UInt64.size

/-- Whether lengths fit is decided one by one. -/
instance (lengths : List Nat) : Decidable (FitWords lengths) :=
  inferInstanceAs (Decidable (∀ n ∈ lengths, n < UInt64.size))

@[simp] lemma fitWords_nil : FitWords [] := by simp [FitWords]

@[simp] lemma fitWords_cons {n : Nat} {rest : List Nat} :
    FitWords (n :: rest) ↔ n < UInt64.size ∧ FitWords rest := by simp [FitWords]

@[simp] lemma fitWords_append {lengths lengths' : List Nat} :
    FitWords (lengths ++ lengths') ↔ FitWords lengths ∧ FitWords lengths' := by
  simp [FitWords, or_imp, forall_and]

@[simp] lemma fitWords_map {α : Type} {items : List α} {f : α → Nat} :
    FitWords (items.map f) ↔ ∀ a ∈ items, f a < UInt64.size := by simp [FitWords]

@[simp] lemma fitWords_flatMap {α : Type} {items : List α} {f : α → List Nat} :
    FitWords (items.flatMap f) ↔ ∀ a ∈ items, FitWords (f a) := by
  simp only [FitWords, List.mem_flatMap]
  exact ⟨fun h a ha n hn => h n ⟨a, ha, hn⟩, fun h n ⟨a, ha, hn⟩ => h a ha n hn⟩

lemma Mode.codec_recovers : Mode.codec.Recovers fun _ => True where
  read_write mode rest _ := by
    cases mode <;> simp [codec, Codec.read_word, bind, Except.bind, pure, Except.pure]
  too_long mode rest h := absurd trivial h

lemma Control.codec_recovers : Control.codec.Recovers fun control => FitWords control.lengths where
  read_write control rest h := by
    cases control with
    | branch target predicate =>
        have htext := Codec.text_recovers.read_write predicate rest (by simpa [lengths] using h)
        simp [codec, Codec.read_word, htext, bind, Except.bind, pure, Except.pure]
    | _ => simp [codec, Codec.read_word, bind, Except.bind, pure, Except.pure]
  too_long control rest h := by
    cases control with
    | branch target predicate =>
        have htext := Codec.text_recovers.too_long predicate rest (by simpa [lengths] using h)
        simp [codec, Codec.read_word, htext, bind, Except.bind]
    | _ => exact absurd fitWords_nil h

lemma ResourceUse.codec_recovers :
    ResourceUse.codec.Recovers fun use => FitWords use.lengths where
  read_write use rest h := by
    cases use with
    | unneeded => simp [codec, Codec.read_word, bind, Except.bind, pure, Except.pure]
    | _ key =>
        have htext := Codec.text_recovers.read_write key rest (by simpa [lengths, key?] using h)
        simp [codec, Codec.read_word, htext, bind, Except.bind, pure, Except.pure]
  too_long use rest h := by
    cases use with
    | unneeded => exact absurd fitWords_nil h
    | _ key =>
        have htext := Codec.text_recovers.too_long key rest (by simpa [lengths, key?] using h)
        simp [codec, Codec.read_word, htext, bind, Except.bind]

lemma ResourceEntry.codec_recovers :
    ResourceEntry.codec.Recovers fun entry => entry.key.utf8ByteSize < UInt64.size := by
  have hfields := Codec.text_recovers.pair Codec.word_recovers
  refine (hfields.map fun entry => rfl).congr fun entry => ?_
  simp

lemma Line.codec_recovers : Line.codec.Recovers fun line => FitWords line.lengths := by
  have hfields := Codec.word_recovers.pair (Codec.text_recovers.option.pair Codec.text_recovers)
  refine (hfields.map fun line => rfl).congr fun line => ?_
  simp [lengths]

lemma Block.codec_recovers : Block.codec.Recovers fun block => FitWords block.lengths := by
  have hfields := Line.codec_recovers.pair (Control.codec_recovers.pair
    (Codec.word_recovers.option.pair (ResourceUse.codec_recovers.pair Codec.text_recovers.list)))
  refine (hfields.map fun block => rfl).congr fun block => ?_
  simp [lengths]

namespace Assembly

/-- **Every length that is written for the assembly has 64 bits.** -/
def Fits (assembly : Assembly) : Prop := FitWords assembly.lengths

lemma codec_recovers : codec.Recovers Fits := by
  have hfields := Mode.codec_recovers.pair
    (ResourceEntry.codec_recovers.list.pair Block.codec_recovers.list)
  refine (hfields.map fun assembly => rfl).congr fun assembly => ?_
  simp [Fits, lengths, and_assoc]

/-! ## Whole artifacts -/

lemma ofBytes_toBytes_append {assembly : Assembly} (h : assembly.Fits) (after : List UInt8) :
    ofBytes (assembly.toBytes ++ after) = .ok assembly := by
  have hread := codec_recovers.read_write assembly after h
  simp only [ofBytes, toBytes, hread]

lemma ofBytes_toBytes_of_not_fits {assembly : Assembly} (h : ¬ assembly.Fits)
    (after : List UInt8) : ofBytes (assembly.toBytes ++ after) = .error .badVarint := by
  have hread := codec_recovers.too_long assembly after h
  simp only [ofBytes, toBytes, hread]

/-- **An artifact reads back as the assembly it was made from,** whatever follows it, and no other
assembly has the same artifact.  This holds of every assembly whose lengths fit 64 bits; the
artifact of any other is refused. -/
theorem artifact_round_trip (assembly : Assembly) :
    (assembly.Fits →
      (∀ after, ofBytes (assembly.toBytes ++ after) = .ok assembly) ∧
      ∀ other : Assembly, other.toBytes = assembly.toBytes → other = assembly) ∧
    (¬ assembly.Fits → ∀ after, ofBytes (assembly.toBytes ++ after) = .error .badVarint) := by
  refine ⟨fun hfits => ⟨ofBytes_toBytes_append hfits, ?_⟩, ofBytes_toBytes_of_not_fits⟩
  intro other hsame
  have hread := ofBytes_toBytes_append hfits []
  rw [← hsame] at hread
  by_cases hother : other.Fits
  · rw [ofBytes_toBytes_append hother] at hread
    cases hread
    rfl
  · rw [ofBytes_toBytes_of_not_fits hother] at hread
    cases hread

/-- A line number of five bytes, a text beyond ASCII, and an empty statement. -/
def sampleAssembly : Assembly where
  mode := .dispatch
  resources := [⟨"redis", 10⟩]
  blocks := #[
    ⟨⟨10, some "redis", "if π > 3 goto 4294967295"⟩, .branch 4294967295 "π > 3", none,
      .first "redis", ["redis = acquire(\"redis\")", ""]⟩,
    ⟨⟨4294967295, none, ""⟩, .ret, some 10, .unneeded, []⟩]

/-- One more resource than can be counted in 64 bits. -/
def oversizedAssembly : Assembly := ⟨.linear, List.replicate UInt64.size ⟨"", 1⟩, #[]⟩

/-- The sample is read back with two bytes behind it; the assembly that does not fit is refused. -/
theorem artifact_round_trip_sample :
    sampleAssembly.Fits ∧ ofBytes (sampleAssembly.toBytes ++ [0x80, 0xff]) = .ok sampleAssembly ∧
    ¬ oversizedAssembly.Fits ∧ ofBytes (oversizedAssembly.toBytes ++ []) = .error .badVarint := by
  have hsample : sampleAssembly.Fits := by
    rw [Fits]
    decide +kernel
  have hoversized : ¬ oversizedAssembly.Fits := by
    simp [oversizedAssembly, Fits, lengths]
  exact ⟨hsample, ((artifact_round_trip sampleAssembly).1 hsample).1 _,
    hoversized, (artifact_round_trip oversizedAssembly).2 hoversized _⟩

end Assembly

end NumberedProse
