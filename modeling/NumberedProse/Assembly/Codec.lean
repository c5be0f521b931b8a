/-!
# Byte formats

A codec writes values as bytes and reads them back.  Codecs are put together as values are: a pair
is one after the other, a list is its length and its items, a choice is a tag and what belongs to
it.  Nothing marks where a value ends but the value itself.

* **Numbers** are written in base 128, the units first; 128 is added to a digit that another one
  follows.  A reader also takes spellings that end in idle zeros, as long as they fit the width.
* **Texts** are their number of bytes and their UTF-8 form.
-/

namespace NumberedProse

/-- Why bytes cannot be read. -/
inductive DecodeError where
  /-- The bytes end too soon. -/
  | unexpectedEnd
  /-- A number does not end in time, or is too large. -/
  | badVarint
  /-- A text is not UTF-8. -/
  | badUtf8
  /-- The byte that says if a value is there is neither 0 nor 1. -/
  | badOption
  /-- A tag belongs to no case of a choice. -/
  | unknownTag
deriving Repr, DecidableEq

/-- The wording of the error. -/
def DecodeError.message : DecodeError → String
  | unexpectedEnd => "Hit the end of buffer, expected more data"
  | badVarint => "Found a varint that didn't terminate. Is the usize too big for this platform?"
  | badUtf8 => "Tried to parse invalid utf-8"
  | badOption => "Found an Option discriminant that wasn't 0 or 1"
  | unknownTag => "Serde Deserialization Error"

/-- A writer of values and a reader that gives back a value and the bytes after it. -/
structure Codec (α : Type) where
  write : α → List UInt8
  read : List UInt8 → Except DecodeError (α × List UInt8)

namespace Codec

variable {α β : Type}

/-! ## Numbers -/

/-- The shortest spelling of a number. -/
def writeVarint (n : Nat) : List UInt8 :=
  if n < 128 then [UInt8.ofNat n] else UInt8.ofNat (n % 128 + 128) :: writeVarint (n / 128)
termination_by n

/-- **A number in at most `room` bytes.**  If all of them are used, the last one may be `most` at
the most. -/
def readVarint (most : Nat) : (room : Nat) → List UInt8 → Except DecodeError (Nat × List UInt8)
  | 0, _ => .error .badVarint
  | _ + 1, [] => .error .unexpectedEnd
  | room + 1, byte :: rest =>
      if byte.toNat < 128 then
        if room == 0 && most < byte.toNat then .error .badVarint else .ok (byte.toNat, rest)
      else
        match readVarint most room rest with
        | .ok (high, rest) => .ok (byte.toNat - 128 + 128 * high, rest)
        | .error e => .error e

/-- A number of 32 bits: at most five bytes, the fifth holding four bits. -/
def word : Codec UInt32 where
  write n := writeVarint n.toNat
  read bytes :=
    match readVarint 0x0f 5 bytes with
    | .ok (n, rest) => .ok (UInt32.ofNat n, rest)
    | .error e => .error e

/-- A length of 64 bits: at most ten bytes, the tenth holding one bit. -/
def length : Codec Nat where
  write n := writeVarint n
  read bytes := readVarint 0x01 10 bytes

/-! ## Texts -/

/-- The first bytes of the given number, and the bytes after them. -/
def takeBytes : Nat → List UInt8 → Except DecodeError (List UInt8 × List UInt8)
  | 0, bytes => .ok ([], bytes)
  | _ + 1, [] => .error .unexpectedEnd
  | n + 1, byte :: rest =>
      match takeBytes n rest with
      | .ok (taken, rest) => .ok (byte :: taken, rest)
      | .error e => .error e

/-- The text of which these are the UTF-8 bytes. -/
def decodeText (bytes : List UInt8) : Except DecodeError String :=
  match String.fromUTF8? ⟨bytes.toArray⟩ with
  | some text => .ok text
  | none => .error .badUtf8

/-- A text. -/
def text : Codec String where
  write s := length.write s.toUTF8.size ++ s.toUTF8.data.toList
  read bytes := do
    let (count, rest) ← length.read bytes
    let (body, rest) ← takeBytes count rest
    return (← decodeText body, rest)

/-! ## Composite values -/

/-- A value that may be missing: a byte 0, or a byte 1 and the value. -/
def option (item : Codec α) : Codec (Option α) where
  write
    | none => [0]
    | some a => 1 :: item.write a
  read
    | [] => .error .unexpectedEnd
    | byte :: rest =>
        if byte == 0 then .ok (none, rest)
        else if byte == 1 then do
          let (a, rest) ← item.read rest
          return (some a, rest)
        else .error .badOption

/-- One value after another. -/
def pair (first : Codec α) (second : Codec β) : Codec (α × β) where
  write p := first.write p.1 ++ second.write p.2
  read bytes := do
    let (a, rest) ← first.read bytes
    let (b, rest) ← second.read rest
    return ((a, b), rest)

/-- A number of items, one after the other. -/
def readItems (item : Codec α) : Nat → List UInt8 → Except DecodeError (List α × List UInt8)
  | 0, bytes => .ok ([], bytes)
  | n + 1, bytes => do
      let (a, rest) ← item.read bytes
      let (items, rest) ← readItems item n rest
      return (a :: items, rest)

/-- A list: its length and its items. -/
def list (item : Codec α) : Codec (List α) where
  write items := length.write items.length ++ items.flatMap item.write
  read bytes := do
    let (count, rest) ← length.read bytes
    readItems item count rest

/-- The same bytes for another type of values. -/
def map (codec : Codec α) (there : α → β) (back : β → α) : Codec β where
  write b := codec.write (back b)
  read bytes := do
    let (a, rest) ← codec.read bytes
    return (there a, rest)

end Codec

end NumberedProse
