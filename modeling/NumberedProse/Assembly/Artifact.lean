import NumberedProse.Assembly
import NumberedProse.Assembly.Codec

/-!
# Artifacts

The form in which an assembly is kept in a file: its fields in order, without names.  Bytes after
the end of an assembly are ignored.
-/

namespace NumberedProse

/-- A mode is its tag alone. -/
def Mode.codec : Codec Mode where
  write
    | linear => Codec.word.write 0
    | dispatch => Codec.word.write 1
  read bytes := do
    let (tag, rest) ← Codec.word.read bytes
    match tag.toNat with
    | 0 => return (.linear, rest)
    | 1 => return (.dispatch, rest)
    | _ => throw .unknownTag

/-- A branch keeps its target before its predicate. -/
def Control.codec : Codec Control where
  write
    | fallthrough => Codec.word.write 0
    | jump target => Codec.word.write 1 ++ Codec.word.write target
    | branch target predicate =>
        Codec.word.write 2 ++ (Codec.word.write target ++ Codec.text.write predicate)
    | call target => Codec.word.write 3 ++ Codec.word.write target
    | ret => Codec.word.write 4
  read bytes := do
    let (tag, rest) ← Codec.word.read bytes
    match tag.toNat with
    | 0 => return (.fallthrough, rest)
    | 1 =>
        let (target, rest) ← Codec.word.read rest
        return (.jump target, rest)
    | 2 =>
        let (target, rest) ← Codec.word.read rest
        let (predicate, rest) ← Codec.text.read rest
        return (.branch target predicate, rest)
    | 3 =>
        let (target, rest) ← Codec.word.read rest
        return (.call target, rest)
    | 4 => return (.ret, rest)
    | _ => throw .unknownTag

/-- The first two cases carry the resource's key. -/
def ResourceUse.codec : Codec ResourceUse where
  write
    | first key => Codec.word.write 0 ++ Codec.text.write key
    | again key => Codec.word.write 1 ++ Codec.text.write key
    | unneeded => Codec.word.write 2
  read bytes := do
    let (tag, rest) ← Codec.word.read bytes
    match tag.toNat with
    | 0 =>
        let (key, rest) ← Codec.text.read rest
        return (.first key, rest)
    | 1 =>
        let (key, rest) ← Codec.text.read rest
        return (.again key, rest)
    | 2 => return (.unneeded, rest)
    | _ => throw .unknownTag

/-- Key, then line. -/
def ResourceEntry.codec : Codec ResourceEntry :=
  (Codec.pair Codec.text Codec.word).map
    (fun (key, firstLine) => ⟨key, firstLine⟩) (fun entry => (entry.key, entry.firstLine))

/-- Number, hint, text. -/
def Line.codec : Codec Line :=
  (Codec.pair Codec.word (Codec.pair (Codec.option Codec.text) Codec.text)).map
    (fun (number, hint, text) => ⟨number, hint, text⟩)
    (fun line => (line.number, line.hint, line.text))

/-- Line, control, handler, use, statements. -/
def Block.codec : Codec Block :=
  (Codec.pair Line.codec (Codec.pair Control.codec (Codec.pair (Codec.option Codec.word)
    (Codec.pair ResourceUse.codec (Codec.list Codec.text))))).map
    (fun (line, control, handler, use, statements) => ⟨line, control, handler, use, statements⟩)
    (fun block => (block.line, block.control, block.handler, block.use, block.statements))

namespace Assembly

/-- Mode, resources, blocks. -/
def codec : Codec Assembly :=
  (Codec.pair Mode.codec (Codec.pair (Codec.list ResourceEntry.codec)
    (Codec.list Block.codec))).map
    (fun (mode, resources, blocks) => ⟨mode, resources, blocks.toArray⟩)
    (fun assembly => (assembly.mode, assembly.resources, assembly.blocks.toList))

/-- **The artifact of an assembly.** -/
def toBytes (assembly : Assembly) : List UInt8 := codec.write assembly

/-- **The assembly an artifact begins with.** -/
def ofBytes (bytes : List UInt8) : Except DecodeError Assembly :=
  match codec.read bytes with
  | .ok (assembly, _) => .ok assembly
  | .error e => .error e

end Assembly

end NumberedProse
