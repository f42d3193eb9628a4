import RemoteCall.Bytes

/-!
# Compressed blocks: elements and failures

A compressed payload is a preamble, which announces how many bytes it stands for, followed by
elements.  An element either carries bytes literally or repeats bytes that were already produced:
`copy offset length` goes back `offset` bytes and copies `length` of them, and may run into the
bytes it is producing itself.  `Element.expand` is that meaning; the reader and the writer of the
byte form are in the sibling modules.
-/

namespace RemoteCall.Snappy

/-- The largest number of bytes that either side of a block may have. -/
def maxLength : Nat := UInt32.size - 1

/-- Why a block cannot be made or read. -/
inductive Error
  /-- There is not even a preamble. -/
  | empty
  /-- The preamble does not end within five bytes. -/
  | badPreamble
  /-- A side of the block has more than `maxLength` bytes. -/
  | tooLong (length : Nat)
  /-- A literal needs `length` bytes of input and as much room in the output. -/
  | shortLiteral (length source room : Nat)
  /-- The offset of a copy takes `width` bytes. -/
  | shortOffset (width source : Nat)
  /-- A copy goes back further than the output reaches, or not at all. -/
  | badOffset (offset position : Nat)
  /-- A copy needs more room than is left. -/
  | longCopy (length room : Nat)
  /-- The elements end before the announced length is reached. -/
  | lengthMismatch (announced produced : Nat)
  deriving DecidableEq, Repr

/-- The text of a failure. -/
def Error.message : Error → String
  | .empty => "snappy: corrupt input (empty)"
  | .badPreamble => "snappy: corrupt input (invalid header)"
  | .tooLong length =>
    s!"snappy: input buffer (size = {length}) is larger than allowed (size = {maxLength})"
  | .shortLiteral length source room =>
    s!"snappy: corrupt input (expected literal read of length {length}; " ++
      s!"remaining src: {source}; remaining dst: {room})"
  | .shortOffset width source =>
    s!"snappy: corrupt input (expected copy read of length {width}; remaining src: {source})"
  | .badOffset offset position =>
    s!"snappy: corrupt input (expected valid offset but got offset {offset}; " ++
      s!"dst position: {position})"
  | .longCopy length room =>
    s!"snappy: corrupt input (expected copy write of length {length}; remaining dst: {room})"
  | .lengthMismatch announced produced =>
    s!"snappy: corrupt input (header mismatch; expected {announced} " ++
      s!"decompressed bytes but got {produced})"

/-- One step of producing the output. -/
inductive Element
  | literal (bytes : Bytes)
  | copy (offset length : Nat)
  deriving DecidableEq, Repr

/-- Appends `length` bytes, each the one that stands `offset` before the end at that moment. -/
def repeatBack (offset : Nat) : (length : Nat) → Array UInt8 → Array UInt8
  | 0, out => out
  | length + 1, out => repeatBack offset length (out.push (out.getD (out.size - offset) 0))

/-- What an element appends to the output, which is to have `size` bytes in the end. -/
def Element.expand (size : Nat) (out : Array UInt8) : Element → Except Error (Array UInt8)
  | .literal bytes => .ok (out ++ bytes)
  | .copy offset length =>
    if offset = 0 ∨ out.size < offset then .error (.badOffset offset out.size)
    else if size - out.size < length then .error (.longCopy length (size - out.size))
    else .ok (repeatBack offset length out)

/-! ## The preamble -/

/-- A length in groups of seven bits, lowest first; every byte but the last has its top bit set. -/
def preamble (n : Nat) : Bytes :=
  if n < 128 then [UInt8.ofNat n] else UInt8.ofNat (n % 128 + 128) :: preamble (n / 128)

/-- Reads a length of at most `groups` groups, and the rest of the input behind it. -/
def readPreamble : (groups : Nat) → Bytes → Option (Nat × Bytes)
  | 0, _ => none
  | _ + 1, [] => none
  | groups + 1, b :: rest =>
    if b < 128 then some (b.toNat, rest)
    else (readPreamble groups rest).map fun (n, rest) => (b.toNat % 128 + 128 * n, rest)

end RemoteCall.Snappy
