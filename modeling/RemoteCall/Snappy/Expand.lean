import RemoteCall.Snappy.Basic

/-!
# Reading a compressed block

Each element begins with a tag byte whose two lowest bits tell its kind.  A literal gives its length
in the upper six bits or, from 60 on, in the one to four bytes behind the tag.  A copy has one, two
or four bytes of offset; the one-byte form keeps three more bits of the offset and three bits of the
length in its tag.

`expand` reads a whole block: the elements have to produce exactly as many bytes as the preamble
announces.  Every element is checked before it is carried out, so a broken block is refused at its
first fault.
-/

namespace RemoteCall.Snappy

/-- Reads a literal of `length` bytes, given the room that is left in the output. -/
def readLiteral (room length : Nat) (source : Bytes) : Except Error (Element × Bytes) :=
  if room < length then .error (.shortLiteral length source.length room)
  else
    match Bytes.splitFront length source with
    | some (bytes, rest) => .ok (.literal bytes, rest)
    | none => .error (.shortLiteral length source.length room)

/-- Reads the `width` bytes of a copy's offset, to which its tag contributes `base`. -/
def readCopy (length base width : Nat) (source : Bytes) : Except Error (Element × Bytes) :=
  match Bytes.splitFront width source with
  | some (bytes, rest) => .ok (.copy (base + Bytes.ofLittleEndian bytes) length, rest)
  | none => .error (.shortOffset width source.length)

/-- Reads the element that begins with `tag`, given the room that is left in the output. -/
def readElement (room : Nat) (tag : UInt8) (source : Bytes) : Except Error (Element × Bytes) :=
  let t := tag.toNat
  match t % 4 with
  | 0 =>
    if t / 4 < 60 then readLiteral room (t / 4 + 1) source
    else
      match Bytes.splitFront (t / 4 - 59) source with
      | some (bytes, rest) => readLiteral room (Bytes.ofLittleEndian bytes + 1) rest
      | none => .error (.shortLiteral (t / 4 - 59) source.length room)
  | 1 => readCopy (t / 4 % 8 + 4) (t / 32 * 256) 1 source
  | 2 => readCopy (t / 4 + 1) 0 2 source
  | _ => readCopy (t / 4 + 1) 0 4 source

theorem length_le_of_readLiteral {room length : Nat} {source rest : Bytes} {e : Element}
    (h : readLiteral room length source = .ok (e, rest)) : rest.length ≤ source.length := by
  unfold readLiteral at h
  split at h
  · exact nomatch h
  · split at h
    · next hs =>
      cases h
      have := (Bytes.length_of_splitFront hs).2
      omega
    · exact nomatch h

theorem length_le_of_readCopy {length base width : Nat} {source rest : Bytes} {e : Element}
    (h : readCopy length base width source = .ok (e, rest)) : rest.length ≤ source.length := by
  unfold readCopy at h
  split at h
  · next hs =>
    cases h
    have := (Bytes.length_of_splitFront hs).2
    omega
  · exact nomatch h

/-- An element never gives input back, so reading elements one after the other ends. -/
theorem length_le_of_readElement {room : Nat} {tag : UInt8} {source rest : Bytes} {e : Element}
    (h : readElement room tag source = .ok (e, rest)) : rest.length ≤ source.length := by
  unfold readElement at h
  simp only at h
  split at h
  · split at h
    · exact length_le_of_readLiteral h
    · split at h
      · next hs =>
        have := (Bytes.length_of_splitFront hs).2
        have := length_le_of_readLiteral h
        omega
      · exact nomatch h
  · exact length_le_of_readCopy h
  · exact length_le_of_readCopy h
  · exact length_le_of_readCopy h

/-- Carries out all elements of `source` on top of what was produced so far. -/
def expandElements (size : Nat) (source : Bytes) (out : Array UInt8) :
    Except Error (Array UInt8) :=
  match source with
  | [] => .ok out
  | tag :: source =>
    match _h : readElement (size - out.size) tag source with
    | .error e => .error e
    | .ok (element, rest) =>
      match element.expand size out with
      | .error e => .error e
      | .ok out => expandElements size rest out
termination_by source.length
decreasing_by
  have := length_le_of_readElement (by assumption)
  simp only [List.length_cons]
  omega

/-- How many bytes a block announces; nothing announces nothing. -/
def announcedLength (block : Bytes) : Except Error Nat :=
  if block = [] then .ok 0
  else
    match readPreamble 5 block with
    | none => .error .badPreamble
    | some (n, _) => if maxLength < n then .error (.tooLong n) else .ok n

/-- The bytes that a block stands for. -/
def expand (block : Bytes) : Except Error Bytes :=
  if block = [] then .error .empty
  else
    match readPreamble 5 block with
    | none => .error .badPreamble
    | some (size, source) =>
      if maxLength < size then .error (.tooLong size)
      else
        match expandElements size source #[] with
        | .error e => .error e
        | .ok out =>
          if out.size = size then .ok out.toList else .error (.lengthMismatch size out.size)

end RemoteCall.Snappy
