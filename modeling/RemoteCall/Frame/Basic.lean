import RemoteCall.Bytes
import RemoteCall.Error.Link

/-!
# Frames

A stream is cut into frames: four bytes that tell a length, high byte first, and a body of that
length.  Both sides limit how long a body may be.  No limit goes beyond what four bytes can tell, so
the length in front of an accepted body is always its whole length.

`Frame.scan` looks at what has arrived so far.  A frame over the limit is noticed as soon as its
length is there; its body stays in the stream.
-/

namespace RemoteCall.Frame

/-- The largest length that the four bytes in front of a body can tell. -/
def longest : Nat := UInt32.size - 1

/-- The limit where none is set: a hundred times 2²⁰ bytes. -/
def defaultLimit : Nat := 100 * 1024 * 1024

/-- The limit that takes effect when `limit` is asked for. -/
def clampLimit (limit : Nat) : Nat :=
  min limit longest

/-- A body behind its length. -/
def encode (body : Bytes) : Bytes :=
  Bytes.bigEndian 4 body.length ++ body

/-- Why a body of `length` bytes is refused. -/
def overLimit (length limit : Nat) : LinkError :=
  .frame (.tooLarge length limit)

/-- The frame of a body that is within the limit. -/
def encode? (limit : Nat) (body : Bytes) : Except LinkError Bytes :=
  if body.length ≤ limit then .ok (encode body) else .error (overLimit body.length limit)

/-- What stands at the front of a stream, as far as it has arrived. -/
inductive Scan
  /-- A whole frame, and what follows it. -/
  | frame (body rest : Bytes)
  /-- The length of a body that is over the limit, and what follows the length. -/
  | tooLarge (length : Nat) (rest : Bytes)
  /-- More has to arrive. -/
  | short
  deriving DecidableEq, Repr

/-- Looks for a frame at the front of a stream. -/
def scan (limit : Nat) (stream : Bytes) : Scan :=
  match Bytes.splitFront 4 stream with
  | none => .short
  | some (front, rest) =>
    let length := Bytes.ofBigEndian front
    if limit < length then .tooLarge length rest
    else
      match Bytes.splitFront length rest with
      | none => .short
      | some (body, rest) => .frame body rest

end RemoteCall.Frame
