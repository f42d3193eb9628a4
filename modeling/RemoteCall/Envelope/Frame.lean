import RemoteCall.Envelope.Basic
import RemoteCall.Snappy.Compress
import RemoteCall.Snappy.Expand
import RemoteCall.Checksum

/-!
# Envelopes as frame bodies

`Envelope.encode` fills in the payload's length and the checksum, whatever the given header says
about them, and refuses headers that the other side would refuse.  `Envelope.decode` accepts exactly
such bodies: the header has to decode and to be short enough, the checksum of the rest has to match,
and the rest has to expand to as many bytes as the header says.  The checks come in this order, and
the first that fails is reported.
-/

namespace RemoteCall.Envelope

/-- Whether a header of `headerLength` bytes, of which `errorLength` belong to the error text, may
travel. -/
def headerFits (headerLength errorLength : Nat) : Bool :=
  headerLength - errorLength ≤ maxHeaderLength

/-- The header as it travels in front of a compressed payload. -/
def sealHeader (header : Header) (payload block : Bytes) : Header :=
  { header with
    rawLength := UInt64.ofNat payload.length
    checksum := Checksum.crc32c block }

/-- The frame body of a header and a payload. -/
def encode (header : Header) (payload : Bytes) : Except LinkError Bytes :=
  match Snappy.compress payload with
  | .error cause => .error (.codec (.incompressible cause))
  | .ok block =>
    let front := (sealHeader header payload block).encode
    if headerFits front.length header.errorLength then .ok (front ++ block)
    else .error (.frame .headerTooLarge)

/-- The payload that a block holds, which the header says has `declared` bytes. -/
def openBlock (declared : Nat) (block : Bytes) : Except FrameError Bytes :=
  match Snappy.announcedLength block with
  | .error cause => .error (.badPayload cause)
  | .ok held =>
    if held = declared then
      match Snappy.expand block with
      | .error cause => .error (.badPayload cause)
      | .ok payload => .ok payload
    else .error (.lengthMismatch declared held)

/-- The envelope that a frame body carries. -/
def decode (frame : Bytes) : Except LinkError Envelope :=
  match Header.decode frame with
  | .error cause => .error (.frame (.badHeader cause))
  | .ok (header, block) =>
    if headerFits (frame.length - block.length) header.errorLength then
      let actual := Checksum.crc32c block
      if actual = header.checksum then
        match openBlock header.rawLength.toNat block with
        | .error cause => .error (.frame cause)
        | .ok payload => .ok ⟨header, payload⟩
      else .error (.checksum header.checksum actual)
    else .error (.frame .headerTooLarge)

end RemoteCall.Envelope
