import RemoteCall.Payload.Basic
import RemoteCall.Error.Call

/-!
# Envelopes: the header

Every frame carries one envelope: a header, and behind it the compressed payload.  A request names
its target in `method` and has an empty `error`; a response only repeats the request's `seq`, and
its `error` is empty exactly when the call succeeded.  `rawLength` is the payload's length before
compression and `checksum` belongs to the compressed bytes.

`Header.encode` is the one byte form of a header.  `Header.decode` reads it off the front of a
frame; there it is an error of its own, `overLimit`, to run past the end of the frame.
-/

namespace RemoteCall

namespace ErrorKind

/-- The kinds in the order of their numbers. -/
def all : List ErrorKind := [.none, .application, .dispatch, .invalidRequest]

/-- The number by which a kind travels. -/
def index : ErrorKind → Nat
  | .none => 0
  | .application => 1
  | .dispatch => 2
  | .invalidRequest => 3

/-- The word for a kind. -/
def name : ErrorKind → String
  | .none => "None"
  | .application => "Application"
  | .dispatch => "Dispatch"
  | .invalidRequest => "InvalidRequest"

/-- The kind of this name. -/
def ofName? (name : String) : Option ErrorKind :=
  all.find? fun kind => kind.name = name

end ErrorKind

/-- A kind is its number in four bytes. -/
instance : Payload ErrorKind where
  encode kind := .ok (Bytes.littleEndian 4 kind.index)
  decode := do
    let index ← Decoder.number 4
    match ErrorKind.all[index]? with
    | some kind => pure kind
    | none => Decoder.fail (.badVariant index ErrorKind.all.length)

/-- What stands in front of a payload. -/
structure Header where
  method : String
  seq : UInt64
  error : String
  kind : ErrorKind
  rawLength : UInt64
  checksum : UInt32
  deriving DecidableEq, Repr, Inhabited

namespace Header

/-- The header of a call. -/
def request (method : String) (seq : UInt64) : Header :=
  ⟨method, seq, "", .none, 0, 0⟩

/-- The header of an answer. -/
def response (seq : UInt64) (kind : ErrorKind) (error : String) : Header :=
  ⟨"", seq, error, kind, 0, 0⟩

/-- An answer reports a failure if it has an error text. -/
def isError (h : Header) : Bool :=
  h.error ≠ ""

/-- The length of the error text, which does not count towards the header's limit. -/
def errorLength (h : Header) : Nat :=
  (Utf8.encode h.error).length

/-- The byte form of a header. -/
def encode (h : Header) : Bytes :=
  Payload.encodeText h.method ++ Bytes.littleEndian 8 h.seq.toNat ++
    Payload.encodeText h.error ++ Bytes.littleEndian 4 h.kind.index ++
    Bytes.littleEndian 8 h.rawLength.toNat ++ Bytes.littleEndian 4 h.checksum.toNat

end Header

/-- A header's parts one after the other. -/
instance : Payload Header where
  encode h := .ok h.encode
  decode := do
    let method ← Payload.decode
    let seq ← Payload.decode
    let error ← Payload.decode
    let kind ← Payload.decode
    let rawLength ← Payload.decode
    let checksum ← Payload.decode
    return ⟨method, seq, error, kind, rawLength, checksum⟩

/-- Inside a frame no more bytes may be read than the frame has. -/
def CodecError.withinFrame : CodecError → CodecError
  | .endOfInput => .overLimit
  | .endOfText => .overLimit
  | e => e

/-- Reads the header off the front of a frame. -/
def Header.decode : Decoder Header :=
  Decoder.mapError CodecError.withinFrame Payload.decode

/-- What one frame carries. -/
structure Envelope where
  header : Header
  payload : Bytes
  deriving DecidableEq, Repr, Inhabited

end RemoteCall
