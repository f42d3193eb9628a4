import RemoteCall.Error.Io
import RemoteCall.Payload.Error
import RemoteCall.Text.Hex
import RemoteCall.Text.Quoted

/-!
# Failures of a connection

Everything that can go wrong between a caller's bytes and the peer's: the stream fails or ends, a
frame is malformed, its checksum does not match, an operation takes too long.  `isProtocol` singles
out bytes that break the format, after which the connection cannot be brought back into step;
`isConnection` singles out the loss of the stream itself.
-/

namespace RemoteCall

/-- What is wrong with a frame. -/
inductive FrameError
  /-- The body is longer than the limit of this side. -/
  | tooLarge (length limit : Nat)
  /-- The header without its error text is longer than allowed. -/
  | headerTooLarge
  | badHeader (cause : CodecError)
  | badPayload (cause : Snappy.Error)
  /-- The header and the compressed payload disagree on the payload's length. -/
  | lengthMismatch (declared held : Nat)
  | described (text : String)
  deriving DecidableEq, Repr

/-- The largest header that is sent or accepted, not counting its error text. -/
def maxHeaderLength : Nat := 1024

/-- The text of what is wrong with a frame. -/
def FrameError.message : FrameError → String
  | .tooLarge length limit => s!"Message too large: {length} bytes (max {limit})"
  | .headerTooLarge => s!"Header larger than {maxHeaderLength} bytes"
  | .badHeader cause => "Undecodable header: " ++ cause.message
  | .badPayload cause => "Undecodable payload: " ++ cause.message
  | .lengthMismatch declared held =>
    s!"Unexpected payload length: header says {declared}, payload holds {held}"
  | .described text => text

/-- What took too long. -/
inductive Activity
  | connect | send | receive
  | named (name : String)
  deriving DecidableEq, Repr

/-- The name of an activity. -/
def Activity.name : Activity → String
  | connect => "Connect"
  | send => "Send"
  | receive => "Receive"
  | named name => name

/-- A failure of a connection. -/
inductive LinkError
  | io (cause : IoError)
  | codec (cause : CodecError)
  /-- The peer ended the stream. -/
  | closed
  | frame (cause : FrameError)
  | checksum (expected actual : UInt32)
  | timeout (activity : Activity)
  | unsupportedNetwork (name : String)
  | described (text : String)
  deriving DecidableEq, Repr

namespace LinkError

/-- A 32-bit number as eight digits of base 16. -/
def hexWord (n : UInt32) : String :=
  "0x" ++ Text.hexPadded 8 n.toNat

/-- The text of a failure. -/
def message : LinkError → String
  | io cause => "IO error: " ++ cause.message
  | codec cause => "Codec error: " ++ cause.message
  | closed => "Connection closed"
  | frame cause => "Invalid frame: " ++ cause.message
  | checksum expected actual =>
    "Checksum mismatch: expected " ++ hexWord expected ++ ", got " ++ hexWord actual
  | timeout activity => activity.name ++ " timeout exceeded"
  | unsupportedNetwork name => "Unsupported network: " ++ name
  | described text => text

/-- Bytes on the wire that break the format. -/
def isProtocol : LinkError → Bool
  | frame _ => true
  | checksum _ _ => true
  | _ => false

/-- The peer went away, or the stream failed underneath. -/
def isConnection : LinkError → Bool
  | io _ => true
  | closed => true
  | _ => false

/-- The far end no longer takes bytes. -/
def brokenPipe : LinkError := .io (.plain .brokenPipe)

end LinkError

end RemoteCall
