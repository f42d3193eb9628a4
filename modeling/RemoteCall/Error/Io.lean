import RemoteCall.Error.Os

/-!
# Failures of the byte stream

A failure below the frame level has a kind, from which decisions are taken, and a text.  It comes
from the operating system with a number, or from this side of the stream with a kind alone or a kind
and a text of its own.
-/

namespace RemoteCall

/-- What kind of failure it is. -/
inductive IoKind
  | notFound | permissionDenied | connectionRefused | connectionReset | hostUnreachable
  | networkUnreachable | connectionAborted | notConnected | addressInUse | addressNotAvailable
  | networkDown | brokenPipe | alreadyExists | wouldBlock | invalidInput | invalidData | timedOut
  | writeZero | interrupted | unsupported | unexpectedEnd | outOfMemory | other
  deriving DecidableEq, Repr

/-- The text of a kind, for a failure that has no text of its own. -/
def IoKind.describe : IoKind → String
  | .notFound => "entity not found"
  | .permissionDenied => "permission denied"
  | .connectionRefused => "connection refused"
  | .connectionReset => "connection reset"
  | .hostUnreachable => "host unreachable"
  | .networkUnreachable => "network unreachable"
  | .connectionAborted => "connection aborted"
  | .notConnected => "not connected"
  | .addressInUse => "address in use"
  | .addressNotAvailable => "address not available"
  | .networkDown => "network down"
  | .brokenPipe => "broken pipe"
  | .alreadyExists => "entity already exists"
  | .wouldBlock => "operation would block"
  | .invalidInput => "invalid input parameter"
  | .invalidData => "invalid data"
  | .timedOut => "timed out"
  | .writeZero => "write zero"
  | .interrupted => "operation interrupted"
  | .unsupported => "unsupported"
  | .unexpectedEnd => "unexpected end of file"
  | .outOfMemory => "out of memory"
  | .other => "other error"

/-- All kinds. -/
def IoKind.all : List IoKind :=
  [.notFound, .permissionDenied, .connectionRefused, .connectionReset, .hostUnreachable,
    .networkUnreachable, .connectionAborted, .notConnected, .addressInUse, .addressNotAvailable,
    .networkDown, .brokenPipe, .alreadyExists, .wouldBlock, .invalidInput, .invalidData, .timedOut,
    .writeZero, .interrupted, .unsupported, .unexpectedEnd, .outOfMemory, .other]

/-- Shorter names for some kinds. -/
def IoKind.shortNames : List (String × IoKind) :=
  [("would block", .wouldBlock), ("interrupted", .interrupted), ("unexpected eof", .unexpectedEnd),
    ("invalid input", .invalidInput), ("already exists", .alreadyExists), ("not found", .notFound)]

/-- The kind of this name. -/
def IoKind.ofName (name : String) : IoKind :=
  match IoKind.all.find? fun kind => kind.describe = name with
  | some kind => kind
  | none => (IoKind.shortNames.lookup name).getD .other

/-- A failure of the byte stream. -/
inductive IoError
  | plain (kind : IoKind)
  | worded (kind : IoKind) (text : String)
  | os (errno : Int)
  deriving DecidableEq, Repr

namespace IoError

/-- The text of a failure. -/
def message : IoError → String
  | plain kind => kind.describe
  | worded _ text => text
  | os errno => Os.describe errno ++ " (os error " ++ toString errno ++ ")"

/-- The kind of an error number, where a decision may depend on it. -/
def kindOfErrno (errno : Int) : IoKind :=
  if errno = Os.interrupted then .interrupted
  else if errno = Os.tryAgain then .wouldBlock
  else if errno = Os.connectionAborted then .connectionAborted
  else if errno = Os.connectionReset then .connectionReset
  else if errno = Os.notConnected then .notConnected
  else if errno = Os.timedOut then .timedOut
  else .other

/-- The kind of a failure. -/
def kind : IoError → IoKind
  | plain kind => kind
  | worded kind _ => kind
  | os errno => kindOfErrno errno

end IoError

end RemoteCall
