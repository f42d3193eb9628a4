import RemoteCall.Event
import RemoteCall.Error.Call
import RemoteCall.Payload.Basic

/-!
# Methods

A handler turns a request into a reply, fails with a text, or panics.  A method is a handler whose
types are forgotten: it decodes the request, reports the run as an event, and encodes the reply.
Every outcome but a panic is a `Reply`, ready to be sent or to be given to a caller in the same
process.

A reply counts as a success if it has no error text; so a handler that fails with an empty text
looks like one that succeeded with an empty payload.
-/

namespace RemoteCall

/-- What a handler reports when it fails.  The caller gets to see the text unchanged. -/
structure ServiceError where
  message : String
  deriving DecidableEq, Repr

/-- The outcome of one request, ready to be written as a response. -/
structure Reply where
  kind : ErrorKind
  error : String
  payload : Bytes
  deriving DecidableEq, Repr, Inhabited

namespace Reply

/-- A success. -/
def ok (payload : Bytes) : Reply := ⟨.none, "", payload⟩

/-- A failure, which has no payload. -/
def failed (kind : ErrorKind) (error : String) : Reply := ⟨kind, error, []⟩

/-- A reply without an error text is a success. -/
def isOk (r : Reply) : Bool := r.error = ""

/-- What a caller makes of a reply. -/
def result (r : Reply) : Except CallError Bytes :=
  if r.isOk then .ok r.payload else .error (.ofResponse r.kind r.error)

end Reply

/-- How a handler ends.  Also when it fails, it may have changed the reply that it was given. -/
inductive Handling (β : Type)
  | done (reply : β)
  | failed (reply : β) (error : ServiceError)
  | panicked

/-- A handler: takes a request and a reply to fill in. -/
abbrev Handler (α β : Type) := α → β → Handling β

/-- How running a method ends. -/
inductive Outcome
  | replied (events : List Event) (reply : Reply)
  | panicked
  deriving DecidableEq, Repr

/-- What a run has reported. -/
def Outcome.events : Outcome → List Event
  | .replied events _ => events
  | .panicked => []

/-- A method: what it makes of the name under which it is called and of the bytes of a request.
A handler may have to wait for something from outside; `awaits` tells what a request waits for. -/
structure Method where
  invoke : (name : String) → (payload : Bytes) → Outcome
  awaits : (payload : Bytes) → Option Nat

namespace Method

/-- The text for arguments that are not what the method takes. -/
def badArguments (name : String) (cause : CodecError) : String :=
  "rpc: cannot decode arguments for " ++ name ++ ": " ++ (LinkError.codec cause).message

/-- The text for a reply that has no byte form. -/
def badReply (name : String) (cause : CodecError) : String :=
  "rpc: cannot encode reply for " ++ name ++ ": " ++ (LinkError.codec cause).message

variable {α β : Type} [Payload α] [Shown α] [Payload β] [Shown β]

/-- What is reported about a run of a handler. -/
def handledEvent (name : String) (request : α) (reply : β) (error : Option ServiceError) : Event :=
  .handled name (Shown.shown request) (Shown.shown reply) (error.map ServiceError.message)

/-- Runs a handler on the bytes of a request. -/
def run (handler : Handler α β) (fresh : β) (name : String) (payload : Bytes) : Outcome :=
  match Payload.read α payload with
  | .error cause => .replied [] (.failed .invalidRequest (badArguments name cause))
  | .ok request =>
    match handler request fresh with
    | .panicked => .panicked
    | .failed reply error =>
      .replied [handledEvent name request reply (some error)] (.failed .application error.message)
    | .done reply =>
      .replied [handledEvent name request reply none]
        (match Payload.encode reply with
          | .ok bytes => .ok bytes
          | .error cause => .failed .application (badReply name cause))

/-- The method of a handler that waits for nothing.  `fresh` is the reply that it is given. -/
def ofHandler (handler : Handler α β) (fresh : β) : Method :=
  ⟨run handler fresh, fun _ => none⟩

end Method

end RemoteCall
