import RemoteCall.Service.Method
import RemoteCall.Service.Registry

/-!
# Calls

Whatever takes a method's name and the bytes of a request, and comes back with the bytes of a reply
or a failure, is a `Caller`.  A registry is one without any connection: the handler runs in place.
`call` adds the types on top of any caller.
-/

namespace RemoteCall

/-- Carries a call to its method.  `none` means that the call does not come back, because its
handler panicked in place. -/
abbrev Caller := (name : String) → (payload : Bytes) → Option (Except CallError Bytes)

namespace Registry

/-- Runs the method that a call names. -/
def dispatch (r : Registry Method) (name : String) (payload : Bytes) : Outcome :=
  match r.lookup name with
  | .ok method => method.invoke name payload
  | .error cause => .replied [] (.failed .dispatch cause.message)

/-- Calls a method in place. -/
def callRaw (r : Registry Method) : Caller := fun name payload =>
  match r.dispatch name payload with
  | .replied _ reply => some reply.result
  | .panicked => none

end Registry

/-- A failure to write or read a value, seen by a caller. -/
def CallError.ofCodec (cause : CodecError) : CallError :=
  .link (.codec cause)

/-- The value that a caller makes of the bytes of a reply. -/
def readReply (β : Type) [Payload β] (result : Except CallError Bytes) : Except CallError β :=
  match result with
  | .error cause => .error cause
  | .ok bytes =>
    match Payload.read β bytes with
    | .ok value => .ok value
    | .error cause => .error (.ofCodec cause)

/-- Calls a method with typed arguments for a typed result. -/
def call (caller : Caller) (name : String) {α : Type} [Payload α] (args : α)
    (β : Type) [Payload β] : Option (Except CallError β) :=
  match Payload.encode args with
  | .error cause => some (.error (.ofCodec cause))
  | .ok payload => (caller name payload).map (readReply β)

end RemoteCall
