import RemoteCall.Envelope.Frame
import RemoteCall.Frame.Basic
import RemoteCall.Service.Method

/-!
# Answers as frames

A reply becomes a response with the sequence number of its request.  One that cannot be framed,
because it is over the frame limit or cannot be put into an envelope, is replaced by a short failure
that says why, so that the caller still hears back.  The substitute may be over the limit as well;
then there is no frame at all.
-/

namespace RemoteCall.Reply

/-- The frame of a response, or why there is none. -/
def frame (limit : Nat) (seq : UInt64) (r : Reply) : Except LinkError Bytes :=
  match Envelope.encode (.response seq r.kind r.error) r.payload with
  | .error cause => .error cause
  | .ok body => Frame.encode? limit body

/-- The failure that takes the place of a reply that cannot be framed. -/
def substitute (cause : LinkError) : Reply :=
  .failed .application ("rpc: cannot send reply: " ++ cause.message)

/-- The frame of a response or of its substitute. -/
def frameOrSubstitute (limit : Nat) (seq : UInt64) (r : Reply) : Except LinkError Bytes :=
  match r.frame limit seq with
  | .ok frame => .ok frame
  | .error cause => (substitute cause).frame limit seq

/-- What is answered for a handler that panicked. -/
def panicked (name : String) : Reply :=
  .failed .application ("rpc: handler for " ++ name ++ " panicked")

end RemoteCall.Reply
