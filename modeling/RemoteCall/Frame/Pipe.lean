import RemoteCall.Frame.Basic

/-!
# Pipes

One direction of a connection: the sender puts bytes in at one end, the receiver takes them out at
the other.  A pipe may hold only so many bytes; then it takes what fits, and the sender has to wait
for room.  After the sender shut its end, or the receiver dropped its own, writing fails.
-/

namespace RemoteCall

/-- One direction of a connection. -/
structure Pipe where
  /-- How many bytes it holds at most, if there is a bound. -/
  capacity : Option Nat
  held : Bytes
  /-- The sender shut its end. -/
  closed : Bool
  /-- The receiver dropped its end. -/
  deserted : Bool
  deriving DecidableEq, Repr

namespace Pipe

/-- An open pipe without bytes in it. -/
def empty (capacity : Option Nat) : Pipe := ⟨capacity, [], false, false⟩

instance : Inhabited Pipe := ⟨empty none⟩

/-- How many of `n` bytes there is room for. -/
def room (p : Pipe) (n : Nat) : Nat :=
  match p.capacity with
  | none => n
  | some capacity => min n (capacity - p.held.length)

/-- Whether writing fails. -/
def isBroken (p : Pipe) : Bool := p.closed || p.deserted

/-- Puts in as many bytes as there is room for, and returns the others. -/
def put (p : Pipe) (bytes : Bytes) : Pipe × Bytes :=
  let n := p.room bytes.length
  ({ p with held := p.held ++ bytes.take n }, bytes.drop n)

/-- Shuts the sender's end. -/
def close (p : Pipe) : Pipe := { p with closed := true }

/-- Drops the receiver's end, and with it what is in the pipe. -/
def desert (p : Pipe) : Pipe := { p with deserted := true, held := [] }

end Pipe

namespace Frame

/-- How sending one body ended. -/
inductive Sent
  | done
  | failed (cause : LinkError)
  /-- Nobody makes room for the rest. -/
  | blocked
  deriving DecidableEq, Repr

/-- Sends one body into a pipe from which nobody takes anything meanwhile, so what does not fit at
once never will. -/
def send (limit : Nat) (timeout : Option Nat) (pipe : Pipe) (body : Bytes) : Sent × Pipe :=
  match encode? limit body with
  | .error cause => (.failed cause, pipe)
  | .ok frame =>
    if pipe.isBroken then (.failed .brokenPipe, pipe)
    else
      let put := pipe.put frame
      if put.2.isEmpty then (.done, put.1)
      else if timeout.isSome then (.failed (.timeout .send), put.1)
      else (.blocked, put.1)

/-- What a sender does. -/
inductive Sending
  | body (body : Bytes)
  | close
  deriving DecidableEq, Repr

/-- Does one thing after the other; closing always succeeds. -/
def sendAll (limit : Nat) (timeout : Option Nat) (pipe : Pipe) : List Sending → List Sent × Pipe
  | [] => ([], pipe)
  | .close :: rest =>
    let after := sendAll limit timeout pipe.close rest
    (.done :: after.1, after.2)
  | .body body :: rest =>
    let sent := send limit timeout pipe body
    let after := sendAll limit timeout sent.2 rest
    (sent.1 :: after.1, after.2)

end Frame

end RemoteCall
