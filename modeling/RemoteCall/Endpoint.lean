import RemoteCall.Envelope.Frame
import RemoteCall.Frame.Pipe
import RemoteCall.Frame.Receive

/-!
# Two connected ends

A connection is two pipes, one each way.  Each end sends frames into one pipe and receives frames
from the other, with one limit for both directions and a timeout for receiving.  An end may be used
as a channel, which carries envelopes, and may be split into halves that are used on their own.  To
close a channel that is not split gives up the whole end.

Nothing happens between two actions, so to wait for bytes that are not there is to wait for the
timeout or for ever.
-/

namespace RemoteCall

/-- Which of the two ends. -/
inductive Side
  | near
  | far
  deriving DecidableEq, Repr

/-- The opposite end. -/
def Side.other : Side → Side
  | near => far
  | far => near

/-- One end of a connection. -/
structure Endpoint where
  settings : Frame.Settings
  isChannel : Bool
  isSplit : Bool
  dropped : Bool
  deriving DecidableEq, Repr

namespace Endpoint

/-- An end as it is connected. -/
def fresh (settings : Frame.Settings) : Endpoint := ⟨settings, false, false, false⟩

/-- What an end can be made to do. -/
inductive Action
  | send (bytes : Bytes)
  | receive
  | close
  | setLimit (limit : Nat)
  | setTimeout (milliseconds : Option Nat)
  | drop
  | split
  | makeChannel
  | sendEnvelope (header : Header) (payload : Bytes)
  | receiveEnvelope
  deriving DecidableEq, Repr

/-- What comes of it. -/
inductive Answer
  | done
  | becameChannel
  | frame (body : Bytes)
  | envelope (envelope : Envelope)
  | failed (cause : LinkError)
  | blocked
  /-- The end was given up before. -/
  | gone
  deriving DecidableEq, Repr

end Endpoint

/-- A connection: its ends, and the pipes by which each end sends. -/
structure Duplex where
  endpoint : Side → Endpoint
  outflow : Side → Pipe

namespace Duplex

open Endpoint

/-- Two ends, freshly connected. -/
def connect (near far : Frame.Settings) : Duplex where
  endpoint
    | .near => .fresh near
    | .far => .fresh far
  outflow _ := .empty none

/-- Changes one end. -/
def setEndpoint (d : Duplex) (side : Side) (e : Endpoint) : Duplex :=
  { d with endpoint := fun s => if s = side then e else d.endpoint s }

/-- Changes the pipe by which one end sends. -/
def setOutflow (d : Duplex) (side : Side) (p : Pipe) : Duplex :=
  { d with outflow := fun s => if s = side then p else d.outflow s }

/-- Sends one frame. -/
def send (d : Duplex) (side : Side) (body : Bytes) : Answer × Duplex :=
  let sent := Frame.send (d.endpoint side).settings.limit none (d.outflow side) body
  let d := d.setOutflow side sent.2
  match sent.1 with
  | .done => (.done, d)
  | .failed cause => (.failed cause, d)
  | .blocked => (.blocked, d)

/-- Waits for one frame, for which everything in the pipe was there before.  What was taken from the
pipe for an attempt that fails is lost. -/
def receive (d : Duplex) (side : Side) : Except Answer Bytes × Duplex :=
  let pipe := d.outflow side.other
  let inflow : Frame.Inflow := ⟨[(0, pipe.held)], if pipe.closed then some 0 else none⟩
  let keep (rest : Frame.Inflow) : Duplex :=
    d.setOutflow side.other { pipe with held := (rest.pieces.map (·.2)).flatten }
  match Frame.receive (d.endpoint side).settings 1 inflow with
  | .got body _ rest => (.ok body, keep rest)
  | .failed cause _ rest => (.error (.failed cause), keep rest)
  | .never => (.error .blocked, keep ⟨[], none⟩)

/-- Gives up an end. -/
def drop (d : Duplex) (side : Side) : Duplex :=
  let d := d.setEndpoint side { d.endpoint side with dropped := true }
  let d := d.setOutflow side (d.outflow side).close
  d.setOutflow side.other (d.outflow side.other).desert

/-- Lets one end do something. -/
def act (d : Duplex) (side : Side) (action : Action) : Answer × Duplex :=
  let e := d.endpoint side
  let withSettings (s : Frame.Settings) : Answer × Duplex :=
    (.done, d.setEndpoint side { e with settings := s })
  if e.dropped then (.gone, d)
  else
    match action with
    | .send body => d.send side body
    | .receive =>
      match d.receive side with
      | (.ok body, d) => (.frame body, d)
      | (.error answer, d) => (answer, d)
    | .close =>
      if e.isChannel && !e.isSplit then (.done, d.drop side)
      else (.done, d.setOutflow side (d.outflow side).close)
    | .setLimit limit => withSettings { e.settings with limit := Frame.clampLimit limit }
    | .setTimeout timeout => withSettings { e.settings with timeout := timeout }
    | .drop => (.done, d.drop side)
    | .split => (.done, d.setEndpoint side { e with isSplit := true })
    | .makeChannel => (.becameChannel, d.setEndpoint side { e with isChannel := true })
    | .sendEnvelope header payload =>
      match Envelope.encode header payload with
      | .ok body => d.send side body
      | .error cause => (.failed cause, d)
    | .receiveEnvelope =>
      match d.receive side with
      | (.ok body, d) =>
        match Envelope.decode body with
        | .ok envelope => (.envelope envelope, d)
        | .error cause => (.failed cause, d)
      | (.error answer, d) => (answer, d)

/-- Lets the ends do one thing after the other. -/
def run (d : Duplex) : List (Side × Action) → List Answer
  | [] => []
  | (side, action) :: rest =>
    let done := d.act side action
    done.1 :: run done.2 rest

end Duplex

end RemoteCall
