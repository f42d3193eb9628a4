import RemoteCall.Frame.Receive
import RemoteCall.Server.Serving

/-!
# From a transport to a connection

A transport has two halves, one that receives frames and one that sends them, and each half keeps a
limit and a timeout of its own.  A server makes its settings on a transport that it has accepted,
asks for the peer's name, splits the transport, and equips the connection with its permits.  It does
the same to every kind of transport; only the names of the peers differ.
-/

namespace RemoteCall

/-- Who is at the other end of a transport. -/
inductive Remote
  /-- A host and a port. -/
  | tcp (address : String)
  /-- A path, if the other end has one. -/
  | unix (path : Option String)
  deriving DecidableEq, Repr

/-- The name by which logs and events call a peer. -/
def Remote.name : Remote → String
  | tcp address => address
  | unix (some path) => "unix:" ++ path
  | unix none => "unix:@peer"

/-- A transport that is not split. -/
structure Transport where
  remote : Remote
  reader : Frame.Settings
  writer : Frame.Settings
  deriving DecidableEq, Repr

namespace Transport

/-- A transport as a listener hands it out. -/
def accepted (remote : Remote) : Transport := ⟨remote, .default, .default⟩

/-- Limits the frames of both directions. -/
def setLimit (t : Transport) (limit : Nat) : Transport :=
  { t with
    reader := { t.reader with limit := Frame.clampLimit limit }
    writer := { t.writer with limit := Frame.clampLimit limit } }

/-- Limits how long it waits for a frame; sending is left as it is. -/
def setReceiveTimeout (t : Transport) (timeout : Option Nat) : Transport :=
  { t with reader := { t.reader with timeout := timeout } }

end Transport

namespace Serving

/-- A connection that was built: the peer's name, the two halves, and the state that it starts
in. -/
structure Built where
  peer : String
  reader : Frame.Settings
  writer : Frame.Settings
  state : Connection.State

/-- Builds a connection from a transport, if its permits can be had. -/
def Setup.build? (setup : Setup) (t : Transport) : Option Built :=
  let t := (t.setLimit setup.config.frameLimit).setReceiveTimeout setup.config.readTimeout
  match setup.config.permits? with
  | some permits => some ⟨t.remote.name, t.reader, t.writer, Connection.start permits⟩
  | none => none

end Serving

end RemoteCall
