import RemoteCall.Client.Machine
import RemoteCall.Server.Connection

/-!
# A client and the server's end of its connection

One client and the connection that serves it, joined by two pipes of unlimited size.  What one side
writes enters a pipe, and arrives at the other side in pieces of any size at any later time, in
order.  Writing fails only when the other side reads nothing more.

Nothing else is shared, so a call reaches its handler and comes back through both machines and both
pipes, under every order in which callers, client, connection, handlers and pipes take their steps.
-/

namespace RemoteCall.Conversation

/-- Both sides as they are set up. -/
structure Setup where
  client : Client.Setup
  server : Connection.Setup

/-- One direction of the connection: what was written and did not arrive yet, and whether the end of
the stream follows. -/
structure Flow where
  held : Bytes
  ending : Bool
  deriving DecidableEq, Repr

/-- Nothing was written. -/
def Flow.empty : Flow := ⟨[], false⟩

/-- Both sides, and what is between them. -/
structure State where
  client : Client.State
  server : Connection.State
  requests : Flow
  responses : Flow

/-- Both sides freshly connected. -/
def start (permits : Nat) : State :=
  ⟨Client.start, Connection.start permits, .empty, .empty⟩

/-- A step: of one of the sides, or of a pipe. -/
inductive Label
  | client (label : Client.Label)
  | server (label : Connection.Label)
  /-- The first `n` bytes of the requests arrive. -/
  | carryRequests (n : Nat)
  | endRequests
  | carryResponses (n : Nat)
  | endResponses
  deriving DecidableEq, Repr

/-- Whether the client reads nothing more. -/
def State.clientIsDeaf (s : State) : Bool :=
  s.client.reader.ended

/-- Whether the server reads nothing more. -/
def State.serverIsDeaf (s : State) : Bool :=
  s.server.hasEnded

/-- Which steps of the client are its own. -/
def State.allowsClient (s : State) : Client.Label → Bool
  | .arrive _ => false
  | .endInput => false
  | .failReceive _ => false
  | .write _ => !s.serverIsDeaf
  | .failWrite cause => s.serverIsDeaf && cause = .brokenPipe
  | _ => true

/-- Which steps of the connection are its own. -/
def State.allowsServer (s : State) : Connection.Label → Bool
  | .arrive _ => false
  | .endInput => false
  | .failRead _ => false
  | .write _ => !s.clientIsDeaf
  | .failWrite cause => s.clientIsDeaf && cause = .brokenPipe
  | _ => true

/-- Takes over what the client showed. -/
def State.takeClient (s : State) : Client.Effect → State
  | .bytes bytes => { s with requests := { s.requests with held := s.requests.held ++ bytes } }
  | .endOutput => { s with requests := { s.requests with ending := true } }
  | .event _ => s

/-- Takes over what the connection showed. -/
def State.takeServer (s : State) : Connection.Effect → State
  | .bytes bytes => { s with responses := { s.responses with held := s.responses.held ++ bytes } }
  | .endOutput => { s with responses := { s.responses with ending := true } }
  | .event _ => s

/-- What a side reports. -/
def clientEvent? : Client.Effect → Option Event
  | .event event => some event
  | _ => none

/-- What a side reports. -/
def serverEvent? : Connection.Effect → Option Event
  | .event event => some event
  | _ => none

/-- One step, and the events that it causes; `none` if it cannot be taken. -/
def step (setup : Setup) (s : State) : Label → Option (State × List Event)
  | .client label =>
    if s.allowsClient label then
      match Client.step setup.client s.client label with
      | some (client, effects) =>
        some (effects.foldl .takeClient { s with client := client }, effects.filterMap clientEvent?)
      | none => none
    else none
  | .server label =>
    if s.allowsServer label then
      match Connection.step setup.server s.server label with
      | some (server, effects) =>
        some (effects.foldl .takeServer { s with server := server }, effects.filterMap serverEvent?)
      | none => none
    else none
  | .carryRequests n =>
    if n = 0 ∨ s.requests.held.length < n then none
    else
      match Connection.step setup.server s.server (.arrive (s.requests.held.take n)) with
      | some (server, _) =>
        some ({ s with
          server := server
          requests := { s.requests with held := s.requests.held.drop n } }, [])
      | none => none
  | .endRequests =>
    if s.requests.ending && s.requests.held.isEmpty && !s.server.inputEnded then
      some ({ s with server := { s.server with inputEnded := true } }, [])
    else none
  | .carryResponses n =>
    if n = 0 ∨ s.responses.held.length < n then none
    else
      match Client.step setup.client s.client (.arrive (s.responses.held.take n)) with
      | some (client, _) =>
        some ({ s with
          client := client
          responses := { s.responses with held := s.responses.held.drop n } }, [])
      | none => none
  | .endResponses =>
    if s.responses.ending && s.responses.held.isEmpty && !s.client.inputEnded then
      some ({ s with client := { s.client with inputEnded := true } }, [])
    else none

end RemoteCall.Conversation
