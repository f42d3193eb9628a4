import RemoteCall.Server.Connection
import RemoteCall.Server.Permits

/-!
# Serving all connections

A server accepts connections one after the other and serves each of them at the same time as all
others. Accepting may fail: some failures concern only the connection that was about to come, some
ask for a pause, and any other ends the serving.  It also ends when the signal to stop comes.  In
both cases all connections are told to shut down, and once the last of them has ended the listener
is closed and the server returns.
-/

namespace RemoteCall.Serving

/-- What follows from a failure to accept. -/
inductive Verdict
  | retry
  | pause
  | giveUp
  deriving DecidableEq, Repr

/-- The kinds of failure that concern only one connection. -/
def passing : List IoKind :=
  [.connectionAborted, .connectionReset, .notConnected, .interrupted, .wouldBlock, .timedOut]

/-- Whether too many files are open. -/
def isExhaustion (cause : IoError) : Bool :=
  cause = .os Os.tooManyFilesInSystem || cause = .os Os.tooManyFilesInProcess

/-- What follows from a failure to accept. -/
def verdict : LinkError → Verdict
  | .io cause =>
    if passing.contains cause.kind then .retry
    else if isExhaustion cause then .pause
    else .giveUp
  | _ => .giveUp

/-- How long a server pauses, in milliseconds. -/
def pauseLength : Nat := 100

/-- What a server serves, and how. -/
structure Setup where
  registry : Registry Method
  config : ServerConfig

/-- What each connection is served with. -/
def Setup.connection (setup : Setup) (peer : String) : Connection.Setup :=
  ⟨peer, setup.registry, Frame.clampLimit setup.config.frameLimit⟩

/-- What the server itself is doing. -/
inductive Phase
  | accepting
  /-- Too many files are open; nothing is accepted for a while. -/
  | pausing
  /-- Waits for its connections to end. -/
  | stopping (outcome : Option LinkError)
  /-- It is over, by the signal or by this failure. -/
  | returned (outcome : Option LinkError)
  /-- The settings ask for more permits than can be had. -/
  | brokenDown
  deriving DecidableEq, Repr

/-- A connection and its peer's name. -/
structure Served where
  peer : String
  state : Connection.State

/-- The state of a server. -/
structure State where
  phase : Phase
  /-- All connections that were accepted, in order. -/
  connections : List Served
  signalled : Bool

/-- A server that has accepted nothing yet. -/
def start : State := ⟨.accepting, [], false⟩

/-- What a step shows to the outside. -/
inductive Effect
  | connection (index : Nat) (effect : Connection.Effect)
  | closeListener
  deriving DecidableEq, Repr

/-- A step: who does what. -/
inductive Label
  /-- The signal to stop comes. -/
  | signal
  | accept (peer : String)
  | failAccept (cause : LinkError)
  /-- The pause is over. -/
  | wake
  /-- The server learns of the signal. -/
  | stop
  /-- A step of one connection. -/
  | connection (index : Nat) (label : Connection.Label)
  /-- All connections have ended. -/
  | finish
  deriving DecidableEq, Repr

namespace State

/-- Tells all connections to shut down. -/
def beginStop (s : State) (outcome : Option LinkError) : State :=
  { s with
    phase := .stopping outcome
    connections := s.connections.map fun c =>
      { c with state := { c.state with shutdown := true } } }

/-- Takes a step of one connection. -/
def connectionStep (setup : Setup) (s : State) (i : Nat) (label : Connection.Label) :
    Option (State × List Effect) :=
  match s.connections[i]? with
  | none => none
  | some ⟨peer, c⟩ =>
    match Connection.step (setup.connection peer) c label with
    | none => none
    | some (c, effects) =>
      some ({ s with connections := s.connections.set i ⟨peer, c⟩ },
        effects.map (.connection i))

end State

/-- One step of a server, and what it shows; `none` if the step cannot be taken.  Connections are
told to shut down by the server alone. -/
def step (setup : Setup) (s : State) : Label → Option (State × List Effect)
  | .signal => some ({ s with signalled := true }, [])
  | .accept peer =>
    match s.phase with
    | .accepting =>
      match setup.config.permits? with
      | some permits =>
        some ({ s with connections := s.connections ++ [⟨peer, Connection.start permits⟩] }, [])
      | none => some ({ s with phase := .brokenDown }, [])
    | _ => none
  | .failAccept cause =>
    match s.phase with
    | .accepting =>
      match verdict cause with
      | .retry => some (s, [])
      | .pause => some ({ s with phase := .pausing }, [])
      | .giveUp => some (s.beginStop (some cause), [])
    | _ => none
  | .wake =>
    match s.phase with
    | .pausing => some ({ s with phase := .accepting }, [])
    | _ => none
  | .stop =>
    match s.phase with
    | .accepting => if s.signalled then some (s.beginStop none, []) else none
    | _ => none
  | .connection _ .shutdown => none
  | .connection i label => s.connectionStep setup i label
  | .finish =>
    match s.phase with
    | .stopping outcome =>
      if s.connections.all fun c => c.state.hasEnded then
        some ({ s with phase := .returned outcome }, [.closeListener])
      else none
    | _ => none

end RemoteCall.Serving
