import RemoteCall.Conversation
import RemoteCall.Service.Call
import RemoteCall.Script.Client
import RemoteCall.Script.Connection
import RemoteCall.Server.Permits

/-!
# Scripts for clients and a server together

A script makes calls through any number of clients, each with its own connection to one server, and
may close a client or stop the server.  After each action everything comes to rest.
-/

namespace RemoteCall.Script.Session

open Conversation (Label)

/-! ## Coming to rest -/

/-- The steps to try, in the order in which they are tried. -/
def labels (s : Conversation.State) : List Label :=
  let outlet : Client.Outlet :=
    ⟨match s.client.writer.phase with
      | .writing left => left.length
      | _ => 0, s.serverIsDeaf⟩
  (Client.labels outlet s.client).map .client ++
    (connectionLabels ⟨!s.clientIsDeaf, []⟩ s.server).map .server ++
    [.carryRequests s.requests.held.length, .endRequests,
      .carryResponses s.responses.held.length, .endResponses]

/-- The first step that can be taken. -/
def firstStep (setup : Conversation.Setup) (s : Conversation.State) :
    List Label → Option (Conversation.State × List Event)
  | [] => none
  | label :: labels =>
    match Conversation.step setup s label with
    | some next => some next
    | none => firstStep setup s labels

/-- Takes at most `fuel` steps; the events are collected, the last first. -/
def settleFor (setup : Conversation.Setup) (s : Conversation.State) (events : List Event) :
    (fuel : Nat) → Conversation.State × List Event
  | 0 => (s, events)
  | fuel + 1 =>
    match firstStep setup s (labels s) with
    | none => (s, events)
    | some (s, more) => settleFor setup s (more.reverse ++ events) fuel

/-- A bound on the steps that are possible: whatever is written goes through in one piece, so a call
takes a fixed number of steps, but for those who close the client and may have to settle it. -/
def stepBound (s : Conversation.State) : Nat :=
  64 * (s.client.calls.length + s.server.tasks.length + 16) * (s.client.closers.length + 1)

/-! ## Scripts -/

/-- A call of a script. -/
structure Request where
  method : String
  /-- The bytes of the arguments, unless they have no byte form. -/
  payload : Except CodecError Bytes

/-- What a script can do. -/
inductive Action
  /-- Makes calls through one client, all at once. -/
  | call (client : Nat) (requests : List Request)
  | close (client : Nat)
  /-- Stops the server. -/
  | stop

/-- What came of an action. -/
inductive Answer
  | outcomes (outcomes : List RemoteCall.Client.Outcome)
  | done
  | already

/-- The answer to an action, and the size of the client's table and whether it is shut afterwards.
-/
structure Report where
  answer : Answer
  pending : Nat
  closed : Bool

/-- One client with its connection. -/
structure Line where
  setup : Conversation.Setup
  state : Conversation.State

/-- Where a script is. -/
structure State where
  lines : List Line
  stopped : Bool
  /-- What was reported so far, the last first. -/
  events : List Event

/-- The beginning of a script with so many clients, if the server can be set up. -/
def start (registry : Registry Method) (config : ServerConfig) (clientLimit clients : Nat) :
    Option State :=
  match config.permits? with
  | none => none
  | some permits =>
    let line (i : Nat) : Line := {
      setup := {
        client := ⟨"server", clientLimit⟩
        server := ⟨"peer-" ++ Nat.repr i, registry, Frame.clampLimit config.frameLimit⟩ }
      state := Conversation.start permits }
    some ⟨(List.range clients).map line, false, []⟩

namespace State

/-- Lets a line come to rest. -/
def settleLine (s : State) (i : Nat) : State :=
  match s.lines[i]? with
  | none => s
  | some line =>
    let settled := settleFor line.setup line.state s.events (stepBound line.state)
    { s with lines := s.lines.set i { line with state := settled.1 }, events := settled.2 }

/-- Takes a step on a line, if it can be taken. -/
def step (s : State) (i : Nat) (label : Label) : State :=
  match s.lines[i]? with
  | none => s
  | some line =>
    match Conversation.step line.setup line.state label with
    | some (state, more) =>
      { s with
        lines := s.lines.set i { line with state := state }
        events := more.reverse ++ s.events }
    | none => s

/-- How a call that is over ended. -/
def outcomeOf (c : RemoteCall.Client.Call) : RemoteCall.Client.Outcome :=
  match c.stage with
  | .failed cause => .error cause
  | .finished outcome => outcome
  | _ => .error .closed

/-- Makes one call; returns its number with the client, or why it cannot be made. -/
def call (s : State) (i : Nat) (r : Request) : State × Except CallError Nat :=
  match r.payload with
  | .error cause => (s, .error (.ofCodec cause))
  | .ok payload =>
    let number := (s.lines[i]?.map fun line => line.state.client.calls.length).getD 0
    (s.step i (.client (.call r.method payload true)), .ok number)

/-- Makes calls one after the other, without waiting for any. -/
def callAll (s : State) (i : Nat) : List Request → State × List (Except CallError Nat)
  | [] => (s, [])
  | r :: rs =>
    let made := s.call i r
    let rest := callAll made.1 i rs
    (rest.1, made.2 :: rest.2)

/-- How a call that was made ended. -/
def result (s : State) (i : Nat) : Except CallError Nat → RemoteCall.Client.Outcome
  | .error cause => .error cause
  | .ok number =>
    match s.lines[i]?.bind fun line => line.state.client.calls[number]? with
    | some c => outcomeOf c
    | none => .error .closed

/-- Does what a script says and lets everything come to rest. -/
def perform (s : State) : Action → Answer × State
  | .call i requests =>
    let made := s.callAll i requests
    let s := made.1.settleLine i
    (.outcomes (made.2.map (s.result i)), s)
  | .close i => (.done, (s.step i (.client .close)).settleLine i)
  | .stop =>
    if s.stopped then (.already, s)
    else
      let all := List.range s.lines.length
      let s := all.foldl (fun s i => s.step i (.server .shutdown)) { s with stopped := true }
      (.done, all.foldl settleLine s)

/-- Performs one action and reports what came of it. -/
def act (s : State) (action : Action) : Report × State :=
  let client := match action with
    | .call i _ => i
    | .close i => i
    | .stop => 0
  let (answer, s) := s.perform action
  match s.lines[client]? with
  | some line =>
    let pending := line.state.client.pending
    (⟨answer, pending.entries.length, pending.shut⟩, s)
  | none => (⟨answer, 0, true⟩, s)

end State

/-- Performs a whole script; returns the reports and all events. -/
def run (s : State) : List Action → List Report × List Event
  | [] => ([], s.events)
  | action :: actions =>
    let done := s.act action
    let rest := run done.2 actions
    (done.1 :: rest.1, rest.2)

end RemoteCall.Script.Session
