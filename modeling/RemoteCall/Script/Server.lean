import RemoteCall.Script.Connection
import RemoteCall.Server.Serving

/-!
# Scripts for a server

A script plays the clients of one server, in virtual time.  After each action everything comes to
rest, and the report tells what the clients received meanwhile, what happened, and which connections
the server ended.

Connections wait in a queue until the server accepts them, in order, together with the failures to
accept that the script asks for.  What is still in the queue when the server returns is dropped
unserved.
-/

namespace RemoteCall.Script.Server

open Connection (Effect)

/-- A connection as its client sees it. -/
structure Line where
  /-- Its number among the connections that the server accepted. -/
  accepted : Option Nat
  /-- What the client sent before the server accepted. -/
  early : Bytes
  /-- The client ended its stream. -/
  inputEnded : Bool
  /-- The client still reads. -/
  reads : Bool
  /-- What the server sent and is no whole frame yet. -/
  arrived : Bytes
  /-- The server ended its stream. -/
  outputEnded : Bool
  /-- When the server began to wait for a frame. -/
  readingSince : Nat

/-- A connection that the server has not accepted. -/
def Line.fresh : Line := ⟨none, [], false, true, [], false, 0⟩

/-- What the listener has for the server. -/
inductive Arrival
  | connection (line : Nat)
  | failure (cause : LinkError)
  deriving DecidableEq, Repr

/-- What a script can do.  Lines are numbered in the order in which they connect. -/
inductive Action
  | connect
  /-- The client sends requests, those that can be put into an envelope, in one piece. -/
  | request (line : Nat) (requests : List (Header × Bytes))
  | frame (line : Nat) (body : Bytes)
  | bytes (line : Nat) (bytes : Bytes)
  | endInput (line : Nat)
  | stopReading (line : Nat)
  | hangUp (line : Nat)
  | failAccept (cause : LinkError)
  | advance (milliseconds : Nat)
  | signal
  | release (gate : Nat)
  deriving Repr

/-- What came of an action. -/
structure Report where
  responses : List (Nat × Envelope)
  events : List Event
  /-- The lines on which the server ended its stream. -/
  ended : List Nat
  writeFailed : Bool
  refused : Option LinkError
  /-- What the handlers that run now wait for. -/
  running : List Nat

/-- Nothing came of it. -/
def Report.nothing : Report := ⟨[], [], [], false, none, []⟩

/-- Where a script is. -/
structure State where
  setup : Serving.Setup
  /-- Only the first connection is served, without a listener; others are dropped unserved. -/
  single : Bool
  serving : Serving.State
  lines : List Line
  queue : List Arrival
  /-- In milliseconds. -/
  time : Nat
  /-- When a pause in accepting is over. -/
  wakeAt : Nat
  released : List Nat
  report : Report

/-- The beginning of a script. -/
def start (setup : Serving.Setup) (single : Bool) : State :=
  ⟨setup, single, Serving.start, [], [], 0, 0, [], .nothing⟩

namespace State

/-- Changes a line. -/
def modifyLine (s : State) (i : Nat) (f : Line → Line) : State :=
  { s with lines := s.lines.modify i f }

/-- Takes a step of the server, if it can be taken. -/
def serve (s : State) (label : Serving.Label) : State :=
  match Serving.step s.setup s.serving label with
  | some (serving, _) => { s with serving := serving }
  | none => s

/-! ## What the server shows -/

/-- Cuts whole frames off what arrived. -/
def cutFrames (arrived : Bytes) (found : Array Envelope) : (fuel : Nat) → Array Envelope × Bytes
  | 0 => (found, arrived)
  | fuel + 1 =>
    match Frame.scan Frame.longest arrived with
    | .frame body rest =>
      match Envelope.decode body with
      | .ok envelope => cutFrames rest (found.push envelope) fuel
      | .error _ => cutFrames rest found fuel
    | _ => (found, arrived)

/-- Takes over what a connection showed. -/
def take (s : State) (line : Nat) (effect : Effect) : State :=
  match effect with
  | .event event => { s with report := { s.report with events := event :: s.report.events } }
  | .bytes bytes => s.modifyLine line fun l => { l with arrived := l.arrived ++ bytes }
  | .endOutput =>
    let heard := (s.lines[line]?.map Line.reads).getD false
    let s := s.modifyLine line fun l => { l with outputEnded := true }
    if heard then { s with report := { s.report with ended := line :: s.report.ended } } else s

/-- Reads the responses that arrived on a line. -/
def readResponses (s : State) (line : Nat) : State :=
  match s.lines[line]? with
  | none => s
  | some l =>
    let (found, rest) := cutFrames l.arrived #[] (l.arrived.length / 4 + 1)
    let s := s.modifyLine line fun l => { l with arrived := rest }
    { s with
      report := { s.report with
        responses := s.report.responses ++ found.toList.map fun envelope => (line, envelope) } }

/-! ## Coming to rest -/

/-- Lets the connection of a line come to rest. -/
def restLine (s : State) (line : Nat) : State :=
  match s.lines[line]? with
  | some { accepted := some i, reads, .. } =>
    match s.serving.connections[i]? with
    | some ⟨peer, connection⟩ =>
      let r := Script.rest (s.setup.connection peer) ⟨reads, s.released⟩ connection
      let connections := s.serving.connections.set i ⟨peer, r.state⟩
      let s := { s with serving := { s.serving with connections := connections } }
      let s := if r.beganReading then
          s.modifyLine line fun l => { l with readingSince := s.time }
        else s
      (r.shown.reverse.foldl (fun s effect => s.take line effect) s).readResponses line
    | none => s
  | _ => s

/-- Lets the connections of all lines come to rest. -/
def restLines (s : State) : State :=
  (List.range s.lines.length).foldl restLine s

/-- Drops a line that the server never accepted. -/
def dropUnserved (s : State) (line : Nat) : State :=
  let s := s.take line .endOutput
  s.modifyLine line fun l => { l with outputEnded := true }

/-- The server accepts a line's connection, and finds there what the client sent already. -/
def accept (s : State) (line : Nat) : State :=
  let index := s.serving.connections.length
  let s := s.serve (.accept ("peer-" ++ Nat.repr line))
  if s.serving.connections.length = index then s.dropUnserved line
  else
    match s.lines[line]? with
    | none => s
    | some l =>
      let s := s.serve (.connection index (.arrive l.early))
      let s := if l.inputEnded then s.serve (.connection index .endInput) else s
      s.modifyLine line fun l => { l with accepted := some index, early := [] }

/-- Lets the server accept what is in the queue. -/
def acceptAll (s : State) : (fuel : Nat) → State
  | 0 => s
  | fuel + 1 =>
    match s.serving.phase with
    | .accepting =>
      if s.serving.signalled then s.serve .stop
      else
        match s.queue with
        | [] => s
        | .connection line :: queue => acceptAll ({ s with queue := queue }.accept line) fuel
        | .failure cause :: queue =>
          let s := { s with queue := queue, wakeAt := s.time + Serving.pauseLength }
          acceptAll (s.serve (.failAccept cause)) fuel
    | _ => s

/-- Whether the server is over, so that nothing will be accepted any more. -/
def isOver (s : State) : Bool :=
  match s.serving.phase with
  | .returned _ => true
  | .brokenDown => true
  | _ => false

/-- Drops what is in the queue of a server that is over. -/
def dropQueue (s : State) : State :=
  if s.isOver then
    let s' := s.queue.foldl (fun s arrival => match arrival with
      | .connection line => s.dropUnserved line
      | .failure _ => s) s
    { s' with queue := [] }
  else s

/-! ## Deadlines -/

/-- When the server gives up waiting for a frame on a line. -/
def readDeadline (s : State) (line : Nat) : Option Nat :=
  match s.lines[line]? with
  | some l =>
    match l.accepted.bind fun i => s.serving.connections[i]? with
    | some ⟨_, c⟩ => c.deadline s.setup.config.readTimeout l.readingSince
    | none => none
  | none => none

/-- Does what is due on a line. -/
def expire (s : State) (line : Nat) : State :=
  match s.readDeadline line, s.lines[line]? with
  | some deadline, some { accepted := some i, .. } =>
    if deadline ≤ s.time then s.serve (.connection i Connection.giveUpReading) else s
  | _, _ => s

/-- Does what is due on all lines. -/
def expireAll (s : State) : State :=
  (List.range s.lines.length).foldl expire s

/-- Lets everything come to rest.  A server that waits no time at all for a frame gives up as soon
as there is none. -/
def settle (s : State) : State :=
  let s := (s.acceptAll (s.queue.length + 1)).restLines
  (s.expireAll.restLines.serve .finish).dropQueue

/-! ## Time -/

/-- When the server ends a pause. -/
def wakeDeadline (s : State) : Option Nat :=
  if s.serving.phase = .pausing then some s.wakeAt else none

/-- The earliest of some times. -/
def earliest (times : List Nat) : Option Nat :=
  times.foldl (fun best t => match best with
    | none => some t
    | some b => some (min b t)) none

/-- Lets time pass until `target`, and does at each deadline what is due. -/
def advanceTo (s : State) (target : Nat) : (fuel : Nat) → State
  | 0 => { s with time := target }
  | fuel + 1 =>
    let deadlines := (List.range s.lines.length).filterMap s.readDeadline ++ s.wakeDeadline.toList
    match earliest deadlines with
    | none => { s with time := target }
    | some deadline =>
      if target < deadline then { s with time := target }
      else
        let s := { s with time := max s.time deadline }
        let s := s.expireAll
        let s := if s.wakeDeadline.any (· ≤ s.time) then s.serve .wake else s
        advanceTo s.settle target fuel

/-! ## Actions -/

/-- The server reads nothing more from a line, or the client ended that direction itself. -/
def isDeaf (s : State) (l : Line) : Bool :=
  l.inputEnded ||
    match l.accepted.bind fun i => s.serving.connections[i]? with
    | some ⟨_, c⟩ => c.hasEnded
    | none => l.outputEnded

/-- The client of a line sends bytes.  To send none always succeeds. -/
def send (s : State) (line : Nat) (bytes : Bytes) : State :=
  match s.lines[line]? with
  | none => s
  | some l =>
    if bytes.isEmpty then s
    else if s.isDeaf l then { s with report := { s.report with writeFailed := true } }
    else
      match l.accepted with
      | some i => s.serve (.connection i (.arrive bytes))
      | none => s.modifyLine line fun l => { l with early := l.early ++ bytes }

/-- The client of a line ends its stream. -/
def endInput (s : State) (line : Nat) : State :=
  match s.lines[line]? with
  | none => s
  | some l =>
    let s := s.modifyLine line fun l => { l with inputEnded := true }
    match l.accepted with
    | some i => s.serve (.connection i .endInput)
    | none => s

/-- The client of a line reads nothing more. -/
def stopReading (s : State) (line : Nat) : State :=
  s.modifyLine line fun l => { l with reads := false }

/-- The client of a line sends requests. -/
def request (s : State) (line : Nat) (requests : List (Header × Bytes)) : State :=
  let encoded := requests.map fun (header, payload) => Envelope.encode header payload
  let frames := encoded.filterMap fun body => body.toOption.map Frame.encode
  let refused := encoded.filterMap fun body => match body with
    | .error cause => some cause
    | .ok _ => none
  let s := { s with report := { s.report with refused := refused.getLast? } }
  if frames.isEmpty then s else s.send line frames.flatten

/-- Does what a script says, up to the point where everything comes to rest. -/
def perform (s : State) : Action → State
  | .connect =>
    let line := s.lines.length
    let s' := { s with lines := s.lines ++ [Line.fresh] }
    if s.single then if line = 0 then s'.accept line else s'.dropUnserved line
    else { s' with queue := s.queue ++ [.connection line] }
  | .request line requests => s.request line requests
  | .frame line body => s.send line (Frame.encode body)
  | .bytes line bytes => s.send line bytes
  | .endInput line => s.endInput line
  | .stopReading line => s.stopReading line
  | .hangUp line => (s.stopReading line).endInput line
  | .failAccept cause =>
    if s.single || s.isOver then s else { s with queue := s.queue ++ [.failure cause] }
  | .advance ms => s.advanceTo (s.time + ms) (2 * (s.lines.length + s.queue.length) + 2)
  | .signal => if s.single then s else s.serve .signal
  | .release gate => { s with released := gate :: s.released }

/-! ## Reports -/

/-- The order of byte strings. -/
def bytesLe : Bytes → Bytes → Bool
  | [], _ => true
  | _ :: _, [] => false
  | a :: as, b :: bs => if a = b then bytesLe as bs else a < b

/-- Responses are reported by line, sequence number, error text and payload. -/
def responseLe (a b : Nat × Envelope) : Bool :=
  let (h, k) := (a.2.header, b.2.header)
  if a.1 ≠ b.1 then a.1 < b.1
  else if h.seq ≠ k.seq then h.seq < k.seq
  else if h.error ≠ k.error then h.error < k.error
  else bytesLe a.2.payload b.2.payload

/-- What the handlers that run now wait for. -/
def running (s : State) : List Nat :=
  s.serving.connections.flatMap fun c => Script.runningGates ⟨true, s.released⟩ c.state

/-- The report on the action that was just performed. -/
def finalReport (s : State) : Report :=
  { s.report with
    responses := s.report.responses.mergeSort responseLe
    ended := s.report.ended.mergeSort fun a b => a ≤ b
    running := s.running.mergeSort fun a b => a ≤ b }

/-- Performs one action and reports what came of it. -/
def act (s : State) (action : Action) : Report × State :=
  let s := ({ s with report := .nothing }.perform action).settle
  (s.finalReport, s)

end State

/-- How the server stands. -/
inductive Verdict
  /-- Nothing was ever served. -/
  | idle
  | serving
  | returned (outcome : Option LinkError)
  | brokenDown
  deriving DecidableEq, Repr

/-- How the server stands at the end of a script. -/
def State.verdict (s : State) : Verdict :=
  if s.single then
    match s.serving.connections with
    | [] => if s.serving.phase = .brokenDown then .brokenDown else .idle
    | c :: _ => if c.state.hasEnded then .returned none else .serving
  else
    match s.serving.phase with
    | .returned outcome => .returned outcome
    | .brokenDown => .brokenDown
    | _ => .serving

/-- Whether the listener is closed at the end of a script. -/
def State.listenerClosed (s : State) : Bool :=
  match s.serving.phase with
  | .returned _ => true
  | _ => false

/-- Performs a whole script. -/
def run (s : State) : List Action → List Report × State
  | [] => ([], s)
  | action :: actions =>
    let done := s.act action
    let rest := run done.2 actions
    (done.1 :: rest.1, rest.2)

end RemoteCall.Script.Server
