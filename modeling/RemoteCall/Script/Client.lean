import RemoteCall.Client.Machine

/-!
# Scripts for a client

A script plays the callers of one client and the server at the far end, in virtual time.  The pipe
to the server holds only so many bytes; while the server is stalled it takes nothing out of it.
After each action everything comes to rest, and the report tells what the server received meanwhile,
what happened, which calls are over and which still wait.
-/

namespace RemoteCall.Script.Client

open RemoteCall.Client (Label Outcome Effect)

/-! ## Coming to rest -/

/-- What a call can do next. -/
def callLabel (index : Nat) (c : RemoteCall.Client.Call) : Option Label :=
  match c.stage with
  | .registered => some (.frame index)
  | .queueing _ => some (.submit index)
  | .waiting => if c.slot.isSome then some (.collect index) else none
  | _ => none

/-- What the calls can do next, earlier ones first. -/
def callLabels : (index : Nat) → List RemoteCall.Client.Call → List Label
  | _, [] => []
  | index, c :: calls =>
    match callLabel index c with
    | some label => label :: callLabels (index + 1) calls
    | none => callLabels (index + 1) calls

/-- What the closers can do next, earlier ones first. -/
def closerLabels (count : Nat) : List Label :=
  (List.range count).flatMap fun k =>
    [.closerAct k, .abortReader k, .submitClose k, .returnClose k]

/-- What the pipe to the server allows. -/
structure Outlet where
  /-- How many bytes there is room for. -/
  room : Nat
  /-- The server dropped its end. -/
  broken : Bool

/-- What the writer can do with its pipe. -/
def writeLabels (outlet : Outlet) (s : RemoteCall.Client.State) : List Label :=
  match s.writer.phase with
  | .writing left =>
    if outlet.broken then [.failWrite .brokenPipe] else [.write (left.take outlet.room).length]
  | _ => []

/-- The steps to try, in the order in which they are tried.  Of a peer that left, the reader hears
first, and the writer goes as far as it can before a caller gets the room that it made. -/
def labels (outlet : Outlet) (s : RemoteCall.Client.State) : List Label :=
  [.dropperAct, .readerAct, .writerAct, .receive, .stopReader] ++ writeLabels outlet s ++
    [.dequeue, .endOutput, .retire] ++ callLabels 0 s.calls ++ closerLabels s.closers.length ++
    [.drop]

/-- The first step that can be taken. -/
def firstStep (setup : RemoteCall.Client.Setup) (s : RemoteCall.Client.State) :
    List Label → Option (Label × RemoteCall.Client.State × List Effect)
  | [] => none
  | label :: labels =>
    match RemoteCall.Client.step setup s label with
    | some (s, effects) => some (label, s, effects)
    | none => firstStep setup s labels

/-! ## The far end -/

/-- The server of a script, and the pipe to it. -/
structure Far where
  capacity : Nat
  /-- What is in the pipe. -/
  held : Bytes
  /-- The client ended its stream. -/
  ended : Bool
  stalled : Bool
  /-- The server waits for a frame, as it does whenever everything came to rest while it was not
  stalled; if it is stalled then, it still takes that one. -/
  expectsOne : Bool
  /-- The server dropped its reading end. -/
  deserted : Bool
  /-- The server ended its own stream. -/
  silent : Bool
  /-- What the server took from the pipe and is no whole frame yet, in pieces, the last first. -/
  arrived : List Bytes
  /-- The server saw the end of the client's stream. -/
  sawEnd : Bool

/-- What the server took from the pipe and is no whole frame yet. -/
def Far.received (far : Far) : Bytes :=
  far.arrived.reverse.flatten

/-- The server takes what it can out of the pipe: everything, or while it is stalled at most one
frame for which it was waiting already. -/
def Far.take (far : Far) : Far :=
  if far.deserted then far
  else if far.stalled then
    if far.expectsOne then
      match Frame.scan Frame.longest (far.received ++ far.held) with
      | .frame body rest =>
        { far with arrived := [Frame.encode body], held := rest, expectsOne := false }
      | _ => { far with arrived := far.held :: far.arrived, held := [] }
    else far
  else { far with arrived := far.held :: far.arrived, held := [] }

/-- Whether the server would see the end of the client's stream. -/
def Far.seesEnd (far : Far) : Bool :=
  far.ended && !far.deserted && (!far.stalled || far.expectsOne)

/-- What the pipe allows. -/
def Far.outlet (far : Far) : Outlet :=
  ⟨far.capacity - far.held.length, far.deserted⟩

/-! ## Scripts -/

/-- How a script makes a call.  The name is the script's own. -/
structure Request where
  id : String
  method : String
  /-- The bytes of the arguments, unless they have no byte form. -/
  payload : Except CodecError Bytes
  /-- The caller needs the client until the call is over. -/
  keepsClient : Bool

/-- What a script can do. -/
inductive Action
  | call (requests : List Request)
  | respond (responses : List (Header × Bytes))
  | frame (body : Bytes)
  | bytes (bytes : Bytes)
  | abandon (id : String)
  | close
  | release
  | endInput
  | stopReading
  | leave
  | stall
  | resume
  | advance (milliseconds : Nat)
  | look

/-- A call that the script made: the number it has with the client, if it came that far. -/
structure Tracked where
  request : Request
  call : Option Nat
  /-- Its end was reported, or the script gave it up. -/
  reported : Bool

/-- A call that is over. -/
structure Done where
  request : Request
  /-- Its number, if it was handed over. -/
  seq : Option Nat
  outcome : Outcome

/-- A call that still waits. -/
structure Waiting where
  request : Request
  /-- Its number, if it was handed over. -/
  seq : Option Nat

/-- What came of an action. -/
structure Report where
  sent : List Envelope
  events : List Event
  done : List Done
  waiting : List Waiting
  /-- The size of the table and whether it is shut, while the script has the client. -/
  table : Option (Nat × Bool)
  closesReturned : Nat
  writeSideEnded : Bool
  writeFailed : Bool

/-- How a script begins. -/
structure Beginning where
  setup : RemoteCall.Client.Setup
  capacity : Nat
  stalled : Bool
  receiveTimeout : Option Nat
  sendTimeout : Option Nat

/-- Where a script is. -/
structure State where
  beginning : Beginning
  client : RemoteCall.Client.State
  far : Far
  tracked : List Tracked
  /-- In milliseconds. -/
  time : Nat
  /-- When the reader began to wait for a frame. -/
  receivingSince : Nat
  /-- When the writer began to write a frame. -/
  sendingSince : Nat
  events : List Event
  writeFailed : Bool

/-- The beginning of a script. -/
def start (b : Beginning) : State where
  beginning := b
  client := RemoteCall.Client.start
  far := ⟨b.capacity, [], false, b.stalled, false, false, false, [], false⟩
  tracked := []
  time := 0
  receivingSince := 0
  sendingSince := 0
  events := []
  writeFailed := false

namespace State

/-- Takes over what the client showed. -/
def take (s : State) : Effect → State
  | .event event => { s with events := event :: s.events }
  | .bytes bytes => { s with far := { s.far with held := s.far.held ++ bytes }.take }
  | .endOutput => { s with far := { s.far with ended := true } }

/-- Keeps the times at which the client began to wait. -/
def keepTimes (s : State) : Label → State
  | .receive => { s with receivingSince := s.time }
  | .dequeue => { s with sendingSince := s.time }
  | _ => s

/-- Takes a step of the client, if it can be taken. -/
def step (s : State) (label : Label) : State :=
  match RemoteCall.Client.step s.beginning.setup s.client label with
  | some (client, effects) => effects.foldl take ({ s with client := client }.keepTimes label)
  | none => s

/-- Takes at most `fuel` steps. -/
def settleFor (s : State) : (fuel : Nat) → State
  | 0 => s
  | fuel + 1 =>
    match firstStep s.beginning.setup s.client (labels s.far.outlet s.client) with
    | none => s
    | some (label, client, effects) =>
      settleFor (effects.foldl take ({ s with client := client }.keepTimes label)) fuel

/-- How many bytes a call may still put on the wire.  Compression makes a payload longer by less
than a half, and a header is short. -/
def callBytes (c : RemoteCall.Client.Call) : Nat :=
  match c.stage with
  | .registered => 2 * c.payload.length + 2048
  | .queueing frame => frame.length + 4
  | _ => 0

/-- How many bytes something in the outbox puts on the wire. -/
def itemBytes : RemoteCall.Client.Item → Nat
  | .request _ frame => frame.length + 4
  | .close => 0

/-- How many bytes the client may still write. -/
def bytesAhead (c : RemoteCall.Client.State) : Nat :=
  c.calls.foldl (fun n call => n + callBytes call) 0 +
    c.outbox.items.foldl (fun n item => n + itemBytes item) 0 +
    match c.writer.phase with
    | .writing left => left.length
    | _ => 0

/-- A bound on the steps that are possible without the outside world: every write takes at least one
byte, every frame that is read has at least four, and calls and closers take a fixed number of
steps, but for the calls that each of them may have to settle. -/
def stepBound (s : State) : Nat :=
  s.client.inbox.length + bytesAhead s.client +
    16 * (s.client.calls.length + s.client.outbox.items.length) +
    (s.client.calls.length + 8) * (s.client.closers.length + 1) + 64

/-- Lets everything come to rest. -/
def settle (s : State) : State :=
  s.settleFor s.stepBound

/-! ## Time -/

/-- When the reader gives up. -/
def receiveDeadline (s : State) : Option Nat :=
  if s.client.isReading then s.beginning.receiveTimeout.map (s.receivingSince + ·) else none

/-- When the writer gives up. -/
def sendDeadline (s : State) : Option Nat :=
  match s.client.writer.phase with
  | .writing _ => s.beginning.sendTimeout.map (s.sendingSince + ·)
  | _ => none

/-- Does what is due. -/
def expire (s : State) : State :=
  let s :=
    if s.receiveDeadline.any (· ≤ s.time) then s.step (.failReceive (.timeout .receive)) else s
  if s.sendDeadline.any (· ≤ s.time) then s.step (.failWrite (.timeout .send)) else s

/-- Lets time pass until `target`, and does at each deadline what is due. -/
def advanceTo (s : State) (target : Nat) : (fuel : Nat) → State
  | 0 => { s with time := target }
  | fuel + 1 =>
    match s.receiveDeadline.toList ++ s.sendDeadline.toList with
    | [] => { s with time := target }
    | d :: ds =>
      let deadline := ds.foldl min d
      if target < deadline then { s with time := target }
      else advanceTo ({ s with time := max s.time deadline }.expire.settle) target fuel

/-! ## Actions -/

/-- The server sends bytes.  To send none always succeeds. -/
def send (s : State) (bytes : Bytes) : State :=
  if bytes.isEmpty then s
  else if s.far.silent || (s.client.reader.ended && s.client.reader.todo.isEmpty) then
    { s with writeFailed := true }
  else s.step (.arrive bytes)

/-- A caller makes a call and goes as far as it can without waiting. -/
def call (s : State) (r : Request) : State :=
  match r.payload with
  | .error _ => { s with tracked := s.tracked ++ [⟨r, none, false⟩] }
  | .ok payload =>
    let index := s.client.calls.length
    let s : State := { s with tracked := s.tracked ++ [⟨r, some index, false⟩] }
    ((s.step (.call r.method payload r.keepsClient)).step (.frame index)).step (.submit index)

/-- The script gives up a call. -/
def abandon (s : State) (id : String) : State :=
  match s.tracked.find? fun t => t.request.id = id && !t.reported with
  | none => s
  | some t =>
    let s := { s with
      tracked := s.tracked.map fun u =>
        if u.request.id = id && !u.reported then { u with reported := true } else u }
    match t.call with
    | some i => s.step (.abandon i)
    | none => s

/-- Does what a script says, up to the point where everything comes to rest. -/
def perform (s : State) : Action → State
  | .call requests => requests.foldl call s
  | .respond responses =>
    let frames := responses.filterMap fun (header, payload) =>
      (Envelope.encode header payload).toOption.map Frame.encode
    if frames.isEmpty then s else s.send frames.flatten
  | .frame body => s.send (Frame.encode body)
  | .bytes bytes => s.send bytes
  | .abandon id => s.abandon id
  | .close => s.step .close
  | .release => s.step .release
  | .endInput => { s with far := { s.far with silent := true } }.step .endInput
  | .stopReading => { s with far := { s.far with deserted := true, held := [] } }
  | .leave =>
    { s with far := { s.far with silent := true, deserted := true, held := [] } }.step .endInput
  | .stall => { s with far := { s.far with stalled := true } }
  | .resume => { s with far := { s.far with stalled := false }.take }
  | .advance ms => s.advanceTo (s.time + ms) (2 * s.client.calls.length + 8)
  | .look => s

/-! ## Reports -/

/-- Cuts whole frames off what arrived. -/
def cutFrames (arrived : Bytes) (found : Array Envelope) : (fuel : Nat) → Array Envelope × Bytes
  | 0 => (found, arrived)
  | fuel + 1 =>
    match Frame.scan Frame.longest arrived with
    | .frame body rest =>
      match Envelope.decode body with
      | .ok envelope => cutFrames rest (found.push envelope) fuel
      | .error _ => cutFrames rest found fuel
    | _ => (found, arrived)

/-- Where a tracked call stands. -/
inductive Standing
  | done (seq : Option Nat) (outcome : Outcome)
  | waiting (seq : Option Nat)

/-- Where a tracked call stands. -/
def standing (s : State) (t : Tracked) : Standing :=
  match t.request.payload, t.call.bind fun i => s.client.calls[i]? with
  | .error cause, _ => .done none (.error (.link (.codec cause)))
  | .ok _, none => .done none (.error .closed)
  | .ok _, some c =>
    let seq := if t.request.keepsClient then none else c.seq
    match c.stage with
    | .failed cause => .done none (.error cause)
    | .finished outcome => .done seq outcome
    | .waiting => .waiting seq
    | _ => .waiting none

/-- The calls that came to an end and were not reported. -/
def doneCalls (s : State) : List Done :=
  s.tracked.filterMap fun t =>
    if t.reported then none
    else
      match s.standing t with
      | .done seq outcome => some ⟨t.request, seq, outcome⟩
      | .waiting _ => none

/-- The calls that still wait. -/
def waitingCalls (s : State) : List Waiting :=
  s.tracked.filterMap fun t =>
    if t.reported then none
    else
      match s.standing t with
      | .done _ _ => none
      | .waiting seq => some ⟨t.request, seq⟩

/-- Counts the calls that came to an end as reported. -/
def markReported (s : State) : State :=
  { s with
    tracked := s.tracked.map fun t =>
      match s.standing t with
      | .done _ _ => { t with reported := true }
      | .waiting _ => t }

/-- Lets everything come to rest, also what waits no time at all. -/
def rest (s : State) : State :=
  s.settle.expire.settle

/-- Performs one action and reports what came of it. -/
def act (s : State) (action : Action) : Report × State :=
  let s := ({ s with events := [], writeFailed := false }.rest.perform action).rest
  let received := s.far.received
  let cut := cutFrames received #[] (received.length / 4 + 1)
  let seesEnd := s.far.seesEnd
  let report : Report := {
    sent := cut.1.toList.mergeSort fun a b => a.header.seq ≤ b.header.seq
    events := s.events
    done := s.doneCalls.mergeSort fun a b => a.request.id ≤ b.request.id
    waiting := s.waitingCalls.mergeSort fun a b => a.request.id ≤ b.request.id
    table := if s.client.held then
        some (s.client.pending.entries.length, s.client.pending.shut)
      else none
    closesReturned := s.client.closers.countP fun c => c.stage = .returned
    writeSideEnded := seesEnd && !s.far.sawEnd
    writeFailed := s.writeFailed }
  (report,
    { s.markReported with
      far := { s.far with
        arrived := [cut.2]
        expectsOne := !s.far.stalled || s.far.expectsOne
        sawEnd := s.far.sawEnd || seesEnd } })

end State

/-- Performs a whole script. -/
def run (s : State) : List Action → List Report
  | [] => []
  | action :: actions =>
    let done := s.act action
    done.1 :: run done.2 actions

end RemoteCall.Script.Client
