import RemoteCall.Server.Answer
import RemoteCall.Service.Registry

/-!
# One served connection

A connection reads requests one after the other.  Each request whose target exists is dispatched as
a task of its own, as soon as one of the connection's permits is free; while the connection waits
for a permit it reads nothing more.  A request for an unknown target is answered by the connection
itself before it reads on.  Tasks run their handlers and answer in any order.  There is one writer,
which a task holds from the first byte of its response to the last; a response may go out in any
number of pieces, and writing may fail at any point.  A task gives its permit back when it has
reported how its answer fared.

The connection stops reading when the peer ends its stream, when a frame is broken, when reading
fails, or when the server shuts down.  It then waits for its tasks, ends its own stream, and reports
that it ended.

`Connection.step` is one step of one of the parties.  What the parties do and when is left open, so
everything that is true of all runs is true under every scheduling.
-/

namespace RemoteCall.Connection

/-- What a connection is served with. -/
structure Setup where
  peer : String
  registry : Registry Method
  /-- The limit on frames in both directions. -/
  frameLimit : Nat

/-- A request as it was read. -/
structure Request where
  method : String
  seq : UInt64
  payload : Bytes
  deriving DecidableEq, Repr

/-- How far the answer to a request is. -/
inductive Stage
  /-- Its target exists, but it has no permit yet. -/
  | waiting
  /-- It has a permit, and its handler has not run. -/
  | dispatched
  /-- Its answer is known and waits for the writer. -/
  | answered (reply : Reply)
  /-- Its answer is being written. -/
  | writing
  /-- Its answer is out, or was given up for this reason. -/
  | settled (failure : Option LinkError)
  /-- It was reported how the answer fared. -/
  | reported (failure : Option LinkError)
  deriving DecidableEq, Repr

/-- Whether nothing remains to be done about a request. -/
def Stage.isOver : Stage → Bool
  | reported _ => true
  | _ => false

/-- A request and what became of it; without a handler, its target does not exist. -/
structure Task where
  request : Request
  handler : Option Method
  stage : Stage

/-- What the connection itself is doing.  From `draining` on it is known whether a failure ended the
reading. -/
inductive Phase
  | starting
  | reading
  /-- Busy with the request that was read last, which has this number. -/
  | busy (task : Nat)
  | draining (failure : Option LinkError)
  | closing (failure : Option LinkError)
  | closed (failure : Option LinkError)
  | ended (failure : Option LinkError)
  deriving DecidableEq, Repr

/-- The state of a connection. -/
structure State where
  phase : Phase
  /-- All requests that were read, in order. -/
  tasks : List Task
  /-- How many permits are free. -/
  permits : Nat
  /-- The task whose answer is being written, and what is left of it. -/
  writing : Option (Nat × Bytes)
  /-- What arrived and was not read. -/
  inbox : Bytes
  /-- The peer ended its stream. -/
  inputEnded : Bool
  /-- The server is shutting down. -/
  shutdown : Bool

/-- A connection that was just accepted. -/
def start (permits : Nat) : State :=
  ⟨.starting, [], permits, none, [], false, false⟩

/-- What a step shows to the outside. -/
inductive Effect
  | event (event : Event)
  | bytes (bytes : Bytes)
  | endOutput
  deriving DecidableEq, Repr

/-- A step: who does what.  Tasks are named by their numbers. -/
inductive Label
  /-- The peer sends bytes. -/
  | arrive (bytes : Bytes)
  /-- The peer ends its stream. -/
  | endInput
  /-- The server begins to shut down. -/
  | shutdown
  /-- The connection reports that it is served. -/
  | announce
  /-- The connection learns of the shutdown. -/
  | notice
  /-- The connection reads a frame, or finds that it cannot. -/
  | read
  /-- Reading fails for a reason that is not in the bytes. -/
  | failRead (cause : LinkError)
  /-- The request that was read last gets a permit. -/
  | acquire
  | handle (task : Nat)
  | takeWriter (task : Nat)
  /-- The first `n` bytes that are left go out. -/
  | write (n : Nat)
  | failWrite (cause : LinkError)
  /-- A task reports how its answer fared and gives its permit back. -/
  | report (task nanos : Nat)
  /-- The answer to an unknown target is settled, and the connection goes on. -/
  | resume
  /-- All tasks are over. -/
  | drain
  | endOutput
  | announceEnd
  deriving DecidableEq, Repr

namespace State

/-- Puts a task into a stage. -/
def setStage (s : State) (i : Nat) (stage : Stage) : State :=
  { s with tasks := s.tasks.modify i fun t => { t with stage := stage } }

/-- Stops reading. -/
def stop (s : State) (failure : Option LinkError) : State :=
  { s with phase := .draining failure }

/-- Reading failed; the end of the stream is no failure. -/
def stopReading (s : State) (cause : LinkError) : State :=
  s.stop (if cause = .closed then none else some cause)

/-- Takes over a request that was read. -/
def takeOver (setup : Setup) (s : State) (request : Request) : State × List Effect :=
  let busy := { s with phase := .busy s.tasks.length }
  match setup.registry.lookup request.method with
  | .ok method => ({ busy with tasks := s.tasks ++ [⟨request, some method, .waiting⟩] }, [])
  | .error cause =>
    ({ busy with
        tasks := s.tasks ++ [⟨request, none, .answered (.failed .dispatch cause.message)⟩] },
      [.event (.unknownMethod setup.peer request.method request.seq)])

/-- Reads what stands at the front of the inbox; nothing happens while a frame is incomplete. -/
def read (setup : Setup) (s : State) : Option (State × List Effect) :=
  match Frame.scan setup.frameLimit s.inbox with
  | .frame body rest =>
    let s := { s with inbox := rest }
    match Envelope.decode body with
    | .ok ⟨header, payload⟩ => some (s.takeOver setup ⟨header.method, header.seq, payload⟩)
    | .error cause => some (s.stopReading cause, [])
  | .tooLarge length rest =>
    some ({ s with inbox := rest }.stopReading (Frame.overLimit length setup.frameLimit), [])
  | .short => if s.inputEnded then some (s.stopReading .closed, []) else none

/-- Whether every task is over. -/
def isDrained (s : State) : Bool :=
  s.tasks.all fun t => t.stage.isOver

/-- Runs the handler of a dispatched task. -/
def handle (s : State) (i : Nat) : Option (State × List Effect) :=
  match s.tasks[i]? with
  | some ⟨request, some method, .dispatched⟩ =>
    match method.invoke request.method request.payload with
    | .replied events reply => some (s.setStage i (.answered reply), events.map .event)
    | .panicked => some (s.setStage i (.answered (.panicked request.method)), [])
  | _ => none

/-- Begins to write an answer, if there is a frame for it. -/
def takeWriter (setup : Setup) (s : State) (i : Nat) : Option (State × List Effect) :=
  match s.writing, s.tasks[i]? with
  | none, some ⟨request, _, .answered reply⟩ =>
    match reply.frameOrSubstitute setup.frameLimit request.seq with
    | .ok frame => some ({ s.setStage i .writing with writing := some (i, frame) }, [])
    | .error cause => some (s.setStage i (.settled (some cause)), [])
  | _, _ => none

/-- Writes the next `n` bytes. -/
def write (s : State) (n : Nat) : Option (State × List Effect) :=
  match s.writing with
  | some (i, left) =>
    if n = 0 ∨ left.length < n then none
    else if n = left.length then
      some ({ s.setStage i (.settled none) with writing := none }, [.bytes left])
    else some ({ s with writing := some (i, left.drop n) }, [.bytes (left.take n)])
  | none => none

/-- Gives up writing. -/
def failWrite (s : State) (cause : LinkError) : Option (State × List Effect) :=
  match s.writing with
  | some (i, _) => some ({ s.setStage i (.settled (some cause)) with writing := none }, [])
  | none => none

/-- What a task reports at its end. -/
def outcomeEvent (request : Request) (nanos : Nat) : Option LinkError → Event
  | none => .written request.method request.seq nanos
  | some cause => .failed request.method request.seq cause.message

/-- Ends a dispatched task. -/
def report (s : State) (i nanos : Nat) : Option (State × List Effect) :=
  match s.tasks[i]? with
  | some ⟨request, some _, .settled failure⟩ =>
    some ({ s.setStage i (.reported failure) with permits := s.permits + 1 },
      [.event (outcomeEvent request nanos failure)])
  | _ => none

/-- Gives the request that was read last a permit. -/
def acquire (s : State) : Option (State × List Effect) :=
  match s.phase with
  | .busy i =>
    match s.tasks[i]? with
    | some ⟨_, some _, .waiting⟩ =>
      if s.permits = 0 then none
      else some ({ s.setStage i .dispatched with permits := s.permits - 1, phase := .reading }, [])
    | _ => none
  | _ => none

/-- Goes on after the answer to an unknown target, unless it could not be sent. -/
def resume (s : State) : Option (State × List Effect) :=
  match s.phase with
  | .busy i =>
    match s.tasks[i]? with
    | some ⟨_, none, .settled none⟩ =>
      some ({ s.setStage i (.reported none) with phase := .reading }, [])
    | some ⟨_, none, .settled (some cause)⟩ =>
      some ((s.setStage i (.reported (some cause))).stop (some cause), [])
    | _ => none
  | _ => none

end State

/-- One step of a connection, and what it shows; `none` if the step cannot be taken. -/
def step (setup : Setup) (s : State) : Label → Option (State × List Effect)
  | .arrive bytes => if s.inputEnded then none else some ({ s with inbox := s.inbox ++ bytes }, [])
  | .endInput => some ({ s with inputEnded := true }, [])
  | .shutdown => some ({ s with shutdown := true }, [])
  | .announce =>
    match s.phase with
    | .starting => some ({ s with phase := .reading }, [.event (.accepted setup.peer)])
    | _ => none
  | .notice =>
    match s.phase with
    | .reading => if s.shutdown then some (s.stop none, []) else none
    | _ => none
  | .read =>
    match s.phase with
    | .reading => s.read setup
    | _ => none
  | .failRead cause =>
    match s.phase with
    | .reading => some (s.stopReading cause, [])
    | _ => none
  | .acquire => s.acquire
  | .handle i => s.handle i
  | .takeWriter i => s.takeWriter setup i
  | .write n => s.write n
  | .failWrite cause => s.failWrite cause
  | .report i nanos => s.report i nanos
  | .resume => s.resume
  | .drain =>
    match s.phase with
    | .draining failure =>
      if s.isDrained then some ({ s with phase := .closing failure }, []) else none
    | _ => none
  | .endOutput =>
    match s.phase with
    | .closing failure => some ({ s with phase := .closed failure }, [.endOutput])
    | _ => none
  | .announceEnd =>
    match s.phase with
    | .closed failure =>
      some ({ s with phase := .ended failure },
        [.event (.ended setup.peer (failure.map LinkError.message))])
    | _ => none

/-- Whether the connection is done and no longer reads. -/
def State.hasEnded (s : State) : Bool :=
  match s.phase with
  | .ended _ => true
  | _ => false

end RemoteCall.Connection
