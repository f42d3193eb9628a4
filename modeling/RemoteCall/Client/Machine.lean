import RemoteCall.Client.Pending
import RemoteCall.Envelope.Frame
import RemoteCall.Frame.Basic
import RemoteCall.Event

/-!
# A client

Any number of callers share one connection.  A caller registers its call, which gives it a number,
turns it into a frame, waits for room in the outbox, and then waits for the outcome, which appears
in the call's slot.  A caller may give up wherever it has to wait; its call is then taken off the
table.

A writer takes frames from the outbox and writes them one after the other.  A frame over the limit
is refused before any of it goes out, and only its own call fails.  A reader takes frames from the
connection and puts each response into the slot of the call with its number; a response on which
nobody waits is reported and dropped.

The connection is over when the reader or the writer fails, when somebody closes the client, or when
the last user of the client lets go of it.  Whoever notices takes all calls off the table and then
settles them one by one, which others may see happen in between.  What each party has still to do
stands in a list of `Act`s.

`Client.step` is one step of one of the parties.  What the parties do and when is left open.
-/

namespace RemoteCall.Client

/-- Results can be compared. -/
instance decidableEqResult {ε α : Type} [DecidableEq ε] [DecidableEq α] : DecidableEq (Except ε α)
  | .ok a, .ok b => decidable_of_iff (a = b) ⟨congrArg Except.ok, Except.ok.inj⟩
  | .error a, .error b => decidable_of_iff (a = b) ⟨congrArg Except.error, Except.error.inj⟩
  | .ok _, .error _ => isFalse nofun
  | .error _, .ok _ => isFalse nofun

/-- What a call comes to. -/
abbrev Outcome := Except CallError Bytes

/-- How a client is set up. -/
structure Setup where
  peer : String
  /-- The limit on frames in both directions. -/
  frameLimit : Nat

/-- How many frames and requests to close the outbox holds. -/
def outboxCapacity : Nat := 64

/-- Where a caller is. -/
inductive Stage
  /-- It has a number. -/
  | registered
  /-- Its frame waits for room in the outbox. -/
  | queueing (frame : Bytes)
  /-- Its frame was handed over, and it waits for the outcome. -/
  | waiting
  /-- It failed before its frame was handed over. -/
  | failed (cause : CallError)
  | finished (outcome : Outcome)
  | abandoned
  deriving DecidableEq, Repr

/-- A call. -/
structure Call where
  method : String
  payload : Bytes
  /-- The caller needs the client until its call is over, and not only until it is handed over. -/
  keepsClient : Bool
  /-- Its number, if it could be registered. -/
  seq : Option Nat
  stage : Stage
  /-- Where the outcome appears. -/
  slot : Option Outcome
  deriving DecidableEq, Repr

/-- Whether somebody still waits for this call. -/
def Call.isOpen (c : Call) : Bool :=
  match c.stage with
  | .registered => true
  | .queueing _ => true
  | .waiting => true
  | _ => false

/-- Whether this call needs the client. -/
def Call.holdsClient (c : Call) : Bool :=
  match c.stage with
  | .registered => true
  | .queueing _ => true
  | .waiting => c.keepsClient
  | _ => false

/-- What is in the outbox. -/
inductive Item
  | request (seq : Nat) (frame : Bytes)
  | close
  deriving DecidableEq, Repr

/-- The queue in front of the writer; nothing can be put into it once the writer has left. -/
structure Outbox where
  items : List Item
  isOpen : Bool
  deriving DecidableEq, Repr

/-- Something that a party is bound to do next. -/
inductive Act
  | announce (event : Event)
  | settle (call : Nat) (outcome : Outcome)
  deriving DecidableEq, Repr

/-- The party that reads responses. -/
structure Reader where
  todo : List Act
  /-- It reads nothing more. -/
  ended : Bool
  /-- It was told to stop. -/
  abort : Bool
  deriving DecidableEq, Repr

/-- What the writer is doing. -/
inductive WriterPhase
  | idle
  | writing (left : Bytes)
  /-- It is about to end the stream. -/
  | closing
  | closed
  | ended
  deriving DecidableEq, Repr

/-- The party that writes requests. -/
structure Writer where
  todo : List Act
  phase : WriterPhase
  deriving DecidableEq, Repr

/-- How far somebody is who closes the client. -/
inductive CloserStage
  | settling
  | queueing
  | waiting
  | returned
  deriving DecidableEq, Repr

/-- Somebody who closes the client. -/
structure Closer where
  todo : List Act
  stage : CloserStage
  deriving DecidableEq, Repr

/-- The state of a client. -/
structure State where
  pending : Pending
  /-- All calls, in the order in which they began. -/
  calls : List Call
  outbox : Outbox
  reader : Reader
  writer : Writer
  closers : List Closer
  /-- The client can still be used for new calls. -/
  held : Bool
  /-- What is to be done because the last user let go of the client, once that happened. -/
  dropped : Option (List Act)
  /-- What arrived and was not read. -/
  inbox : Bytes
  /-- The peer ended its stream. -/
  inputEnded : Bool
  deriving DecidableEq, Repr

/-- A client that was just connected. -/
def start : State where
  pending := .empty
  calls := []
  outbox := ⟨[], true⟩
  reader := ⟨[], false, false⟩
  writer := ⟨[], .idle⟩
  closers := []
  held := true
  dropped := none
  inbox := []
  inputEnded := false

/-- What a step shows to the outside. -/
inductive Effect
  | event (event : Event)
  | bytes (bytes : Bytes)
  | endOutput
  deriving DecidableEq, Repr

/-- A step: who does what.  Calls and closers are named by their numbers. -/
inductive Label
  | call (method : String) (payload : Bytes) (keepsClient : Bool)
  /-- A caller turns its call into a frame. -/
  | frame (call : Nat)
  /-- A caller hands its frame over, or finds the outbox closed. -/
  | submit (call : Nat)
  /-- A caller takes the outcome out of its slot. -/
  | collect (call : Nat)
  | abandon (call : Nat)
  /-- The peer sends bytes. -/
  | arrive (bytes : Bytes)
  /-- The peer ends its stream. -/
  | endInput
  /-- The reader takes a frame, or finds that it cannot. -/
  | receive
  /-- Reading fails for a reason that is not in the bytes. -/
  | failReceive (cause : LinkError)
  | readerAct
  /-- The reader stops because it was told to. -/
  | stopReader
  /-- The writer takes something from the outbox, or finds that nothing will come any more. -/
  | dequeue
  /-- The first `n` bytes that are left go out. -/
  | write (n : Nat)
  | failWrite (cause : LinkError)
  | writerAct
  | endOutput
  /-- The writer leaves. -/
  | retire
  | close
  | closerAct (closer : Nat)
  /-- A closer tells the reader to stop. -/
  | abortReader (closer : Nat)
  | submitClose (closer : Nat)
  | returnClose (closer : Nat)
  /-- No new calls will be made. -/
  | release
  /-- The last user has let go of the client. -/
  | drop
  | dropperAct
  deriving DecidableEq, Repr

namespace State

/-! ## Settling calls -/

/-- Puts a call into a stage. -/
def setStage (s : State) (i : Nat) (stage : Stage) : State :=
  { s with calls := s.calls.modify i fun c => { c with stage := stage } }

/-- Puts an outcome into a call's slot; nothing happens if nobody waits for it. -/
def settle (s : State) (i : Nat) (outcome : Outcome) : State :=
  { s with
    calls := s.calls.modify i fun c => if c.isOpen then { c with slot := some outcome } else c }

/-- Does what a party is bound to do. -/
def perform (s : State) : Act → State × List Effect
  | .announce event => (s, [.event event])
  | .settle call outcome => (s.settle call outcome, [])

/-- Takes the entry of a call off the table. -/
def forget (s : State) (c : Call) : State :=
  match c.seq with
  | some seq => { s with pending := s.pending.remove seq }
  | none => s

/-- Ends a call that was not handed over. -/
def fail (s : State) (i : Nat) (c : Call) (cause : CallError) : State :=
  (s.forget c).setStage i (.failed cause)

/-! ## The end of the connection -/

/-- What is to be done about all calls on the table, if each has this outcome. -/
def settleAll (s : State) (outcome : Outcome) : List Act :=
  s.pending.entries.map fun e => .settle e.call outcome

/-- The event that a client stops. -/
def shutdownEvent (setup : Setup) (s : State) (error : Option String) : Event :=
  .clientShutdown setup.peer s.pending.entries.length error

/-- What is to be done when the connection fails.  Only the first to notice has anything to do. -/
def failureActs (setup : Setup) (s : State) (cause : LinkError) : List Act :=
  if s.pending.shut then []
  else
    let error := if cause = .closed then none else some cause.message
    .announce (s.shutdownEvent setup error) :: s.settleAll (.error (.lost cause.message))

/-- Takes all calls off the table. -/
def shutDown (s : State) : State :=
  { s with pending := s.pending.shutDown }

/-! ## Callers -/

/-- A caller makes a call. -/
def call (s : State) (method : String) (payload : Bytes) (keepsClient : Bool) : State :=
  match s.pending.register s.calls.length with
  | none =>
    { s with calls := s.calls ++ [⟨method, payload, keepsClient, none, .failed .closed, none⟩] }
  | some (seq, pending) =>
    { s with
      pending := pending
      calls := s.calls ++ [⟨method, payload, keepsClient, some seq, .registered, none⟩] }

/-- A caller turns its call into a frame. -/
def frame (s : State) (i : Nat) : Option (State × List Effect) :=
  match s.calls[i]? with
  | some c =>
    match c.stage, c.seq with
    | .registered, some seq =>
      let wire := UInt64.ofNat seq
      match Envelope.encode (.request c.method wire) c.payload with
      | .error cause => some (s.fail i c (.link cause), [])
      | .ok frame => some (s.setStage i (.queueing frame), [.event (.issued c.method wire)])
    | _, _ => none
  | none => none

/-- Puts something into the outbox, if there is room. -/
def enqueue (s : State) (item : Item) : Option State :=
  if s.outbox.items.length < outboxCapacity then
    some { s with outbox := { s.outbox with items := s.outbox.items ++ [item] } }
  else none

/-- A caller hands its frame over. -/
def submit (s : State) (i : Nat) : Option (State × List Effect) :=
  match s.calls[i]? with
  | some c =>
    match c.stage, c.seq with
    | .queueing frame, some seq =>
      if s.outbox.isOpen then
        (s.enqueue (.request seq frame)).map fun s => (s.setStage i .waiting, [])
      else some (s.fail i c .closed, [])
    | _, _ => none
  | none => none

/-- A caller takes the outcome out of its slot. -/
def collect (s : State) (i : Nat) : Option (State × List Effect) :=
  match s.calls[i]? with
  | some c =>
    match c.stage, c.slot with
    | .waiting, some outcome => some (s.setStage i (.finished outcome), [])
    | _, _ => none
  | none => none

/-- A caller gives up. -/
def abandon (s : State) (i : Nat) : Option (State × List Effect) :=
  match s.calls[i]? with
  | some c =>
    match c.stage with
    | .queueing _ => some ((s.forget c).setStage i .abandoned, [])
    | .waiting => some ((s.forget c).setStage i .abandoned, [])
    | _ => none
  | none => none

/-! ## The reader -/

/-- What a response means to its call. -/
def outcomeOf (e : Envelope) : Outcome :=
  if e.header.isError then .error (.ofResponse e.header.kind e.header.error) else .ok e.payload

/-- The reader fails. -/
def failReader (setup : Setup) (s : State) (cause : LinkError) : State :=
  { s.shutDown with reader := { s.reader with todo := s.failureActs setup cause, ended := true } }

/-- The reader hands a response to the call that waits for it. -/
def deliver (s : State) (e : Envelope) : State × List Effect :=
  match s.pending.find e.header.seq.toNat with
  | none => (s, [.event (.discarded e.header.seq)])
  | some entry =>
    ({ s with
        pending := s.pending.remove entry.seq
        reader := { s.reader with todo := [.settle entry.call (outcomeOf e)] } }, [])

/-- The reader takes what stands at the front of the inbox; nothing happens while a frame is
incomplete. -/
def receive (setup : Setup) (s : State) : Option (State × List Effect) :=
  match Frame.scan setup.frameLimit s.inbox with
  | .frame body rest =>
    let s := { s with inbox := rest }
    match Envelope.decode body with
    | .ok envelope => some (s.deliver envelope)
    | .error cause => some (s.failReader setup cause, [])
  | .tooLarge length rest =>
    some ({ s with inbox := rest }.failReader setup (Frame.overLimit length setup.frameLimit), [])
  | .short => if s.inputEnded then some (s.failReader setup .closed, []) else none

/-- Whether the reader waits for a frame. -/
def isReading (s : State) : Bool :=
  !s.reader.ended && s.reader.todo.isEmpty

/-! ## The writer -/

/-- The writer begins with what stands first in the outbox. -/
def dequeue (setup : Setup) (s : State) : Option (State × List Effect) :=
  match s.writer with
  | ⟨[], .idle⟩ =>
    match s.outbox.items with
    | .request seq body :: items =>
      let s := { s with outbox := { s.outbox with items := items } }
      match Frame.encode? setup.frameLimit body with
      | .ok frame => some ({ s with writer := ⟨[], .writing frame⟩ }, [])
      | .error cause =>
        match s.pending.find seq with
        | none => some (s, [])
        | some entry =>
          some ({ s with
            pending := s.pending.remove seq
            writer := ⟨[.settle entry.call (.error (.link cause))], .idle⟩ }, [])
    | .close :: items =>
      some ({ s with
        outbox := { s.outbox with items := items }
        writer := ⟨[], .closing⟩ }, [])
    | [] => if s.dropped = some [] then some ({ s with writer := ⟨[], .closing⟩ }, []) else none
  | _ => none

/-- The writer writes the next `n` bytes. -/
def write (s : State) (n : Nat) : Option (State × List Effect) :=
  match s.writer with
  | ⟨todo, .writing left⟩ =>
    if n = 0 ∨ Bytes.isShorter n left then none
    else
      match left.drop n with
      | [] => some ({ s with writer := ⟨todo, .idle⟩ }, [.bytes left])
      | rest => some ({ s with writer := ⟨todo, .writing rest⟩ }, [.bytes (left.take n)])
  | _ => none

/-- The writer fails. -/
def failWrite (setup : Setup) (s : State) (cause : LinkError) : Option (State × List Effect) :=
  match s.writer with
  | ⟨_, .writing _⟩ =>
    some ({ s.shutDown with writer := ⟨s.failureActs setup cause, .closing⟩ }, [])
  | _ => none

/-! ## Closers -/

/-- Somebody begins to close the client. -/
def close (setup : Setup) (s : State) : State :=
  let todo := .announce (s.shutdownEvent setup none) :: s.settleAll (.error .closed)
  { s.shutDown with closers := s.closers ++ [⟨todo, .settling⟩] }

/-- Changes a closer. -/
def setCloser (s : State) (k : Nat) (c : Closer) : State :=
  { s with closers := s.closers.set k c }

/-- A closer asks the writer to end the stream, or finds that it has left. -/
def submitClose (s : State) (k : Nat) : Option (State × List Effect) :=
  match s.closers[k]? with
  | some ⟨todo, .queueing⟩ =>
    if s.outbox.isOpen then
      (s.enqueue .close).map fun s => (s.setCloser k ⟨todo, .waiting⟩, [])
    else some (s.setCloser k ⟨todo, .returned⟩, [])
  | _ => none

/-- Whether anybody uses the client. -/
def isUsed (s : State) : Bool :=
  s.held || s.calls.any Call.holdsClient || s.closers.any fun c => c.stage ≠ .returned

end State

open State in
/-- One step of a client, and what it shows; `none` if the step cannot be taken. -/
def step (setup : Setup) (s : State) : Label → Option (State × List Effect)
  | .call method payload keepsClient =>
    if s.held then some (s.call method payload keepsClient, []) else none
  | .frame i => s.frame i
  | .submit i => s.submit i
  | .collect i => s.collect i
  | .abandon i => s.abandon i
  | .arrive bytes => if s.inputEnded then none else some ({ s with inbox := s.inbox ++ bytes }, [])
  | .endInput => some ({ s with inputEnded := true }, [])
  | .receive => if s.isReading then s.receive setup else none
  | .failReceive cause => if s.isReading then some (s.failReader setup cause, []) else none
  | .readerAct =>
    match s.reader.todo with
    | act :: todo => some ({ s with reader := { s.reader with todo := todo } }.perform act)
    | [] => none
  | .stopReader =>
    if s.isReading && s.reader.abort then
      some ({ s with reader := { s.reader with ended := true } }, [])
    else none
  | .dequeue => s.dequeue setup
  | .write n => s.write n
  | .failWrite cause => s.failWrite setup cause
  | .writerAct =>
    match s.writer.todo with
    | act :: todo => some ({ s with writer := { s.writer with todo := todo } }.perform act)
    | [] => none
  | .endOutput =>
    match s.writer with
    | ⟨[], .closing⟩ => some ({ s with writer := ⟨[], .closed⟩ }, [.endOutput])
    | _ => none
  | .retire =>
    match s.writer with
    | ⟨[], .closed⟩ => some ({ s with writer := ⟨[], .ended⟩, outbox := ⟨[], false⟩ }, [])
    | _ => none
  | .close => if s.held then some (s.close setup, []) else none
  | .closerAct k =>
    match s.closers[k]? with
    | some ⟨act :: todo, stage⟩ => some ((s.setCloser k ⟨todo, stage⟩).perform act)
    | _ => none
  | .abortReader k =>
    match s.closers[k]? with
    | some ⟨[], .settling⟩ =>
      some ({ s.setCloser k ⟨[], .queueing⟩ with reader := { s.reader with abort := true } }, [])
    | _ => none
  | .submitClose k => s.submitClose k
  | .returnClose k =>
    match s.closers[k]?, s.writer.phase with
    | some ⟨todo, .waiting⟩, .ended => some (s.setCloser k ⟨todo, .returned⟩, [])
    | _, _ => none
  | .release => if s.held then some ({ s with held := false }, []) else none
  | .drop =>
    if s.isUsed || s.dropped.isSome then none
    else
      some ({ s.shutDown with
        dropped := some (s.settleAll (.error .closed))
        reader := { s.reader with abort := true } }, [])
  | .dropperAct =>
    match s.dropped with
    | some (act :: todo) => some ({ s with dropped := some todo }.perform act)
    | _ => none

end RemoteCall.Client
