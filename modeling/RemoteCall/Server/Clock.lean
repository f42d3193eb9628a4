import RemoteCall.Server.Connection

/-!
# A connection in time

A connection can be told not to wait longer than a certain time for a frame.  The time is counted
from the moment at which it begins to wait for this frame; that bytes arrive meanwhile does not put
the deadline off.  A connection that gives up waiting stops reading.

`Connection.step` leaves open when its steps are taken.  `Timed.step` adds a clock.  What the
connection can read it reads at once, so the clock goes on only while there is nothing to read, and
it never goes on beyond the deadline.  What comes at the deadline itself may come just before the
connection gives up, or just after it.
-/

namespace RemoteCall.Connection

/-- Whether a connection begins to wait for a frame with this step. -/
def Label.beginsReading : Label → Bool
  | .announce => true
  | .acquire => true
  | .resume => true
  | _ => false

/-- When a connection that waits for a frame since `since` gives up. -/
def State.deadline (s : State) (timeout : Option Nat) (since : Nat) : Option Nat :=
  if s.phase = .reading then timeout.map (since + ·) else none

/-- Whether the connection can read a frame, or can find that it cannot. -/
def State.canRead (setup : Setup) (s : State) : Bool :=
  (step setup s .read).isSome

/-- The step of giving up. -/
def giveUpReading : Label := .failRead (.timeout .receive)

namespace Timed

/-- A connection and its clock, in milliseconds. -/
structure State where
  connection : Connection.State
  /-- When it began to wait for a frame. -/
  since : Nat
  time : Nat

/-- A connection that is watched from `time` on. -/
def start (connection : Connection.State) (time : Nat) : State :=
  ⟨connection, time, time⟩

/-- A step: who does what, or how much time passes. -/
inductive Label
  | step (label : Connection.Label)
  /-- The connection gives up waiting. -/
  | giveUp
  | pass (milliseconds : Nat)
  deriving DecidableEq, Repr

/-- Takes a step of the connection. -/
def State.take (setup : Setup) (s : State) (label : Connection.Label) :
    Option (State × List Effect) :=
  match Connection.step setup s.connection label with
  | some (c, shown) => some (⟨c, if label.beginsReading then s.time else s.since, s.time⟩, shown)
  | none => none

/-- One step of a connection with a clock, and what it shows; `none` if the step cannot be taken. -/
def step (setup : Setup) (timeout : Option Nat) (s : State) : Label → Option (State × List Effect)
  | .step label => if label = giveUpReading then none else s.take setup label
  | .giveUp =>
    match s.connection.deadline timeout s.since with
    | some deadline =>
      if s.connection.canRead setup = false ∧ deadline ≤ s.time then s.take setup giveUpReading
      else none
    | none => none
  | .pass n =>
    if s.connection.canRead setup then none
    else
      match s.connection.deadline timeout s.since with
      | some deadline =>
        if s.time + n ≤ deadline then some ({ s with time := s.time + n }, []) else none
      | none => some ({ s with time := s.time + n }, [])

end Timed

end RemoteCall.Connection
