import RemoteCall.Server.Clock

/-!
# Letting a connection come to rest

Takes the steps of one connection in a fixed order until none is left that does not need the outside
world.  Every answer to a script is obtained in this way, so scripts show only what some run of the
connection can show.
-/

namespace RemoteCall.Script

open Connection (Label State Effect Setup)

/-- What a connection's surroundings allow. -/
structure Surroundings where
  /-- The peer takes what is written. -/
  peerReads : Bool
  /-- The waits of handlers that are over. -/
  released : List Nat

/-- What a dispatched task waits for, if it does. -/
def gateOf (around : Surroundings) (task : Connection.Task) : Option Nat :=
  match task.handler, task.stage with
  | some method, .dispatched =>
    match method.awaits task.request.payload with
    | some gate => if around.released.contains gate then none else some gate
    | none => none
  | _, _ => none

/-- What a task can do next. -/
def taskLabel (around : Surroundings) (index : Nat) (task : Connection.Task) : Option Label :=
  match task.stage with
  | .dispatched => if (gateOf around task).isSome then none else some (.handle index)
  | .answered _ => some (.takeWriter index)
  | .settled _ => if task.handler.isSome then some (.report index 0) else none
  | _ => none

/-- What the tasks can do next. -/
def taskLabels (around : Surroundings) : (index : Nat) → List Connection.Task → List Label
  | _, [] => []
  | index, task :: tasks =>
    match taskLabel around index task with
    | some label => label :: taskLabels around (index + 1) tasks
    | none => taskLabels around (index + 1) tasks

/-- What the writer can do next. -/
def writerLabels (around : Surroundings) (s : State) : List Label :=
  match s.writing with
  | some (_, left) => [if around.peerReads then .write left.length else .failWrite .brokenPipe]
  | none => []

/-- The steps to try, in the order in which they are tried. -/
def connectionLabels (around : Surroundings) (s : State) : List Label :=
  .announce :: writerLabels around s ++ taskLabels around 0 s.tasks ++
    [.acquire, .resume, .notice, .read, .drain, .endOutput, .announceEnd]

/-- A connection at rest. -/
structure Rested where
  state : State
  /-- What its steps showed, the last first. -/
  shown : List Effect
  /-- Whether it began to wait for a frame. -/
  beganReading : Bool

/-- The first step that can be taken. -/
def firstStep (setup : Setup) (s : State) : List Label → Option (Label × State × List Effect)
  | [] => none
  | label :: labels =>
    match Connection.step setup s label with
    | some (s, effects) => some (label, s, effects)
    | none => firstStep setup s labels

/-- Takes at most `fuel` steps. -/
def restFor (setup : Setup) (around : Surroundings) (r : Rested) : (fuel : Nat) → Rested
  | 0 => r
  | fuel + 1 =>
    match firstStep setup r.state (connectionLabels around r.state) with
    | none => r
    | some (label, state, effects) =>
      restFor setup around
        ⟨state, effects.reverse ++ r.shown, r.beganReading || label.beginsReading⟩ fuel

/-- A bound on the steps that are possible without the outside world: a frame has at least four
bytes, and a request takes at most eight steps. -/
def stepBound (s : State) : Nat :=
  8 * (s.inbox.length + s.tasks.length) + 16

/-- Lets a connection come to rest. -/
def rest (setup : Setup) (around : Surroundings) (s : State) : Rested :=
  restFor setup around ⟨s, [], false⟩ (stepBound s)

/-- The waits of the handlers that run now. -/
def runningGates (around : Surroundings) (s : State) : List Nat :=
  s.tasks.filterMap (gateOf around)

end RemoteCall.Script
