import RemoteCall.Frame.Basic

/-!
# Receiving frames over time

Bytes arrive in pieces, each at its time, and then the stream ends or stays silent.  A receiver
waits for the four bytes of a length and then for that many more.  With a timeout it gives up when
it has waited that long in all, and what arrives at that very moment is too late; the bytes that it
had already taken are then lost, and the next attempt begins at the present place of the stream,
with the whole time before it again.

`receiveAll` goes on after a timeout, for a while, and stops at any other failure.  Without a
timeout what it yields depends only on the bytes, not on how they were cut into pieces.
-/

namespace RemoteCall.Frame

/-- What reaches a receiver: pieces with the time of their arrival, earliest first, and the time at
which the stream ends, if it does. -/
structure Inflow where
  pieces : List (Nat × Bytes)
  ending : Option Nat
  deriving DecidableEq, Repr

/-- How a receiver is set up.  Times are in milliseconds. -/
structure Settings where
  limit : Nat
  timeout : Option Nat
  deriving DecidableEq, Repr, Inhabited

/-- A receiver without a timeout, and with the limit that is usual. -/
def Settings.default : Settings := ⟨defaultLimit, none⟩

/-- How waiting for bytes ended: at which time, and what is still to arrive. -/
inductive Gathered
  | got (bytes : Bytes) (time : Nat) (inflow : Inflow)
  | failed (cause : LinkError) (time : Nat) (inflow : Inflow)
  /-- Nothing more will happen. -/
  | never
  deriving DecidableEq, Repr

/-- Whether what happens at `time` comes too late for the deadline. -/
def isLate (deadline : Option Nat) (time : Nat) : Bool :=
  match deadline with
  | none => false
  | some d => d ≤ time

/-- Waits at `time` for the end of a stream from which nothing more comes. -/
def awaitEnding (deadline : Option Nat) (time : Nat) (ending : Option Nat) : Gathered :=
  match ending, deadline with
  | some e, _ =>
    if isLate deadline e then .failed (.timeout .receive) (deadline.getD time) ⟨[], ending⟩
    else .failed .closed (max time e) ⟨[], ending⟩
  | none, some d => .failed (.timeout .receive) (max time d) ⟨[], none⟩
  | none, none => .never

/-- Waits from `time` on for `n` bytes, of which `got` came already. -/
def gather (deadline ending : Option Nat) (n : Nat) (got : Bytes) (time : Nat) :
    List (Nat × Bytes) → Gathered
  | [] =>
    if Bytes.isShorter n got then awaitEnding deadline time ending
    else .got (got.take n) time ⟨[(time, got.drop n)], ending⟩
  | (t, bytes) :: pieces =>
    if Bytes.isShorter n got then
      if isLate deadline t then
        .failed (.timeout .receive) (deadline.getD time) ⟨(t, bytes) :: pieces, ending⟩
      else gather deadline ending n (got ++ bytes) (max time t) pieces
    else .got (got.take n) time ⟨(time, got.drop n) :: (t, bytes) :: pieces, ending⟩

/-- Waits from `time` on for `n` bytes. -/
def Inflow.gather (inflow : Inflow) (deadline : Option Nat) (time n : Nat) : Gathered :=
  Frame.gather deadline inflow.ending n [] time inflow.pieces

/-- Waits from `time` on for the next frame. -/
def receive (settings : Settings) (time : Nat) (inflow : Inflow) : Gathered :=
  let deadline := settings.timeout.map (time + ·)
  match inflow.gather deadline time 4 with
  | .got front time inflow =>
    let length := Bytes.ofBigEndian front
    if settings.limit < length then .failed (overLimit length settings.limit) time inflow
    else inflow.gather deadline time length
  | other => other

/-- How one attempt to receive ended. -/
inductive Received
  | frame (body : Bytes)
  | failed (cause : LinkError)
  | blocked
  deriving DecidableEq, Repr

/-- Receives again and again until a failure, but goes on after a timeout while there are fewer than
`patience` results.  `got` counts the results so far and `fuel` bounds those still to come. -/
def receiveFrom (settings : Settings) (patience got time : Nat) (inflow : Inflow) :
    (fuel : Nat) → List Received
  | 0 => []
  | fuel + 1 =>
    match receive settings time inflow with
    | .got body time inflow =>
      .frame body :: receiveFrom settings patience (got + 1) time inflow fuel
    | .failed (.timeout activity) time inflow =>
      .failed (.timeout activity) ::
        if got + 1 < patience then receiveFrom settings patience (got + 1) time inflow fuel else []
    | .failed cause _ _ => [.failed cause]
    | .never => [.blocked]

/-- How many bytes are still to arrive. -/
def Inflow.size (inflow : Inflow) : Nat :=
  (inflow.pieces.flatMap fun piece => piece.2).length

/-- Everything that a receiver gets to see of a stream.  Every frame takes at least four bytes, so
there are no more frames than bytes. -/
def receiveAll (settings : Settings) (patience : Nat) (inflow : Inflow) : List Received :=
  receiveFrom settings patience 0 0 inflow (inflow.size + patience + 1)

end RemoteCall.Frame
