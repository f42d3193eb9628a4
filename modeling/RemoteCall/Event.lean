import RemoteCall.Log
import RemoteCall.Text.Elapsed
import RemoteCall.Text.Quoted
import RemoteCall.Payload.Shown

/-!
# Events

What clients, servers and handlers report while they work.  An event can be forwarded to a log, one
line each, or be told in the short form of `Event.line`; nothing in the library reads events back.
-/

namespace RemoteCall

/-- Something worth reporting. -/
inductive Event
  /-- A server begins to serve a connection. -/
  | accepted (peer : String)
  /-- A server is done with a connection. -/
  | ended (peer : String) (error : Option String)
  /-- A handler ran.  Arguments and reply are in the form in which they are shown. -/
  | handled (method args reply : String) (error : Option String)
  /-- A request named a service or method that does not exist. -/
  | unknownMethod (peer method : String) (seq : UInt64)
  /-- A response went out, so many nanoseconds after its request was taken up. -/
  | written (method : String) (seq : UInt64) (nanos : Nat)
  /-- A response could not be sent. -/
  | failed (method : String) (seq : UInt64) (error : String)
  /-- A client is about to send a request. -/
  | issued (method : String) (seq : UInt64)
  /-- A client received a response on which nobody waits. -/
  | discarded (seq : UInt64)
  /-- A client stopped, and so many calls were waiting. -/
  | clientShutdown (peer : String) (pending : Nat) (error : Option String)
  deriving DecidableEq, Repr

namespace Event

/-- A sequence number as text. -/
def seqText (seq : UInt64) : String :=
  "seq=" ++ Nat.repr seq.toNat

/-- An error behind a colon, if there is one. -/
def suffix (error : Option String) : String :=
  match error with
  | none => ""
  | some text => ": " ++ text

/-- The short form of an event; `detailed` adds a handler's arguments and reply. -/
def line (detailed : Bool) : Event → String
  | accepted peer => "accepted " ++ peer
  | ended peer error => "closed " ++ peer ++ suffix error
  | handled method args reply error =>
    "handled " ++ method ++ (if detailed then " args=" ++ args ++ " reply=" ++ reply else "") ++
      suffix error
  | unknownMethod peer method seq => "unknown " ++ peer ++ " " ++ method ++ " " ++ seqText seq
  | written method seq _ => "written " ++ method ++ " " ++ seqText seq
  | failed method seq error => "failed " ++ method ++ " " ++ seqText seq ++ ": " ++ error
  | issued method seq => "issued " ++ method ++ " " ++ seqText seq
  | discarded seq => "discarded " ++ seqText seq
  | clientShutdown peer pending error =>
    "shutdown " ++ peer ++ " pending=" ++ Nat.repr pending ++ suffix error

/-- A sequence number as a field. -/
def seqField (seq : UInt64) : String × String :=
  ("seq", Nat.repr seq.toNat)

/-- The log line of an event. -/
def log : Event → LogLine
  | accepted peer => ⟨.info, "connection accepted", [("peer", peer)]⟩
  | ended peer none => ⟨.info, "connection closed", [("peer", peer)]⟩
  | ended peer (some error) => ⟨.warn, "connection closed", [("peer", peer), ("error", error)]⟩
  | handled method args reply error =>
    ⟨.debug,
      method ++ ": args = " ++ args ++ ", reply = " ++ reply ++ ", err = " ++ Shown.shown error, []⟩
  | unknownMethod peer method seq =>
    ⟨.warn, "unknown service method", [("peer", peer), ("service_method", method), seqField seq]⟩
  | written method seq nanos =>
    ⟨.trace, "response written",
      [("service_method", method), seqField seq, ("elapsed", Text.elapsed nanos)]⟩
  | failed method seq error =>
    ⟨.warn, "failed to write response",
      [("service_method", method), seqField seq, ("error", error)]⟩
  | issued method seq => ⟨.trace, "call issued", [("service_method", method), seqField seq]⟩
  | discarded seq => ⟨.debug, "discarding response with no pending call", [seqField seq]⟩
  | clientShutdown peer pending (some error) =>
    ⟨.warn, "client connection failed",
      [("peer", peer), ("pending", Nat.repr pending), ("error", error)]⟩
  | clientShutdown peer pending none =>
    ⟨.debug, "client closed", [("peer", peer), ("pending", Nat.repr pending)]⟩

end Event

/-- Where events go. -/
inductive Sink
  /-- Every event becomes a log line. -/
  | toLog
  /-- Events are dropped. -/
  | nowhere
  deriving DecidableEq, Repr

/-- The log lines that a sink makes of an event. -/
def Sink.lines (sink : Sink) (event : Event) : List LogLine :=
  match sink with
  | toLog => [event.log]
  | nowhere => []

end RemoteCall
