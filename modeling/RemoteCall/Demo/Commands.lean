import RemoteCall.Demo.Options
import RemoteCall.Demo.Registry
import RemoteCall.Demo.Round
import RemoteCall.Config
import RemoteCall.Network
import RemoteCall.Server.Permits

/-!
# Demonstration: the two commands

One command serves both services and the other runs a round of calls against it.  `together` tells
how both end when the server is started, the client is run, and the server is interrupted.
-/

namespace RemoteCall.Demo

/-- The options that both commands have. -/
def addressOptions (verb : String) (networkAdmits : String → Bool) : List OptionSpec :=
  [⟨"network", networkAdmits, "Socket kind to " ++ verb ++ ": tcp or unix", some "tcp"⟩,
   ⟨"address", fun _ => true, "host:port for tcp, a socket path for unix", some "127.0.0.1:1234"⟩]

/-- Whether a text names a network. -/
def isNetwork (text : String) : Bool :=
  match Network.ofName? text with
  | .ok _ => true
  | .error _ => false

/-- The command that runs a round of calls. -/
def clientCommand : Command where
  name := "demo-client"
  about := "Run a round of calls against demo-server"
  options := addressOptions "connect over" (fun _ => true) ++
    [⟨"message", fun _ => true, "Text sent to the echo service", some "Hello, switchboard!"⟩]

/-- The command that serves. -/
def serverCommand : Command where
  name := "demo-server"
  about := "Serve the Arith and Echo demo services"
  options := addressOptions "listen on" isNetwork ++
    [⟨"max-in-flight", fun text => (wordOf? text).isSome,
        "Requests handled at once on a single connection", some "256"⟩,
     ⟨"idle-timeout", fun text => (wordOf? text).isSome,
        "Drop connections that stay silent for this many seconds", none⟩]

/-- The settings that the server's options make. -/
def serverConfig (values : List (String × String)) : ServerConfig :=
  let number (name : String) : Option Nat := (values.lookup name).bind wordOf?
  .build
    ((match number "max-in-flight" with
      | some n => [.maxInFlight n]
      | none => []) ++
     (match number "idle-timeout" with
      | some n => [.readTimeout (1000 * n)]
      | none => []))

/-- How a server command fares until it is interrupted. -/
inductive Serving
  /-- It never served; this is its exit code. -/
  | never (exit : Nat)
  | serving (config : ServerConfig)

/-- Starts the server command. -/
def startServer (args : List String) : Serving :=
  match serverCommand.read [] args with
  | .refused => .never 2
  | .help => .never 0
  | .version => .never 0
  | .run values => .serving (serverConfig values)

/-- How a command ended: its exit code and what it printed. -/
structure Ended where
  exit : Nat
  lines : List String
  deriving DecidableEq, Repr

/-- The exit code of a command that fails while it runs. -/
def failureExit : Nat := 1

/-- The exit code of a server that breaks down. -/
def breakdownExit : Nat := 101

/-- Runs the client command; `reach` tells whether there is a server that answers, for a network. -/
def runClient (reach : (network : String) → Option Caller) (args : List String) : Ended :=
  match clientCommand.read [] args with
  | .refused => ⟨2, []⟩
  | .help => ⟨0, clientCommand.helpLines⟩
  | .version => ⟨0, [clientCommand.name ++ " " ++ Command.versionText]⟩
  | .run values =>
    match reach ((values.lookup "network").getD "tcp") with
    | none => ⟨failureExit, []⟩
    | some caller =>
      let round := Round.run caller ((values.lookup "message").getD "Hello, switchboard!")
      ⟨if round.failed then failureExit else 0, round.lines⟩

/-- Whether a client on this machine can reach a server on it over a network. -/
def reachable (host : Host) (network : String) : Bool :=
  match Network.ofName? network with
  | .ok .tcp => host.hasRoute
  | .ok .unix => true
  | .error _ => false

/-- Starts a server, runs a client against it over `network`, and interrupts the server.  Returns
the server's exit code and how the client ended. -/
def together (host : Host) (network : String) (clientArgs serverArgs : List String) :
    Nat × Ended :=
  let located (args : List String) := ["--network", network, "--address", "here"] ++ args
  match startServer (located serverArgs), registry with
  | .never exit, _ => (exit, runClient (fun _ => none) (located clientArgs))
  | .serving _, .error _ => (failureExit, runClient (fun _ => none) (located clientArgs))
  | .serving config, .ok services =>
    let answers := config.canServe && config.readTimeout ≠ some 0
    let reach (name : String) : Option Caller :=
      if answers && reachable host name then some services.callRaw else none
    let connects : Bool :=
      match clientCommand.read [] (located clientArgs) with
      | .run _ => reachable host network
      | _ => false
    (if connects && !config.canServe then breakdownExit else 0,
      runClient reach (located clientArgs))

end RemoteCall.Demo
