import RemoteCall.Error.Link
import RemoteCall.Host
import RemoteCall.Text.Decimal
import RemoteCall.Text.Utf8

/-!
# Networks and addresses

A client reaches a server over a network, given by name, at an address.  A numeric address is a host
and a port with a colon between them.  Otherwise an address is the path of a place on the machine,
or, if it begins with a zero character, a name of its own beside all paths.  `Host.dial` tells why
nobody answers at an address, or that somebody does.
-/

namespace RemoteCall

/-- A kind of connection. -/
inductive Network
  | tcp
  | unix
  deriving DecidableEq, Repr

/-- The network of this name. -/
def Network.ofName? (name : String) : Except LinkError Network :=
  if name = "tcp" ∨ name = "tcp4" ∨ name = "tcp6" then .ok .tcp
  else if name = "unix" then .ok .unix
  else .error (.unsupportedNetwork name)

/-! ## Addresses -/

/-- The number of a port: digits, which a plus sign may precede, up to 65535. -/
def portNumber? (digits : List Char) : Option Nat :=
  Text.unsigned? 65535 digits

/-- The host and the port of a numeric address: what stands before and after its last colon. -/
def hostAndPort? (address : List Char) : Option (List Char × List Char) :=
  match address.reverse.span (· ≠ ':') with
  | (_, []) => none
  | (port, _ :: host) => some (host.reverse, port.reverse)

/-- A failure that this side finds in an address. -/
def badAddress (text : String) : LinkError :=
  .io (.worded .invalidInput text)

/-- What is wrong with a numeric address, if anything. -/
def tcpAddressFault (address : String) : Option LinkError :=
  match hostAndPort? address.toList with
  | none => some (badAddress "invalid socket address")
  | some (host, port) =>
    if (portNumber? port).isNone then some (badAddress "invalid port value")
    else if host.contains '\x00' then
      some (badAddress "file name contained an unexpected NUL byte")
    else none

/-- The longest path under which a server can be reached, in bytes, and the longest name beside all
paths. -/
def longestPath : Nat := 107

/-- What is wrong with a path, if anything. -/
def pathFault (path : String) : Option LinkError :=
  if path.toList.contains '\x00' then
    some (badAddress "paths must not contain interior null bytes")
  else if longestPath < path.utf8ByteSize then
    some (badAddress "path must be shorter than SUN_LEN")
  else if path.isEmpty then some (.io (.os Os.invalidArgument))
  else none

/-- What is wrong with a name beside all paths, if anything. -/
def abstractNameFault (name : String) : Option LinkError :=
  if longestPath < name.utf8ByteSize then
    some (badAddress "abstract socket name must be shorter than SUN_LEN")
  else none

/-! ## Dialing -/

/-- Tries to reach a server at a numeric address. -/
def Host.dialTcp (host : Host) (address : String) : LinkError :=
  match tcpAddressFault address with
  | some cause => cause
  | none => .io (.os (if host.hasRoute then Os.connectionRefused else Os.networkUnreachable))

/-- Tries to reach a server at a path or at a name beside all paths. -/
def Host.dialUnix (host : Host) (address : String) : Option LinkError :=
  match address.toList with
  | '\x00' :: name =>
    some ((abstractNameFault (String.ofList name)).getD (.io (.os Os.connectionRefused)))
  | _ =>
    match pathFault address with
    | some cause => some cause
    | none =>
      match host.resolve address with
      | .missing => some (.io (.os Os.notFound))
      | .silent => some (.io (.os Os.connectionRefused))
      | .notDirectory => some (.io (.os Os.notDirectory))
      | .listening => none

/-- Tries to reach a server; a failure tells why there is none.  Servers listen at paths only. -/
def Host.dial (host : Host) (network address : String) : Except LinkError Network :=
  match Network.ofName? network with
  | .error cause => .error cause
  | .ok .tcp => .error (host.dialTcp address)
  | .ok .unix =>
    match host.dialUnix address with
    | some cause => .error cause
    | none => .ok .unix

/-- Connecting without having been told where to. -/
def missingAddress : Network → LinkError
  | .tcp => .described "Address not set"
  | .unix => .described "Path not set"

end RemoteCall
