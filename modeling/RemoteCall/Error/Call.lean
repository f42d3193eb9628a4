import RemoteCall.Error.Link

/-!
# Failures of a call

What a caller can be told instead of a result.  A response carries the kind of its error and a text,
from which `CallError.ofResponse` rebuilds what the caller sees.  `isFatal` tells whether the
connection is still good for another call.
-/

namespace RemoteCall

/-- Why a response carries an error text; `none` for a success and in every request. -/
inductive ErrorKind
  | none
  /-- The handler reported an error. -/
  | application
  /-- There is no such service or method. -/
  | dispatch
  /-- The arguments could not be read for the method. -/
  | invalidRequest
  deriving DecidableEq, Repr, Inhabited

/-- Why a service cannot be registered. -/
inductive RegistrationError
  | invalidName (name : String)
  | alreadyDefined (name : String)
  | noMethods (name : String)
  | described (text : String)
  deriving DecidableEq, Repr

/-- The text of a refused registration. -/
def RegistrationError.message : RegistrationError → String
  | .invalidName name => "invalid service name " ++ Text.quoted name
  | .alreadyDefined name => "service already defined: " ++ name
  | .noMethods name => "type " ++ name ++ " has no exported methods of suitable type"
  | .described text => text

/-- A failure of a call. -/
inductive CallError
  /-- The caller's own operation failed on the connection. -/
  | link (cause : LinkError)
  /-- The client was closed, or its connection had already failed. -/
  | closed
  /-- The connection failed, for the given reason, while the call was in flight. -/
  | lost (reason : String)
  | registration (cause : RegistrationError)
  /-- The handler reported an error, with this text. -/
  | application (text : String)
  /-- There is no such service or method. -/
  | dispatch (text : String)
  /-- The arguments could not be read for the method. -/
  | invalidRequest (text : String)
  deriving DecidableEq, Repr

namespace CallError

/-- The text of a failure.  What a response says is passed on unchanged. -/
def message : CallError → String
  | link cause => cause.message
  | closed => "connection is shut down"
  | lost reason => "connection lost: " ++ reason
  | registration cause => "registration failed: " ++ cause.message
  | application text => text
  | dispatch text => text
  | invalidRequest text => text

/-- What the error fields of a response mean to the caller. -/
def ofResponse (kind : ErrorKind) (text : String) : CallError :=
  match kind with
  | .dispatch => .dispatch text
  | .invalidRequest => .invalidRequest text
  | .application => .application text
  | .none => .application text

/-- Whether the connection is lost for further calls.  A frame that this side could not send was
refused before any of it went out, so it is not. -/
def isFatal : CallError → Bool
  | link cause => cause.isConnection
  | closed => true
  | lost _ => true
  | _ => false

end CallError

end RemoteCall
