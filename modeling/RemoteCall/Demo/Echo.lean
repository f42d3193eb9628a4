import RemoteCall.Service.Call

/-!
# Demonstration: echo

A service that sends a text back, once or twice.
-/

namespace RemoteCall.Demo.Echo

/-- A text. -/
structure Request where
  msg : String
  deriving DecidableEq, Repr, Inhabited

/-- The text that comes back. -/
structure Response where
  msg : String
  deriving DecidableEq, Repr, Inhabited

instance : Payload Request where
  encode r := Payload.encode r.msg
  decode := do return ⟨← Payload.decode⟩

instance : Payload Response where
  encode r := Payload.encode r.msg
  decode := do return ⟨← Payload.decode⟩

instance : Shown Request :=
  ⟨fun r => Shown.record "EchoRequest" [("msg", Shown.shown r.msg)]⟩

instance : Shown Response :=
  ⟨fun r => Shown.record "EchoResponse" [("msg", Shown.shown r.msg)]⟩

/-- The text as it is. -/
def echo : Handler Request Response := fun request _ => .done ⟨request.msg⟩

/-- The text twice, one right behind the other. -/
def echoTwice : Handler Request Response := fun request _ => .done ⟨request.msg ++ request.msg⟩

/-- The name of the service. -/
def serviceName : String := "EchoService"

/-- The methods of the service. -/
def methods : List (String × Method) :=
  [("Echo", .ofHandler echo ⟨""⟩), ("EchoTwice", .ofHandler echoTwice ⟨""⟩)]

/-! ## Calling the service -/

/-- The text, by a call. -/
def callEcho (caller : Caller) (request : Request) : Option (Except CallError Response) :=
  call caller "EchoService.Echo" request Response

/-- The text twice, by a call. -/
def callEchoTwice (caller : Caller) (request : Request) : Option (Except CallError Response) :=
  call caller "EchoService.EchoTwice" request Response

end RemoteCall.Demo.Echo
