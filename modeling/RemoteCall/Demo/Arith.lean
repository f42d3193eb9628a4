import RemoteCall.Service.Call

/-!
# Demonstration: arithmetic

A service that adds, multiplies and divides 32-bit integers.  Results wrap around; division goes
toward zero and fails for a zero divisor, and only then.  The methods are registered under their
plain names and called under the normal forms.
-/

namespace RemoteCall.Demo.Arith

/-- Two operands. -/
structure Request where
  a : Int32
  b : Int32
  deriving DecidableEq, Repr, Inhabited

/-- A result. -/
structure Response where
  c : Int32
  deriving DecidableEq, Repr, Inhabited

instance : Payload Request where
  encode r := Payload.append (Payload.encode r.a) (Payload.encode r.b)
  decode := do
    let a ← Payload.decode
    let b ← Payload.decode
    return ⟨a, b⟩

instance : Payload Response where
  encode r := Payload.encode r.c
  decode := do return ⟨← Payload.decode⟩

instance : Shown Request :=
  ⟨fun r => Shown.record "ArithRequest" [("a", Shown.shown r.a), ("b", Shown.shown r.b)]⟩

instance : Shown Response :=
  ⟨fun r => Shown.record "ArithResponse" [("c", Shown.shown r.c)]⟩

/-- The sum. -/
def add : Handler Request Response := fun request _ => .done ⟨request.a + request.b⟩

/-- The product. -/
def mul : Handler Request Response := fun request _ => .done ⟨request.a * request.b⟩

/-- The quotient, toward zero. -/
def div : Handler Request Response := fun request reply =>
  if request.b = 0 then .failed reply ⟨"divide by zero"⟩ else .done ⟨request.a / request.b⟩

/-- Always fails. -/
def error : Handler Request Response := fun _ reply => .failed reply ⟨"ArithError"⟩

/-- The name of the service. -/
def serviceName : String := "ArithService"

/-- The method of a handler of this service. -/
def method (handler : Handler Request Response) : Method :=
  .ofHandler handler ⟨0⟩

/-- The methods of the service. -/
def methods : List (String × Method) :=
  [("add", method add), ("mul", method mul), ("div", method div), ("error", method error)]

/-! ## Calling the service -/

/-- Calls a method of the service. -/
def callMethod (caller : Caller) (name : String) (request : Request) :
    Option (Except CallError Response) :=
  call caller name request Response

/-- The sum, by a call. -/
def callAdd (caller : Caller) : Request → Option (Except CallError Response) :=
  callMethod caller "ArithService.Add"

/-- The product, by a call. -/
def callMul (caller : Caller) : Request → Option (Except CallError Response) :=
  callMethod caller "ArithService.Mul"

/-- The quotient, by a call. -/
def callDiv (caller : Caller) : Request → Option (Except CallError Response) :=
  callMethod caller "ArithService.Div"

/-- A failure, by a call. -/
def callError (caller : Caller) : Request → Option (Except CallError Response) :=
  callMethod caller "ArithService.Error"

end RemoteCall.Demo.Arith
